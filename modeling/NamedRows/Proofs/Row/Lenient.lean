import NamedRows.Proofs.Name.Address
import NamedRows.Row.Resolve

/-!
# Strict and lenient resolution

Lenient resolution differs from strict resolution only where that one fails because a text cannot be read or names
nothing (`Relaxes`, `resolve_relaxes`). In particular a selection that strict resolution comes to is also the one that
lenient resolution comes to (`select_lenient`).
-/

namespace NamedRows

/-- The lenient run is the strict one, unless that fails because a text cannot be read or names nothing. -/
def Relaxes {α : Type} (strict lenient : Except Error α) : Prop :=
  lenient = strict ∨ ∃ e, strict = .error e ∧ (e.family = .lookup ∨ e.family = .parse)

section Relaxes

variable {α β : Type}

theorem Relaxes.refl (x : Except Error α) : Relaxes x x := Waives.refl x

/-- What follows a computation may relax as well. -/
theorem Relaxes.bind {x y : Except Error α} {f g : α → Except Error β} (h : Relaxes x y)
    (hf : ∀ a, Relaxes (f a) (g a)) : Relaxes (x >>= f) (y >>= g) :=
  Waives.bind h hf

/-- A strict run that succeeds is not relaxed. -/
theorem Relaxes.eq_of_ok {x y : Except Error α} (h : Relaxes x y) {a : α} (hx : x = .ok a) : y = .ok a :=
  Waives.eq_of_ok h hx

end Relaxes

/-- A text that stands for nothing readable is a parse error. -/
theorem family_of_naming {d : Directory} {text : String} {e : Error} (h : naming d text = .unreadable e) :
    e.family = .parse := by
  unfold naming at h
  split at h
  · cases h
  · split at h
    · rename_i hp
      cases h
      exact Address.family_of_parse hp
    · split at h
      · cases h
      · split at h <;> cases h

variable [Externals]

theorem resolveName_relaxes (src : Source) (w : Window) (text : String) :
    Relaxes (resolveName src w true text) (resolveName src w false text) := by
  unfold resolveName
  refine (Relaxes.refl (w.directory src)).bind fun d => ?_
  cases hm : naming d text with
  | row a => exact .refl _
  | pattern a => exact .refl _
  | unreadable e => exact Or.inr ⟨e, rfl, Or.inr (family_of_naming hm)⟩
  | nothing => exact Or.inr ⟨_, rfl, Or.inl rfl⟩

mutual

/-- Only texts are resolved differently, and only those that cannot be read or name nothing. -/
theorem resolve_relaxes (src : Source) : ∀ (sel : Selector) (w : Window),
    Relaxes (resolve src true w sel) (resolve src false w sel)
  | .name text, w => resolveName_relaxes src w text
  | .chain stages, w => resolveStages_relaxes src stages w
  | .all, _ | .index _, _ | .address _, _ | .slice _ _ _, _ | .nameRange _ _, _ | .valueRange _ _ _, _
  | .indices _, _ | .names _, _ | .mask _, _ => Or.inl rfl

/-- A stage that is resolved differently ends the strict run. -/
theorem resolveStages_relaxes (src : Source) : ∀ (stages : List Selector) (w : Window),
    Relaxes (resolveStages src true w stages) (resolveStages src false w stages)
  | [], _ => .refl _
  | [stage], w => resolve_relaxes src stage w
  | stage :: next :: stages, w =>
    (resolve_relaxes src stage w).bind fun s => resolveStages_relaxes src (next :: stages) ⟨some s.positions⟩

end

/-- What a selector means strictly it means leniently. -/
theorem select_lenient {src : Source} {sel : Selector} {s : Selection} (h : src.select sel true = .ok s) :
    src.select sel false = .ok s :=
  (resolve_relaxes src sel {}).eq_of_ok h

end NamedRows
