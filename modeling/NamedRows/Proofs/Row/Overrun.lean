import NamedRows.Proofs.Outcome
import NamedRows.Row.Resolve

/-!
# Clamped and refused ends

A source that clamps the ends of name ranges differs from one that refuses ends outside the table only where that one
fails because an index is out of range. It is so for one end (`fitBound_waives`), and since a stage of a chain either
passes on the same rows or has failed, for every selector (`resolve_waives`).
-/

namespace NamedRows

/-- The source under another policy for the ends of name ranges. -/
def Source.under (src : Source) (overrun : Overrun) : Source := { src with overrun }

/-- The second computation is the first one, unless that fails because an index is out of range. -/
abbrev Admits {α : Type} (x y : Except Error α) : Prop := Waives (fun e : Error => e.family = .index) x y

/-! ## Ends -/

/-- An end that is clamped stays where it is, or would have been refused. -/
theorem fitBound_waives (p : Int) (size : Nat) : Admits (fitBound .fail p size) (fitBound .clamp p size) := by
  by_cases hp : 0 ≤ p ∧ p < size
  · have hne : size ≠ 0 := by omega
    have hfit : (max 0 (min p (size - 1))).toNat = p.toNat := by omega
    refine Or.inl ?_
    simp only [fitBound, checkRow, if_pos hp, if_neg hne, hfit]
  · exact Or.inr ⟨.outOfRange p (.rows size), if_neg hp, rfl⟩

variable [Externals]

section Ends

variable (src : Source) (w : Window)

/-- Where an end lies does not depend on the policy; only what becomes of it does. -/
theorem rangeBound_waives (text : String) :
    Admits (rangeBound (src.under .fail) w text) (rangeBound (src.under .clamp) w text) :=
  (Waives.refl (w.directory src)).bind fun d =>
    (Waives.refl (boundPosition src d text)).bind fun p => fitBound_waives p (w.size src)

theorem rangeStart_waives (start : Option String) :
    Admits (rangeStart (src.under .fail) w start) (rangeStart (src.under .clamp) w start) := by
  cases start with
  | none => exact .refl _
  | some text => exact rangeBound_waives src w text

theorem resolveNameRange_waives (start stop : Option String) :
    Admits (resolveNameRange (src.under .fail) w start stop) (resolveNameRange (src.under .clamp) w start stop) := by
  refine (rangeStart_waives src w start).bind fun lo => ?_
  cases stop with
  | none => exact .refl _
  | some text => exact (rangeBound_waives src w text).bind fun hi => .refl _

end Ends

/-! ## All selectors -/

theorem resolveNames_under (src : Source) (w : Window) (overrun : Overrun) (texts : List String) :
    resolveNames (src.under overrun) w texts = resolveNames src w texts := by
  induction texts with
  | nil => rfl
  | cons text texts ih =>
    simp only [resolveNames, ih]
    rfl

mutual

/-- Only the ends of name ranges are treated differently, and only those that lie outside the table. -/
theorem resolve_waives (src : Source) (strict : Bool) : ∀ (sel : Selector) (w : Window),
    Admits (resolve (src.under .fail) strict w sel) (resolve (src.under .clamp) strict w sel)
  | .nameRange start stop, w => resolveNameRange_waives src w start stop
  | .chain stages, w => resolveStages_waives src strict stages w
  | .names texts, w => by
    simp only [resolve, resolveNames_under]
    exact .refl _
  | .all, _ | .index _, _ | .name _, _ | .address _, _ | .slice _ _ _, _ | .valueRange _ _ _, _
  | .indices _, _ | .mask _, _ => Or.inl rfl

/-- A stage that is treated differently ends the run that refuses ends. -/
theorem resolveStages_waives (src : Source) (strict : Bool) : ∀ (stages : List Selector) (w : Window),
    Admits (resolveStages (src.under .fail) strict w stages) (resolveStages (src.under .clamp) strict w stages)
  | [], _ => Or.inl rfl
  | [stage], w => resolve_waives src strict stage w
  | stage :: next :: stages, w =>
    (resolve_waives src strict stage w).bind fun s =>
      resolveStages_waives src strict (next :: stages) ⟨some s.positions⟩

end

end NamedRows
