/-!
# Outcomes

When a composed computation succeeds or fails (`bind_eq_ok`, `bind_eq_error`, `mem_of_mapM_eq_ok`), how what is done
with its result moves past the composition (`map_bind`, `bind_map`), computations that fail only with errors of some
sort (`FailsWith`), computations that run side by side (`Parallel`), and computations that differ only where one of them
fails with an error of some sort (`Waives`).
-/

namespace NamedRows

variable {ε α β γ : Type}

theorem ok_bind (a : α) (f : α → Except ε β) : ((Except.ok a : Except ε α) >>= f) = f a := rfl

theorem error_bind (e : ε) (f : α → Except ε β) : ((Except.error e : Except ε α) >>= f) = .error e := rfl

/-- A composition succeeds when both of its parts do. -/
theorem bind_eq_ok {x : Except ε α} {f : α → Except ε β} {b : β} :
    (x >>= f) = .ok b ↔ ∃ a, x = .ok a ∧ f a = .ok b := by
  cases x with
  | error e => simp [error_bind]
  | ok a => simp [ok_bind]

/-- A composition fails when one of its parts does, the first one first. -/
theorem bind_eq_error {x : Except ε α} {f : α → Except ε β} {e : ε} :
    (x >>= f) = .error e ↔ x = .error e ∨ ∃ a, x = .ok a ∧ f a = .error e := by
  cases x with
  | error e' => simp [error_bind]
  | ok a => simp [ok_bind]

theorem map_eq_ok {x : Except ε α} {f : α → β} {b : β} : x.map f = .ok b ↔ ∃ a, x = .ok a ∧ f a = b := by
  cases x <;> simp [Except.map]

theorem map_eq_error {x : Except ε α} {f : α → β} {e : ε} : x.map f = .error e ↔ x = .error e := by
  cases x <;> simp [Except.map]

theorem map_map (x : Except ε α) (f : α → β) (g : β → γ) : (x.map f).map g = x.map (g ∘ f) := by
  cases x <;> rfl

theorem map_bind (x : Except ε α) (f : α → Except ε β) (g : β → γ) :
    (x >>= f).map g = x >>= fun a => (f a).map g := by
  cases x <;> rfl

theorem bind_map (x : Except ε α) (f : α → β) (g : β → Except ε γ) : (x.map f >>= g) = x >>= fun a => g (f a) := by
  cases x <;> rfl

/-- Two compositions agree when their second parts agree on what the first one gives. -/
theorem bind_congr_ok {x : Except ε α} {f g : α → Except ε β} (h : ∀ a, x = .ok a → f a = g a) :
    (x >>= f) = (x >>= g) := by
  cases x with
  | error e => rfl
  | ok a => exact h a rfl

/-- Every entry of a list of results is the result for an entry of the list. -/
theorem mem_of_mapM_eq_ok {f : α → Except ε β} {as : List α} {bs : List β} (h : as.mapM f = .ok bs) :
    ∀ b ∈ bs, ∃ a ∈ as, f a = .ok b := by
  induction as generalizing bs with
  | nil => cases h; intro b hb; cases hb
  | cons a as ih =>
    rw [List.mapM_cons] at h
    obtain ⟨b, hb, h⟩ := bind_eq_ok.mp h
    obtain ⟨bs', hbs, h⟩ := bind_eq_ok.mp h
    cases h
    intro b' hm
    rcases List.mem_cons.mp hm with rfl | hm
    · exact ⟨a, List.mem_cons_self, hb⟩
    · obtain ⟨a', ha, hf⟩ := ih hbs b' hm
      exact ⟨a', List.mem_cons_of_mem _ ha, hf⟩

/-- Doing something with every result is doing it within the computation of each. -/
theorem map_mapM (f : α → Except ε β) (g : β → γ) (as : List α) :
    (as.mapM f).map (List.map g) = as.mapM fun a => (f a).map g := by
  induction as with
  | nil => rfl
  | cons a as ih =>
    rw [List.mapM_cons, List.mapM_cons, ← ih, map_bind, bind_map]
    refine bind_congr_ok fun b _ => ?_
    rw [map_bind, bind_map]
    rfl

/-! ## Errors of a sort -/

/-- A computation fails only with errors of the given sort. -/
def FailsWith (sort : ε → Prop) (x : Except ε α) : Prop := ∀ e, x = .error e → sort e

namespace FailsWith

variable {sort sort' : ε → Prop} {x : Except ε α}

theorem ok (a : α) : FailsWith sort (.ok a : Except ε α) := fun _ h => nomatch h

theorem error {e : ε} (h : sort e) : FailsWith sort (.error e : Except ε α) := by
  rintro _ ⟨⟩
  exact h

theorem mono (h : FailsWith sort x) (hs : ∀ e, sort e → sort' e) : FailsWith sort' x := fun e he => hs e (h e he)

/-- What follows a computation has to be looked at only for what that gives. -/
theorem bind {f : α → Except ε β} (h : FailsWith sort x) (hf : ∀ a, x = .ok a → FailsWith sort (f a)) :
    FailsWith sort (x >>= f) := by
  intro e he
  rcases bind_eq_error.mp he with he | ⟨a, ha, he⟩
  · exact h e he
  · exact hf a ha e he

theorem map {f : α → β} (h : FailsWith sort x) : FailsWith sort (x.map f) := fun e he => h e (map_eq_error.mp he)

end FailsWith

/-! ## Computations side by side -/

/-- Two computations that fail with the same error, or succeed with related results. -/
inductive Parallel {δ : Type} (R : α → δ → Prop) : Except ε α → Except ε δ → Prop
  | error (e : ε) : Parallel R (.error e) (.error e)
  | ok {a : α} {d : δ} : R a d → Parallel R (.ok a) (.ok d)

namespace Parallel

variable {δ ζ : Type} {R : α → δ → Prop} {S : β → ζ → Prop}

theorem error_or_ok {x : Except ε α} {y : Except ε δ} (h : Parallel R x y) :
    (∃ e, x = .error e ∧ y = .error e) ∨ ∃ a d, x = .ok a ∧ y = .ok d ∧ R a d := by
  cases h with
  | error e => exact Or.inl ⟨e, rfl, rfl⟩
  | ok h => exact Or.inr ⟨_, _, rfl, rfl, h⟩

theorem bind {x : Except ε α} {y : Except ε δ} {f : α → Except ε β} {g : δ → Except ε ζ} (h : Parallel R x y)
    (hf : ∀ a d, R a d → Parallel S (f a) (g d)) : Parallel S (x >>= f) (y >>= g) := by
  cases h with
  | error e => exact .error e
  | ok h => exact hf _ _ h

theorem map {x : Except ε α} {y : Except ε δ} {f : α → β} {g : δ → ζ} (h : Parallel R x y)
    (hf : ∀ a d, R a d → S (f a) (g d)) : Parallel S (x.map f) (y.map g) := by
  cases h with
  | error e => exact .error e
  | ok h => exact .ok (hf _ _ h)

end Parallel

/-! ## Computations that waive errors -/

/-- The second computation is the first one, unless that fails with an error of the given sort. -/
def Waives (sort : ε → Prop) (x y : Except ε α) : Prop := y = x ∨ ∃ e, x = .error e ∧ sort e

namespace Waives

variable {sort : ε → Prop} {x y : Except ε α}

theorem refl (x : Except ε α) : Waives sort x x := Or.inl rfl

/-- What follows a computation may waive errors as well. -/
theorem bind {f g : α → Except ε β} (h : Waives sort x y) (hf : ∀ a, Waives sort (f a) (g a)) :
    Waives sort (x >>= f) (y >>= g) := by
  rcases h with rfl | ⟨e, rfl, he⟩
  · cases y with
    | error e => exact .refl _
    | ok a => exact hf a
  · exact Or.inr ⟨e, rfl, he⟩

/-- Nothing is waived where the first computation succeeds. -/
theorem eq_of_ok (h : Waives sort x y) {a : α} (hx : x = .ok a) : y = .ok a := by
  rcases h with rfl | ⟨e, rfl, -⟩
  · exact hx
  · cases hx

/-- An error of the first computation is one of the second, or of the given sort. -/
theorem error_or (h : Waives sort x y) {e : ε} (hx : x = .error e) : y = .error e ∨ sort e := by
  rcases h with rfl | ⟨e', rfl, he⟩
  · exact Or.inl hx
  · cases hx
    exact Or.inr he

end Waives

end NamedRows
