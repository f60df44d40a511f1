import NamedRows.Proofs.Column.Take
import NamedRows.Table.Write

/-!
# Lists of named columns

What is found under a name after columns are replaced, removed or put in another order (`lookup_placed_of_ne`,
`lookup_filter_ne`, `lookup_filterMap_names`), hence after a change of another column (`column?_apply`) and in a table of
chosen columns (`column?_cols`), and what the checks on names and lengths let through (`firstRepeat?_eq_none`,
`badName?_eq_none`, `fault?_eq_none`).
-/

namespace NamedRows

/-- The column that a change is one of. -/
def Change.column? {κ : Type} : Change κ → Option String
  | .put name _ | .touch name | .remove name => some name
  | .keep | .cache _ | .order _ => none

/-- No name repeats one before it when they are distinct and none was seen already. -/
theorem firstRepeat?_eq_none (seen names : List String) :
    firstRepeat? seen names = none ↔ names.Nodup ∧ ∀ name ∈ names, name ∉ seen := by
  induction names generalizing seen with
  | nil => simp [firstRepeat?]
  | cons name names ih =>
    simp only [firstRepeat?, List.contains_iff_mem]
    by_cases h : name ∈ seen
    · rw [if_pos h]
      constructor
      · intro hnone
        cases hnone
      · rintro ⟨-, hs⟩
        exact absurd h (hs name List.mem_cons_self)
    · rw [if_neg h, ih, List.forall_mem_cons]
      simp only [List.nodup_cons, List.mem_cons, not_or]
      constructor
      · rintro ⟨hn, hs⟩
        exact ⟨⟨fun hm => (hs name hm).1 rfl, hn⟩, h, fun n hm => (hs n hm).2⟩
      · rintro ⟨⟨hm, hn⟩, -, hs⟩
        exact ⟨hn, fun n hn' => ⟨fun e => hm (e ▸ hn'), hs n hn'⟩⟩

namespace Table

variable {κ : Type}

/-! ## Look-ups -/

theorem contains_iff_mem {t : Table κ} {name : String} : t.contains name = true ↔ name ∈ t.names := by
  simp [contains]

theorem mem_of_lookup {columns : List (String × κ)} {name : String} {c : κ} (h : columns.lookup name = some c) :
    (name, c) ∈ columns := by
  obtain ⟨l₁, l₂, rfl, -⟩ := List.lookup_eq_some_iff.mp h
  exact List.mem_append_right _ List.mem_cons_self

/-- Under distinct names every entry is found. -/
theorem lookup_of_mem {columns : List (String × κ)} (hn : (columns.map Prod.fst).Nodup) {name : String} {c : κ}
    (h : (name, c) ∈ columns) : columns.lookup name = some c := by
  obtain ⟨before, after, rfl⟩ := List.append_of_mem h
  refine List.lookup_eq_some_iff.mpr ⟨before, after, rfl, fun q hq => ?_⟩
  rw [List.map_append, List.map_cons] at hn
  have hne : q.1 ≠ name := fun e =>
    (List.nodup_append.mp hn).2.2 q.1 (List.mem_map_of_mem hq) name List.mem_cons_self e
  simpa using hne.symm

/-- What is found does not depend on the order of the entries. -/
theorem lookup_perm {columns others : List (String × κ)} (h : columns.Perm others)
    (hn : (columns.map Prod.fst).Nodup) (name : String) : columns.lookup name = others.lookup name := by
  have hn' : (others.map Prod.fst).Nodup := (h.map Prod.fst).nodup_iff.mp hn
  cases hc : columns.lookup name with
  | some c => exact (lookup_of_mem hn' (h.mem_iff.mp (mem_of_lookup hc))).symm
  | none =>
    cases ho : others.lookup name with
    | none => rfl
    | some c => exact hc.symm.trans (lookup_of_mem hn (h.mem_iff.mpr (mem_of_lookup ho)))

theorem mem_names_of_column {t : Table κ} {name : String} {c : κ} (h : t.column? name = some c) : name ∈ t.names :=
  List.mem_map_of_mem (f := Prod.fst) (mem_of_lookup h)

/-! ## Changed lists -/

theorem names_placed (columns : List (String × κ)) (name : String) (c : κ) :
    (placed columns name c).map Prod.fst =
      if name ∈ columns.map Prod.fst then columns.map Prod.fst else columns.map Prod.fst ++ [name] := by
  simp only [placed, List.contains_iff_mem]
  split
  · rw [List.map_map]
    refine List.map_congr_left fun p _ => ?_
    simp only [Function.comp_apply]
    split
    · rename_i h; exact h.symm
    · rfl
  · simp

theorem nodup_placed {columns : List (String × κ)} (h : (columns.map Prod.fst).Nodup) (name : String) (c : κ) :
    ((placed columns name c).map Prod.fst).Nodup := by
  rw [names_placed]
  split
  · exact h
  · rename_i hn
    rw [List.nodup_append]
    exact ⟨h, by simp, fun a ha b hb => by rw [List.mem_singleton.mp hb]; exact fun e => hn (e ▸ ha)⟩

/-- A column of a changed list is the new one or an old one of another name. -/
theorem mem_placed {columns : List (String × κ)} {name : String} {c : κ} {p : String × κ}
    (h : p ∈ placed columns name c) : p = (name, c) ∨ p ∈ columns ∧ p.1 ≠ name := by
  simp only [placed, List.contains_iff_mem] at h
  split at h
  · obtain ⟨q, hq, rfl⟩ := List.mem_map.mp h
    by_cases hn : q.1 = name
    · exact Or.inl (if_pos hn)
    · rw [if_neg hn]; exact Or.inr ⟨hq, hn⟩
  · rename_i hnew
    rcases List.mem_append.mp h with h | h
    · exact Or.inr ⟨h, fun e => hnew (e ▸ List.mem_map_of_mem h)⟩
    · exact Or.inl (List.mem_singleton.mp h)

theorem lookup_replaced_of_ne (columns : List (String × κ)) {name other : String} (h : other ≠ name) (c : κ) :
    (columns.map fun p => if p.1 = name then (name, c) else p).lookup other = columns.lookup other := by
  induction columns with
  | nil => rfl
  | cons p columns ih =>
    obtain ⟨n, a⟩ := p
    rw [List.map_cons]
    by_cases hn : n = name
    · rw [if_pos hn, List.lookup_cons, List.lookup_cons, ih, beq_eq_false_iff_ne.mpr h,
        beq_eq_false_iff_ne.mpr (hn ▸ h)]
    · rw [if_neg hn, List.lookup_cons, List.lookup_cons, ih]

/-- Replacing or adding a column leaves the others where they are. -/
theorem lookup_placed_of_ne (columns : List (String × κ)) {name other : String} (h : other ≠ name) (c : κ) :
    (placed columns name c).lookup other = columns.lookup other := by
  unfold placed
  split
  · exact lookup_replaced_of_ne columns h c
  · rw [List.lookup_append, List.lookup_cons, beq_eq_false_iff_ne.mpr h]
    simp

theorem lookup_replaced_self {columns : List (String × κ)} {name : String} (h : name ∈ columns.map Prod.fst) (c : κ) :
    (columns.map fun p => if p.1 = name then (name, c) else p).lookup name = some c := by
  induction columns with
  | nil => cases h
  | cons p columns ih =>
    rw [List.map_cons]
    by_cases hp : p.1 = name
    · rw [if_pos hp, List.lookup_cons, beq_self_eq_true]
    · have hmem := (List.mem_cons.mp h).resolve_left (Ne.symm hp)
      obtain ⟨n, a⟩ := p
      rw [if_neg hp, List.lookup_cons, beq_eq_false_iff_ne.mpr (Ne.symm hp), ih hmem]

theorem lookup_placed_self (columns : List (String × κ)) (name : String) (c : κ) :
    (placed columns name c).lookup name = some c := by
  unfold placed
  split
  · rename_i hmem
    exact lookup_replaced_self (List.contains_iff_mem.mp hmem) c
  · rename_i hmem
    have hnone : columns.lookup name = none := by
      cases hc : columns.lookup name with
      | none => rfl
      | some c => exact absurd (List.contains_iff_mem.mpr (List.mem_map_of_mem (mem_of_lookup hc))) hmem
    rw [List.lookup_append, hnone]
    simp

/-- A name that is let through is found among the entries whose names are. -/
theorem lookup_filter (columns : List (String × κ)) (keep : String → Bool) {name : String} (h : keep name = true) :
    (columns.filter fun p => keep p.1).lookup name = columns.lookup name := by
  induction columns with
  | nil => rfl
  | cons p columns ih =>
    obtain ⟨n, a⟩ := p
    by_cases hn : keep n = true
    · rw [List.filter_cons_of_pos (by exact hn), List.lookup_cons, List.lookup_cons, ih]
    · have hne : name ≠ n := fun e => hn (e ▸ h)
      rw [List.filter_cons_of_neg (by exact hn), ih, List.lookup_cons, beq_eq_false_iff_ne.mpr hne]

theorem lookup_filter_ne (columns : List (String × κ)) {name other : String} (h : other ≠ name) :
    (columns.filter fun p => p.1 ≠ name).lookup other = columns.lookup other :=
  lookup_filter columns (fun n => n ≠ name) (decide_eq_true h)

/-- The columns of the given names, in their order; names of no column give nothing. -/
theorem lookup_filterMap_names (t : Table κ) (names : List String) (name : String) :
    (names.filterMap fun n => (t.column? n).map fun c => (n, c)).lookup name =
      if name ∈ names then t.column? name else none := by
  induction names with
  | nil => rfl
  | cons n names ih =>
    rw [List.filterMap_cons]
    by_cases hn : name = n
    · subst hn
      rw [if_pos List.mem_cons_self]
      cases hc : t.column? name with
      | none => simp [ih, hc]
      | some c => simp
    · have hm : name ∈ n :: names ↔ name ∈ names := by simp [hn]
      cases hc : t.column? n with
      | none => simp only [Option.map_none, ih, hm]
      | some c => simp only [Option.map_some, List.lookup_cons, beq_eq_false_iff_ne.mpr hn, ih, hm]

theorem names_filterMap_sublist (t : Table κ) (names : List String) :
    ((names.filterMap fun n => (t.column? n).map fun c => (n, c)).map Prod.fst).Sublist names := by
  induction names with
  | nil => exact List.Sublist.slnil
  | cons n names ih =>
    rw [List.filterMap_cons]
    cases t.column? n with
    | none => exact ih.cons n
    | some c => exact ih.cons_cons n

theorem mem_of_mem_filterMap_names {t : Table κ} {names : List String} {p : String × κ}
    (h : p ∈ names.filterMap fun n => (t.column? n).map fun c => (n, c)) : p.1 ∈ names ∧ p ∈ t.columns := by
  obtain ⟨n, hn, hp⟩ := List.mem_filterMap.mp h
  obtain ⟨c, hc, rfl⟩ := Option.map_eq_some_iff.mp hp
  exact ⟨hn, mem_of_lookup hc⟩

/-- A table of chosen columns has these and the key column, as far as they are there. -/
theorem column?_cols {t s : Table κ} {names : List String} (h : t.cols names = .ok s) (name : String) :
    s.column? name = if name = t.config.key ∨ name ∈ names then t.column? name else none := by
  have hmem : name ∈ (if names.contains t.config.key then [] else [t.config.key]) ++ names ↔
      name = t.config.key ∨ name ∈ names := by
    simp only [List.contains_iff_mem]
    split
    · rename_i hkey
      exact ⟨Or.inr, fun hname => hname.elim (fun heq => heq ▸ hkey) id⟩
    · exact List.mem_cons
  unfold cols at h
  split at h
  · cases h
  · cases h
    exact (lookup_filterMap_names t _ name).trans (by simp only [hmem])

/-- A column of a table of chosen columns is that column of the whole table. -/
theorem column?_cols_of_mem {t s : Table κ} {names : List String} (h : t.cols names = .ok s) {name : String}
    (hname : name ∈ s.names) : s.column? name = t.column? name := by
  rw [column?_cols h]
  refine if_pos (Decidable.byContradiction fun hnot => ?_)
  have hnone : s.column? name = none := (column?_cols h name).trans (if_neg hnot)
  obtain ⟨p, hp, rfl⟩ := List.mem_map.mp hname
  exact absurd rfl (bne_iff_ne.mp (List.lookup_eq_none_iff.mp hnone p hp))

/-! ## Changes -/

theorem columns_stamp (t : Table κ) (name : String) : (t.stamp name).columns = t.columns := by
  unfold stamp
  split <;> rfl

theorem column?_apply_put (t : Table κ) (name : String) (c : κ) : (t.apply (.put name c)).column? name = some c := by
  rw [apply, column?, columns_stamp]
  exact lookup_placed_self t.columns name c

/-- The columns that a change is not one of stay, and an order of columns has to list them. -/
theorem column?_apply {t : Table κ} {c : Change κ} {name : String} (h : c.column? ≠ some name)
    (horder : ∀ names, c = .order names → name ∈ t.names → name ∈ names) :
    (t.apply c).column? name = t.column? name := by
  have hne : ∀ {other : String}, c.column? = some other → name ≠ other := fun hother he => h (he ▸ hother)
  have hstamp : ∀ (u : Table κ) (other : String), (u.stamp other).column? name = u.columns.lookup name :=
    fun u other => congrArg (List.lookup name) (columns_stamp u other)
  cases c with
  | keep | cache d => rfl
  | put other column => exact (hstamp _ other).trans (lookup_placed_of_ne t.columns (hne rfl) column)
  | touch other => exact hstamp t other
  | remove other => exact (hstamp _ other).trans (lookup_filter_ne t.columns (hne rfl))
  | order names =>
    have hlookup : (t.apply (.order names)).column? name = if name ∈ names then t.column? name else none :=
      lookup_filterMap_names t names name
    rw [hlookup]
    cases hc : t.column? name with
    | none => exact ite_self none
    | some c => exact if_pos (horder names rfl (mem_names_of_column hc))

/-! ## Checks -/

/-- The check on a list of names looks at nothing of a table but its names. -/
theorem badName?_congr {μ : Type} {t : Table κ} {u : Table μ} (h : t.names = u.names)
    (f : String → Error.Construction) (seen names : List String) :
    t.badName? f seen names = u.badName? f seen names := by
  induction names generalizing seen with
  | nil => rfl
  | cons name names ih =>
    have hc : t.contains name = u.contains name := by rw [contains, contains, h]
    rw [badName?, badName?, hc, ih]

/-- A list of names passes when they are distinct names of columns and none was seen already. -/
theorem badName?_eq_none (t : Table κ) (f : String → Error.Construction) (seen names : List String) :
    t.badName? f seen names = none ↔
      (∀ name ∈ names, name ∈ t.names) ∧ names.Nodup ∧ ∀ name ∈ names, name ∉ seen := by
  induction names generalizing seen with
  | nil => simp [badName?]
  | cons name names ih =>
    simp only [badName?, Bool.not_eq_true', List.contains_iff_mem]
    by_cases hc : t.contains name = true
    · rw [if_neg (by simp [hc])]
      by_cases h : name ∈ seen
      · rw [if_pos h]
        constructor
        · intro hnone
          cases hnone
        · rintro ⟨-, -, hs⟩
          exact absurd h (hs name List.mem_cons_self)
      · rw [if_neg h, ih, List.forall_mem_cons, List.forall_mem_cons]
        simp only [List.nodup_cons, List.mem_cons, not_or]
        constructor
        · rintro ⟨ht, hn, hs⟩
          exact ⟨⟨contains_iff_mem.mp hc, ht⟩, ⟨fun hm => (hs name hm).1 rfl, hn⟩, h, fun n hm => (hs n hm).2⟩
        · rintro ⟨⟨-, ht⟩, ⟨hm, hn⟩, -, hs⟩
          exact ⟨ht, hn, fun n hn' => ⟨fun e => hm (e ▸ hn'), hs n hn'⟩⟩
    · rw [if_pos (by simpa using hc)]
      constructor
      · intro hnone
        cases hnone
      · rintro ⟨ht, -, -⟩
        exact absurd (contains_iff_mem.mpr (ht name List.mem_cons_self)) hc

/-- Columns make a table when their names are distinct and they are as long as the first one. -/
theorem fault?_eq_none (columns : List (String × Column)) (config : Config) :
    fault? columns = none ↔
      (columns.map Prod.fst).Nodup ∧
        ∀ p ∈ columns, p.2.size = (⟨columns, config, 0, none⟩ : Table Column).rowCount := by
  have hn := firstRepeat?_eq_none [] (columns.map Prod.fst)
  simp only [List.not_mem_nil, not_false_eq_true, implies_true, and_true] at hn
  unfold fault?
  cases hr : firstRepeat? [] (columns.map Prod.fst) with
  | some name =>
    constructor
    · intro hnone
      cases hnone
    · rintro ⟨hnodup, -⟩
      rw [hn.mpr hnodup] at hr
      cases hr
  | none =>
    cases columns with
    | nil => simp
    | cons p rest =>
      simp only [Option.map_eq_none_iff, List.find?_eq_none, decide_eq_true_eq, Decidable.not_not, rowCount,
        List.forall_mem_cons, true_and]
      constructor
      · intro hsizes
        exact ⟨hn.mp hr, hsizes⟩
      · rintro ⟨-, hsizes⟩
        exact hsizes

end Table

end NamedRows
