import NamedRows.Name.Directory

/-!
# What a directory holds

A directory of a list of names holds, under each name, the rows at which it stands (`rowsNamed`), and for each row the
place of its name and the number of earlier rows of that name (`Directory.Lists`). One row more keeps this
(`Directory.Lists.push`), so it is so for the directory of every column (`build_lists`). Looking up the row of a name's
occurrence undoes looking up the name and occurrence of a row (`Directory.Lists.row_label`).
-/

namespace NamedRows

/-- The rows at which a name stands in a list of names, ascending. -/
def rowsNamed (names : List String) (name : String) : List Nat :=
  (List.range names.length).filter fun row => names[row]? = some name

theorem mem_rowsNamed {names : List String} {name : String} {row : Nat} :
    row ∈ rowsNamed names name ↔ names[row]? = some name := by
  simp only [rowsNamed, List.mem_filter, List.mem_range, decide_eq_true_eq, and_iff_right_iff_imp]
  exact fun h => (List.getElem?_eq_some_iff.mp h).1

theorem nodup_rowsNamed (names : List String) (name : String) : (rowsNamed names name).Nodup :=
  List.nodup_range.sublist List.filter_sublist

theorem length_rowsNamed_le (names : List String) (name : String) : (rowsNamed names name).length ≤ names.length := by
  have h := List.length_filter_le (fun row => decide (names[row]? = some name)) (List.range names.length)
  rwa [List.length_range] at h

/-- A row more stands at the end of its name's rows, and no other rows change. -/
theorem rowsNamed_append (names : List String) (last name : String) :
    rowsNamed (names ++ [last]) name = rowsNamed names name ++ if last = name then [names.length] else [] := by
  simp only [rowsNamed, List.length_append, List.length_singleton, List.range_succ, List.filter_append]
  congr 1
  · refine List.filter_congr fun row hr => ?_
    rw [List.getElem?_append_left (List.mem_range.mp hr)]
  · by_cases h : last = name <;> simp [h]

/-- A name that does not occur has no rows. -/
theorem rowsNamed_eq_nil {names : List String} {name : String} (h : name ∉ names) : rowsNamed names name = [] :=
  List.eq_nil_iff_forall_not_mem.mpr fun _ hr => h (List.mem_of_getElem? (mem_rowsNamed.mp hr))

/-- The rows of a name in the first names come first among its rows. -/
theorem rowsNamed_prefix (names more : List String) (name : String) :
    rowsNamed names name <+: rowsNamed (names ++ more) name := by
  induction more generalizing names with
  | nil => simp
  | cons last more ih =>
    rw [List.append_cons]
    refine List.IsPrefix.trans ?_ (ih (names ++ [last]))
    rw [rowsNamed_append]
    exact List.prefix_append _ _

/-- A row stands among the rows of its name at the place that counts the earlier ones. -/
theorem getElem?_rowsNamed {names : List String} {name : String} {row : Nat} (h : names[row]? = some name) :
    (rowsNamed names name)[(rowsNamed (names.take row) name).length]? = some row := by
  obtain ⟨hlt, hget⟩ := List.getElem?_eq_some_iff.mp h
  have hlen : (names.take row).length = row := List.length_take_of_le (Nat.le_of_lt hlt)
  have hsplit : names = names.take row ++ [name] ++ names.drop (row + 1) := by
    rw [← hget, List.append_assoc, List.singleton_append, List.getElem_cons_drop, List.take_append_drop]
  have hprefix := rowsNamed_prefix (names.take row ++ [name]) (names.drop (row + 1)) name
  rw [← hsplit, rowsNamed_append, if_pos rfl, hlen] at hprefix
  obtain ⟨later, hlater⟩ := hprefix
  rw [← hlater, List.append_assoc, List.getElem?_append_right (Nat.le_refl _), Nat.sub_self]
  rfl

namespace Directory

/-- A directory that lists the rows of `names`. -/
structure Lists (d : Directory) (names : List String) : Prop where
  size_eq : d.labels.size = names.length
  slot_iff : ∀ (name : String) (slot : Nat), d.slots[name]? = some slot ↔ d.names[slot]? = some name
  rowsOf_eq : ∀ name : String, d.rowsOf[name]? = if name ∈ names then some (rowsNamed names name).toArray else none
  label_eq : ∀ (row : Nat) (name : String), names[row]? = some name →
    ∃ slot, d.labels[row]? = some (slot, (rowsNamed (names.take row) name).length) ∧ d.names[slot]? = some name

variable {d : Directory} {names : List String}

theorem empty_lists (version : Nat) : (empty version).Lists [] where
  size_eq := rfl
  slot_iff name slot := by simp [empty]
  rowsOf_eq name := by simp [empty]
  label_eq row name h := by simp at h

theorem getElem?_insert {α : Type} (m : Std.TreeMap String α) (name other : String) (a : α) :
    (m.insert name a)[other]? = if name = other then some a else m[other]? := by
  rw [Std.TreeMap.getElem?_insert]
  simp only [Std.compare_eq_iff_eq]

/-- The rows of a name as they are looked up, none if it does not occur. -/
theorem Lists.occurrences_eq (h : d.Lists names) (name : String) :
    d.occurrences name = (rowsNamed names name).toArray := by
  unfold occurrences
  rw [h.rowsOf_eq]
  by_cases hm : name ∈ names
  · rw [if_pos hm]
    rfl
  · rw [if_neg hm, rowsNamed_eq_nil hm]
    rfl

/-- The place of a name: the one it has, or else the next one. -/
def slotOf (d : Directory) (name : String) : Nat := d.slots[name]?.getD d.names.size

/-- Entering a name puts it into its place, and leaves the others where they are. -/
theorem Lists.getElem?_names_push (h : d.Lists names) (name : String) {i : Nat} {other : String} :
    (d.push name).names[i]? = some other ↔ (i = d.slotOf name ∧ other = name) ∨ d.names[i]? = some other := by
  cases hs : d.slots[name]? with
  | some slot =>
    have hslot : d.slotOf name = slot := by simp [slotOf, hs]
    have hnames : (d.push name).names = d.names := by
      simp [push, Std.TreeMap.contains_eq_isSome_getElem?, hs]
    rw [hslot, hnames]
    refine ⟨Or.inr, ?_⟩
    rintro (⟨rfl, rfl⟩ | hi)
    · exact (h.slot_iff other i).mp hs
    · exact hi
  | none =>
    have hslot : d.slotOf name = d.names.size := by simp [slotOf, hs]
    have hnames : (d.push name).names = d.names.push name := by
      simp [push, Std.TreeMap.contains_eq_isSome_getElem?, hs]
    rw [hslot, hnames, Array.getElem?_push]
    by_cases hi : i = d.names.size
    · subst hi
      simp [eq_comm]
    · simp [hi]

/-- A directory with one row more lists one row more. -/
theorem Lists.push (h : d.Lists names) (name : String) : (d.push name).Lists (names ++ [name]) := by
  have hearlier : d.rowsOf[name]?.getD #[] = (rowsNamed names name).toArray := h.occurrences_eq name
  have hplace : ∀ {i : Nat}, d.names[i]? = some name → d.slotOf name = i := fun hi => by
    simp [slotOf, (h.slot_iff name _).mpr hi]
  refine ⟨by simp [Directory.push, h.size_eq], fun other i => ?_, fun other => ?_, fun row other hrow => ?_⟩
  · -- places: the new row's name has the place it had, or the next one
    show (d.slots.insert name (d.slotOf name))[other]? = _ ↔ _
    rw [getElem?_insert, h.getElem?_names_push]
    by_cases ho : name = other
    · subst ho
      rw [if_pos rfl, Option.some.injEq]
      constructor
      · intro hi
        exact Or.inl ⟨hi.symm, rfl⟩
      · rintro (⟨hi, -⟩ | hi)
        · exact hi.symm
        · exact hplace hi
    · rw [if_neg ho, h.slot_iff]
      exact ⟨Or.inr, fun hi => hi.resolve_left fun hi' => ho hi'.2.symm⟩
  · -- rows: those of the new row's name get one more at the end
    show (d.rowsOf.insert name _)[other]? = _
    rw [getElem?_insert, hearlier, h.size_eq, rowsNamed_append]
    by_cases ho : name = other
    · subst ho
      simp
    · rw [if_neg ho, if_neg ho, h.rowsOf_eq, List.append_nil]
      simp [Ne.symm ho]
  · -- labels: earlier rows keep theirs, since names never move
    show ∃ slot, (d.labels.push (d.slotOf name, _))[row]? = _ ∧ _
    rw [Array.getElem?_push, h.size_eq, hearlier]
    by_cases hr : row = names.length
    · subst hr
      rw [List.getElem?_concat_length, Option.some.injEq] at hrow
      subst hrow
      exact ⟨d.slotOf name, by simp, (h.getElem?_names_push name).mpr (Or.inl ⟨rfl, rfl⟩)⟩
    · have hlt : row < names.length := by
        have := (List.getElem?_eq_some_iff.mp hrow).1
        rw [List.length_append, List.length_singleton] at this
        omega
      rw [List.getElem?_append_left hlt] at hrow
      obtain ⟨slot, hlabel, hslot⟩ := h.label_eq row other hrow
      refine ⟨slot, ?_, (h.getElem?_names_push name).mpr (Or.inr hslot)⟩
      rw [if_neg hr, List.take_append_of_le_length (Nat.le_of_lt hlt), hlabel]

theorem Lists.foldl (h : d.Lists names) (more : List String) : (more.foldl Directory.push d).Lists (names ++ more) := by
  induction more generalizing d names with
  | nil => rwa [List.append_nil]
  | cons name more ih =>
    rw [List.append_cons]
    exact ih (h.push name)

theorem ofNames_lists (names : List String) (version : Nat) : (ofNames names version).Lists names :=
  (empty_lists version).foldl names

/-- The directory of a column lists the rows of its labels. -/
theorem build_lists (c : Column) (version : Nat) : (build c version).Lists c.labels.toList :=
  ofNames_lists _ version

/-! ## Looked-up rows -/

/-- The rows of a name are rows of the column. -/
theorem Lists.lt_of_mem_rowsOf (h : d.Lists names) {name : String} {rows : Array Nat} (hr : d.rowsOf[name]? = some rows)
    {row : Nat} (hm : row ∈ rows) : row < names.length := by
  rw [h.rowsOf_eq] at hr
  split at hr
  · cases hr
    exact (List.getElem?_eq_some_iff.mp (mem_rowsNamed.mp (List.mem_toArray.mp hm))).1
  · cases hr

/-- No name has more rows than the column. -/
theorem Lists.size_rowsOf_le (h : d.Lists names) {name : String} {rows : Array Nat} (hr : d.rowsOf[name]? = some rows) :
    rows.size ≤ names.length := by
  rw [h.rowsOf_eq] at hr
  split at hr
  · cases hr
    exact length_rowsNamed_le names name
  · cases hr

/-- Names are entered once. -/
theorem Lists.nodup_names (h : d.Lists names) : d.names.toList.Nodup := by
  rw [List.nodup_iff_pairwise_ne, List.pairwise_iff_getElem]
  intro i j hi hj hij heq
  have hi' := (h.slot_iff d.names.toList[i] i).mpr (by simp)
  have hj' := (h.slot_iff d.names.toList[i] j).mpr (by simp [heq])
  rw [hi', Option.some.injEq] at hj'
  omega

/-- The rows of several of the entered names are distinct. -/
theorem Lists.nodup_flatMap (h : d.Lists names) {chosen : List String} (hc : chosen.Nodup) :
    (chosen.flatMap fun name => (d.occurrences name).toList).Nodup := by
  rw [List.nodup_iff_pairwise_ne, List.pairwise_flatMap]
  refine ⟨fun name _ => ?_, hc.imp fun hne row hr other ho heq => ?_⟩
  · rw [h.occurrences_eq]
    exact nodup_rowsNamed names name
  · subst heq
    rw [h.occurrences_eq] at hr ho
    have hr' := mem_rowsNamed.mp hr
    rw [mem_rowsNamed.mp ho, Option.some.injEq] at hr'
    exact hne hr'.symm

/-! ## Labels -/

theorem Lists.contains_iff (h : d.Lists names) {name : String} : d.contains name = true ↔ name ∈ names := by
  unfold contains
  rw [Std.TreeMap.contains_eq_isSome_getElem?, h.rowsOf_eq]
  by_cases hm : name ∈ names <;> simp [hm]

/-- The label of a row is its name and the number of earlier rows of that name. -/
theorem Lists.label?_eq (h : d.Lists names) {row : Nat} {name : String} (hr : names[row]? = some name) :
    d.label? row = some (name, (rowsNamed (names.take row) name).length) := by
  obtain ⟨slot, hlabel, hslot⟩ := h.label_eq row name hr
  unfold label?
  rw [hlabel]
  show (d.names[slot]?.bind fun name => some (name, _)) = _
  rw [hslot]
  rfl

/-- Every row has a label, with a number no greater than its position. -/
theorem Lists.exists_label (h : d.Lists names) {row : Nat} (hr : row < names.length) :
    ∃ name k, name ∈ names ∧ k ≤ row ∧ d.label? row = some (name, k) := by
  have hname := List.getElem?_eq_getElem hr
  have hle := length_rowsNamed_le (names.take row) names[row]
  rw [List.length_take_of_le (Nat.le_of_lt hr)] at hle
  exact ⟨names[row], _, List.getElem_mem hr, hle, h.label?_eq hname⟩

/-- An entry is counted from the start, or from the end by a negative index. -/
theorem entryIndex_eq_some {k : Int64} {count i : Nat} :
    entryIndex k count = some i ↔ (i : Int) = (if k.toInt < 0 then count + k.toInt else k.toInt) ∧ i < count := by
  have hneg : k < 0 ↔ k.toInt < 0 := Int64.lt_iff_toInt_lt
  simp only [entryIndex, hneg, Option.ite_none_right_eq_some, Option.some.injEq]
  omega

theorem entryIndex_of_toInt {k : Int64} {i count : Nat} (hk : k.toInt = i) (hi : i < count) :
    entryIndex k count = some i := by
  have hneg : ¬ k < 0 := by
    rw [Int64.lt_iff_toInt_lt, hk, Int64.toInt_zero]
    omega
  simp only [entryIndex, if_neg hneg, hk]
  rw [if_pos (by omega), Int.toNat_natCast]

/-- The row of the name and occurrence that label a row is the row. -/
theorem Lists.row_label (h : d.Lists names) {row k : Nat} {name : String} (hl : d.label? row = some (name, k))
    (hr : row < names.length) {occurrence : Int64} (ho : occurrence.toInt = k) :
    d.row name (some occurrence) = .ok row := by
  have hname := List.getElem?_eq_getElem hr
  rw [h.label?_eq hname, Option.some.injEq, Prod.mk.injEq] at hl
  obtain ⟨rfl, rfl⟩ := hl
  have hplace := getElem?_rowsNamed hname
  have hk := (List.getElem?_eq_some_iff.mp hplace).1
  unfold Directory.row
  rw [h.rowsOf_eq, if_pos (List.getElem_mem hr)]
  simp only [Option.getD_some, List.size_toArray]
  rw [entryIndex_of_toInt ho hk, Option.bind_some, List.getElem?_toArray, hplace]

end Directory

end NamedRows
