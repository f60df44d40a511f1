import NamedRows.Proofs.Row.Guarded

/-!
# Names, occurrences and rows

A directory answers every question about the names of rows as the list of these names itself does (`Directory.Answers`):
which names there are and in which order they first appear, which rows a name has, which row an occurrence of a name is,
and which name and occurrence a row has. The last two undo each other. It is so for the directory of every column
(`Directory.build_answers`).
-/

namespace NamedRows

theorem pairwise_rowsNamed (names : List String) (name : String) : (rowsNamed names name).Pairwise (· < ·) :=
  List.pairwise_lt_range.filter _

/-- A name has a row for each time it is listed. -/
theorem length_rowsNamed (names : List String) (name : String) :
    (rowsNamed names name).length = names.count name := by
  -- names enter at the end, so the induction is on those that come after some others
  have hmore : ∀ more names : List String,
      (rowsNamed (names ++ more) name).length = (rowsNamed names name).length + more.count name := by
    intro more
    induction more with
    | nil => intro names; simp
    | cons last more ih =>
      intro names
      rw [List.append_cons, ih, rowsNamed_append, List.length_append, List.count_cons]
      by_cases hlast : last = name
      · simp only [hlast, if_true, beq_self_eq_true, List.length_singleton]
        omega
      · simp [hlast]
  have hall := hmore names []
  rw [List.nil_append] at hall
  rw [hall]
  exact Nat.zero_add _

/-- What stands at a place among the rows of a name is the row with as many earlier ones of that name. -/
theorem getElem?_rowsNamed_iff {names : List String} {name : String} {i row : Nat} :
    (rowsNamed names name)[i]? = some row ↔ names[row]? = some name ∧ (names.take row).count name = i := by
  constructor
  · intro hrow
    have hname : names[row]? = some name := mem_rowsNamed.mp (List.mem_of_getElem? hrow)
    have hplace := getElem?_rowsNamed hname
    rw [length_rowsNamed, ← hrow] at hplace
    have hlt := (List.getElem?_eq_some_iff.mp hrow).1
    exact ⟨hname, ((List.getElem?_inj hlt (nodup_rowsNamed names name)).mp hplace.symm).symm⟩
  · rintro ⟨hname, rfl⟩
    rw [← length_rowsNamed]
    exact getElem?_rowsNamed hname

namespace Directory

/-- The directory answers for rows with these names. -/
structure Answers (d : Directory) (names : List String) : Prop where
  size_eq : d.size = names.length
  /-- Each name is listed once, where it first appears. -/
  names_eq : d.names.toList = names.eraseDups
  /-- The rows of a name are in ascending order. -/
  ascending (name : String) : (d.occurrences name).toList.Pairwise (· < ·)
  mem_occurrences (name : String) (row : Nat) : row ∈ d.occurrences name ↔ names[row]? = some name
  /-- The rows of the listed names together are all rows, each of them once. -/
  partition : (d.names.toList.flatMap fun name => (d.occurrences name).toList).Perm (List.range names.length)
  isRepeated_iff (name : String) : d.isRepeated name = true ↔ 2 ≤ (d.occurrences name).size
  /-- A row has its name and the number of earlier rows with that name. -/
  label?_eq (row : Nat) : d.label? row = names[row]?.map fun name => (name, (names.take row).count name)
  /-- An occurrence is there if it is one of as many as the name has, counted from either end. -/
  exists_row_iff (name : String) (k : Int64) : (∃ row, d.row name (some k) = .ok row) ↔
    1 ≤ names.count name ∧ -(names.count name : Int) ≤ k.toInt ∧ k.toInt < names.count name
  row_none (name : String) : d.row name none = d.row name (some 0)
  /-- Counting from the end is counting from the start by as many more as the name has. -/
  row_add_count (name : String) (k k' : Int64) : k.toInt < 0 → -(names.count name : Int) ≤ k.toInt →
    k'.toInt = k.toInt + names.count name → d.row name (some k) = d.row name (some k')
  /-- The row of an occurrence and the label of a row undo each other. -/
  row_iff_label (name : String) (k : Int64) (i row : Nat) : k.toInt = i →
    (d.row name (some k) = .ok row ↔ d.label? row = some (name, i))

variable {d : Directory} {names : List String}

/-! ## Names -/

/-- A name has a place if it is listed. -/
theorem Lists.contains_slots_iff (h : d.Lists names) (hn : d.names.toList = names.eraseDups) (name : String) :
    d.slots.contains name = true ↔ name ∈ names := by
  rw [Std.TreeMap.contains_eq_isSome_getElem?, Option.isSome_iff_exists, ← List.mem_eraseDups, ← hn,
    List.mem_iff_getElem?]
  simp only [h.slot_iff, Array.getElem?_toList]

/-- A new name is listed after all others, and a known one is not listed again. -/
theorem Lists.names_push (h : d.Lists names) (hn : d.names.toList = names.eraseDups) (name : String) :
    (d.push name).names.toList = (names ++ [name]).eraseDups := by
  have hcontains := h.contains_slots_iff hn name
  rw [List.eraseDups_append, List.removeAll]
  unfold Directory.push
  by_cases hm : name ∈ names
  · simp [hcontains.mpr hm, hm, hn]
  · simp [hcontains, hm, hn, List.eraseDups_cons]

theorem Lists.names_foldl (h : d.Lists names) (hn : d.names.toList = names.eraseDups) (more : List String) :
    (more.foldl Directory.push d).names.toList = (names ++ more).eraseDups := by
  induction more generalizing d names with
  | nil => rwa [List.append_nil]
  | cons name more ih =>
    rw [List.append_cons]
    exact ih (h.push name) (h.names_push hn name)

/-! ## Rows -/

/-- Every row is among the rows of exactly one of the listed names. -/
theorem Lists.perm_range (h : d.Lists names) (hn : d.names.toList = names.eraseDups) :
    (d.names.toList.flatMap fun name => (d.occurrences name).toList).Perm (List.range names.length) := by
  rw [List.perm_ext_iff_of_nodup (h.nodup_flatMap h.nodup_names) List.nodup_range]
  intro row
  simp only [List.mem_flatMap, h.occurrences_eq, mem_rowsNamed, hn, List.mem_eraseDups, List.mem_range]
  constructor
  · rintro ⟨name, -, hrow⟩
    exact (List.getElem?_eq_some_iff.mp hrow).1
  · intro hlt
    exact ⟨names[row], List.getElem_mem hlt, List.getElem?_eq_getElem hlt⟩

/-- The row of an occurrence is found among the rows of its name. -/
theorem Lists.row_eq_ok_iff (h : d.Lists names) {name : String} {k : Int64} {row : Nat} :
    d.row name (some k) = .ok row ↔
      ∃ i : Nat, (i : Int) = (if k.toInt < 0 then names.count name + k.toInt else k.toInt) ∧
        (rowsNamed names name)[i]? = some row := by
  unfold Directory.row
  rw [h.rowsOf_eq]
  by_cases hm : name ∈ names
  · have hfound (row : Nat) : ((entryIndex k (rowsNamed names name).length).bind fun i => (rowsNamed names name)[i]?) =
        some row ↔ ∃ i : Nat, (i : Int) = (if k.toInt < 0 then names.count name + k.toInt else k.toInt) ∧
          (rowsNamed names name)[i]? = some row := by
      rw [Option.bind_eq_some_iff]
      refine exists_congr fun i => ?_
      rw [entryIndex_eq_some, length_rowsNamed, and_assoc, and_congr_right_iff]
      intro _
      rw [and_iff_right_iff_imp, ← length_rowsNamed]
      exact fun hrow => (List.getElem?_eq_some_iff.mp hrow).1
    simp only [if_pos hm, Option.getD_some, List.size_toArray, List.getElem?_toArray]
    split
    · rename_i found hrow
      rw [Except.ok.injEq, ← hfound, hrow, Option.some.injEq]
    · rename_i hrow
      rw [← hfound, hrow]
      simp
  · simp [if_neg hm, rowsNamed_eq_nil hm]

/-! ## Occurrences -/

theorem Lists.exists_row_iff (h : d.Lists names) (name : String) (k : Int64) :
    (∃ row, d.row name (some k) = .ok row) ↔
      1 ≤ names.count name ∧ -(names.count name : Int) ≤ k.toInt ∧ k.toInt < names.count name := by
  simp only [h.row_eq_ok_iff]
  constructor
  · rintro ⟨row, i, hi, hrow⟩
    have hlt := (List.getElem?_eq_some_iff.mp hrow).1
    rw [length_rowsNamed] at hlt
    omega
  · rintro ⟨-, hlow, hhigh⟩
    obtain ⟨i, hi⟩ : ∃ i : Nat, (i : Int) = if k.toInt < 0 then names.count name + k.toInt else k.toInt :=
      ⟨(if k.toInt < 0 then names.count name + k.toInt else k.toInt).toNat, by omega⟩
    have hlt : i < (rowsNamed names name).length := by
      rw [length_rowsNamed]
      omega
    exact ⟨_, i, hi, List.getElem?_eq_getElem hlt⟩

theorem Lists.row_add_count (h : d.Lists names) (name : String) {k k' : Int64} (hk : k.toInt < 0)
    (hlow : -(names.count name : Int) ≤ k.toInt) (hk' : k'.toInt = k.toInt + names.count name) :
    d.row name (some k) = d.row name (some k') := by
  obtain ⟨row, hrow⟩ := (h.exists_row_iff name k).mpr ⟨by omega, hlow, by omega⟩
  obtain ⟨i, hi, hentry⟩ := h.row_eq_ok_iff.mp hrow
  rw [hrow, eq_comm]
  exact h.row_eq_ok_iff.mpr ⟨i, by omega, hentry⟩

/-! ## Labels -/

theorem Lists.label?_eq_map (h : d.Lists names) (row : Nat) :
    d.label? row = names[row]?.map fun name => (name, (names.take row).count name) := by
  cases hr : names[row]? with
  | none =>
    have hlabel : d.labels[row]? = none := by
      rw [Array.getElem?_eq_none_iff, h.size_eq]
      exact List.getElem?_eq_none_iff.mp hr
    unfold label?
    rw [hlabel]
    rfl
  | some name =>
    rw [h.label?_eq hr, length_rowsNamed]
    rfl

/-- A row is the occurrence of its name that counts the earlier ones, and no other. -/
theorem Lists.row_iff_label (h : d.Lists names) (name : String) {k : Int64} {i : Nat} (row : Nat) (hk : k.toInt = i) :
    d.row name (some k) = .ok row ↔ d.label? row = some (name, i) := by
  rw [h.row_eq_ok_iff, hk, if_neg (by omega), h.label?_eq_map, Option.map_eq_some_iff]
  simp only [Int.natCast_inj, exists_eq_left, getElem?_rowsNamed_iff, Prod.mk.injEq]
  constructor
  · rintro ⟨hname, hcount⟩
    exact ⟨name, hname, rfl, hcount⟩
  · rintro ⟨other, hother, rfl, hcount⟩
    exact ⟨hother, hcount⟩

/-! ## Every question -/

theorem Lists.answers (h : d.Lists names) (hn : d.names.toList = names.eraseDups) : d.Answers names where
  size_eq := h.size_eq
  names_eq := hn
  ascending name := by rw [h.occurrences_eq]; exact pairwise_rowsNamed names name
  mem_occurrences name row := by rw [h.occurrences_eq, List.mem_toArray, mem_rowsNamed]
  partition := h.perm_range hn
  isRepeated_iff name := by simp [isRepeated, Nat.succ_le_iff]
  label?_eq := h.label?_eq_map
  exists_row_iff := h.exists_row_iff
  row_none name := rfl
  row_add_count name _ _ := h.row_add_count name
  row_iff_label name _ _ row := h.row_iff_label name row

end Directory

/-- The name of a row is the plain text of its cell, which for a text is the text. -/
theorem Column.getElem?_labels (c : Column) (row : Nat) : c.labels[row]? = (c.cell? row).map Cell.plain := by
  cases c with
  | text cells => simp [labels, cell?, Cell.plain, Function.comp_def]
  | float cells => simp [labels, cell?, Function.comp_def]
  | int cells => simp [labels, cell?, Function.comp_def]
  | bool cells => simp [labels, cell?, Function.comp_def]

namespace Directory

/-- The directory of a column of any kind and length has a row for each of its cells, named by the text of the cell, and
answers every question as the list of these names does. Looking up rows and labels traps nowhere in a column that memory
can hold. -/
theorem build_answers (c : Column) (version : Nat) :
    (build c version).size = c.size ∧ (∀ row : Nat, c.labels.toList[row]? = (c.cell? row).map Cell.plain) ∧
      (build c version).Answers c.labels.toList ∧
      (c.size ≤ maxRows → ∀ name k row,
        Guarded.row (build c version) name k = Guarded.plain ((build c version).row name k) ∧
        Guarded.label? (build c version) row = Guarded.plain (.ok ((build c version).label? row))) := by
  have hlists := build_lists c version
  have hnames : (build c version).names.toList = c.labels.toList.eraseDups :=
    (empty_lists version).names_foldl rfl c.labels.toList
  have hlength : c.labels.toList.length = c.size := by rw [Array.length_toList, Column.size_labels]
  have hanswers := hlists.answers hnames
  refine ⟨hanswers.size_eq.trans hlength, fun row => ?_, hanswers, fun hsize name k row => ⟨?_, ?_⟩⟩
  · rw [Array.getElem?_toList, Column.getElem?_labels]
  · exact row_eq hlists (hlength ▸ hsize) name k
  · exact label?_eq_plain hlists row

/-- In a column of numbers the rows are named by their digits: the last row of `7` is its occurrence 1. -/
theorem build_answers_digits :
    (Column.int #[7, 8, 7]).size ≤ maxRows ∧ (build (.int #[7, 8, 7]) 3).names.toList = ["7", "8"] ∧
      (build (.int #[7, 8, 7]) 3).row "7" (some (-1)) = .ok 2 ∧
      (build (.int #[7, 8, 7]) 3).label? 2 = some ("7", 1) ∧
      Guarded.row (build (.int #[7, 8, 7]) 3) "7" (some (-1)) = Guarded.plain (.ok 2) := by
  have hsize : (Column.int #[7, 8, 7]).size ≤ maxRows := by decide
  obtain ⟨-, -, hanswers, hguarded⟩ := build_answers (.int #[7, 8, 7]) 3
  have hlabels : (Column.int #[7, 8, 7]).labels.toList = ["7", "8", "7"] := by cbv
  rw [hlabels] at hanswers
  have hlabel : (build (.int #[7, 8, 7]) 3).label? 2 = some ("7", 1) := hanswers.label?_eq 2
  have hlast : (build (.int #[7, 8, 7]) 3).row "7" (some (-1)) = .ok 2 := by
    rw [hanswers.row_add_count "7" (-1) 1 (by decide) (by decide) (by decide)]
    exact (hanswers.row_iff_label "7" 1 1 2 (by decide)).mpr hlabel
  exact ⟨hsize, hanswers.names_eq.trans (by decide), hlast, hlabel, hlast ▸ (hguarded hsize "7" (some (-1)) 2).1⟩

end Directory

end NamedRows
