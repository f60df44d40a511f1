import NamedRows.Proofs.Row.InRange
import NamedRows.Proofs.Table.Columns
import NamedRows.Table.Reachable
import NamedRows.Externals.Standard

/-!
# Tables stay well formed

- a table made of columns is well formed, and its columns make a table again (`create_wellFormed`, `create_eq_ok`);
- an operation only makes changes that fit the table (`change_fits`), and such a change keeps it well formed
  (`apply_wellFormed`);
- tables of chosen columns or rows are well formed (`cols_wellFormed`, `takeRows_wellFormed`), hence every table that an
  answer holds (`answer_wellFormed`);
- so every reachable table is (`Reachable.wellFormed`), whatever order of operations led to it, and its directory is
  that of the key column it has now (`reachable_consistent`).
-/

namespace NamedRows.Table

variable {t : Table Column}

/-! ## Sizes and the directory -/

theorem WellFormed.size_column (h : t.WellFormed) {name : String} {c : Column} (hc : t.column? name = some c) :
    c.size = t.rowCount :=
  h.size_eq (name, c) (mem_of_lookup hc)

/-- Columns of one length all have the length of the first one. -/
theorem size_eq_rowCount {n : Nat} (h : ∀ p ∈ t.columns, p.2.size = n) : ∀ p ∈ t.columns, p.2.size = t.rowCount := by
  intro p hp
  unfold rowCount
  split
  · rename_i hnil; rw [hnil] at hp; cases hp
  · rename_i first c rest hcons
    rw [h p hp, h (first, c) (by rw [hcons]; exact List.mem_cons_self)]

theorem rowCount_eq {n : Nat} (h : ∀ p ∈ t.columns, p.2.size = n) (hne : t.columns ≠ []) : t.rowCount = n := by
  obtain ⟨p, hp⟩ := List.exists_mem_of_ne_nil _ hne
  rw [← size_eq_rowCount h p hp, h p hp]

/-- Kept or not, the directory is that of the present key column. -/
theorem WellFormed.directory_eq (h : t.WellFormed) :
    t.directory = match t.column? t.config.key with
      | some c => .ok (Directory.build c t.version)
      | none => .error (.undefined t.config.key) := by
  unfold directory
  cases hd : t.cached with
  | none => rfl
  | some d =>
    obtain ⟨c, hc, rfl⟩ := h.cached_eq d hd
    rw [hc]

/-- A new table of well-formed columns keeps no directory yet. -/
theorem derived_wellFormed {columns : List (String × Column)} {n : Nat} (hn : (columns.map Prod.fst).Nodup)
    (hs : ∀ p ∈ columns, p.2.size = n) : (t.derived columns).WellFormed where
  nodup := hn
  size_eq := size_eq_rowCount (t := t.derived columns) hs
  cached_eq d h := by cases h

/-! ## Making tables -/

theorem create_wellFormed {columns : List (String × Column)} {config : Config} (h : create columns config = .ok t) :
    t.WellFormed := by
  unfold create at h
  split at h
  · cases h
  · rename_i hf
    cases h
    obtain ⟨hn, hs⟩ := (fault?_eq_none columns config).mp hf
    exact ⟨hn, hs, fun d hd => by cases hd⟩

/-- The columns of a well-formed table make a table under any configuration. -/
theorem WellFormed.create_eq_ok (h : t.WellFormed) (config : Config) :
    create t.columns config = .ok { columns := t.columns, config } := by
  have hf : fault? t.columns = none := (fault?_eq_none t.columns config).mpr ⟨h.nodup, h.size_eq⟩
  unfold create
  rw [hf]

/-! ## Changing tables -/

/-- What an operation sees to before it makes a change. -/
def Fits (t : Table Column) : Change Column → Prop
  | .cache d => t.directory = .ok d
  | .put name column => t.misfit? name column = none
  | .order names => t.badOrder? names = none
  | _ => True

/-- A column fits when it is as long as the table, or alone in it. -/
theorem misfit?_eq_none {name : String} {column : Column} :
    t.misfit? name column = none ↔ (∀ other ∈ t.names, other = name) ∨ column.size = t.rowCount := by
  unfold misfit?
  split
  · rename_i h
    simp only [List.any_eq_true, decide_eq_true_eq] at h
    obtain ⟨⟨other, hm, hne⟩, hs⟩ := h
    constructor
    · intro hnone
      cases hnone
    · rintro (halone | hsize)
      · exact absurd (halone other hm) hne
      · exact absurd hsize hs
  · rename_i h
    constructor
    · intro _
      by_cases hs : column.size = t.rowCount
      · exact Or.inr hs
      · refine Or.inl fun other hm => Decidable.byContradiction fun hne => h ⟨?_, hs⟩
        exact List.any_eq_true.mpr ⟨other, hm, by simpa using hne⟩
    · intro _
      rfl

/-- An order fits when it lists each column once. -/
theorem badOrder?_eq_none {names : List String} :
    t.badOrder? names = none ↔ names.Nodup ∧ (∀ name ∈ names, name ∈ t.names) ∧ names.length = t.columns.length := by
  have hb := badName?_eq_none t .duplicateInOrder [] names
  simp only [List.not_mem_nil, not_false_eq_true, implies_true, and_true] at hb
  unfold badOrder?
  cases h : t.badName? .duplicateInOrder [] names with
  | some e =>
    rw [h] at hb
    constructor
    · intro hnone
      cases hnone
    · rintro ⟨hn, hm, -⟩
      cases hb.mpr ⟨hm, hn⟩
  | none =>
    obtain ⟨hm, hn⟩ := hb.mp h
    by_cases hl : names.length = t.columns.length
    · simp [hl, hn]; exact hm
    · simp [hl]

/-- Distinct names of columns, as many as there are columns, are all the names. -/
theorem mem_of_mem_names {names : List String} (hn : names.Nodup) (hm : ∀ name ∈ names, name ∈ t.names)
    (hl : names.length = t.columns.length) {name : String} (h : name ∈ t.names) : name ∈ names := by
  refine Decidable.byContradiction fun hnot => ?_
  have hsub : name :: names ⊆ t.names := List.cons_subset.mpr ⟨h, hm⟩
  have hle := (List.nodup_cons.mpr ⟨hnot, hn⟩).length_le_of_subset hsub
  rw [List.length_cons, hl, Table.names, List.length_map] at hle
  omega

/-- An order that fits lists every column. -/
theorem mem_of_order {names : List String} (h : t.badOrder? names = none) {name : String} (hname : name ∈ t.names) :
    name ∈ names := by
  obtain ⟨hn, hm, hl⟩ := badOrder?_eq_none.mp h
  exact mem_of_mem_names hn hm hl hname

/-- After a stamp the directory is kept only if the column that was touched is not the key. -/
theorem stamp_wellFormed {name : String} (hn : t.names.Nodup) (hs : ∀ p ∈ t.columns, p.2.size = t.rowCount)
    (hc : t.config.key ≠ name → ∀ d, t.cached = some d →
      ∃ c, t.column? t.config.key = some c ∧ d = Directory.build c t.version) : (t.stamp name).WellFormed := by
  unfold stamp isKey
  by_cases h : name = t.config.key
  · rw [if_pos (decide_eq_true h)]
    exact ⟨hn, hs, fun d hd => by cases hd⟩
  · rw [if_neg (by simpa using h)]
    exact ⟨hn, hs, hc fun e => h e.symm⟩

theorem put_wellFormed (ht : t.WellFormed) {name : String} {column : Column} (h : t.misfit? name column = none) :
    (t.apply (.put name column)).WellFormed := by
  refine stamp_wellFormed (nodup_placed ht.nodup name column) ?_ fun hne d hd => ?_
  · refine size_eq_rowCount (t := { t with columns := placed t.columns name column }) (n := column.size) fun p hp => ?_
    rcases mem_placed hp with rfl | ⟨hp, hne⟩
    · rfl
    · rcases misfit?_eq_none.mp h with halone | hsize
      · exact absurd (halone p.1 (List.mem_map_of_mem hp)) hne
      · rw [hsize]; exact ht.size_eq p hp
  · obtain ⟨c, hc, hb⟩ := ht.cached_eq d hd
    exact ⟨c, (lookup_placed_of_ne t.columns hne column).trans hc, hb⟩

theorem remove_wellFormed (ht : t.WellFormed) (name : String) : (t.apply (.remove name)).WellFormed := by
  have hsub : ∀ p ∈ t.columns.filter (fun p => p.1 ≠ name), p ∈ t.columns := fun p hp => (List.mem_filter.mp hp).1
  refine stamp_wellFormed ?_ ?_ fun hne d hd => ?_
  · exact ht.nodup.sublist (List.filter_sublist.map Prod.fst)
  · exact size_eq_rowCount (t := { t with columns := t.columns.filter fun p => p.1 ≠ name })
      fun p hp => ht.size_eq p (hsub p hp)
  · obtain ⟨c, hc, hb⟩ := ht.cached_eq d hd
    exact ⟨c, (lookup_filter_ne t.columns hne).trans hc, hb⟩

theorem order_wellFormed (ht : t.WellFormed) {names : List String} (h : t.badOrder? names = none) :
    (t.apply (.order names)).WellFormed := by
  obtain ⟨hn, hm, hl⟩ := badOrder?_eq_none.mp h
  refine ⟨?_, ?_, fun d hd => ?_⟩
  · exact hn.sublist (names_filterMap_sublist t names)
  · exact size_eq_rowCount (t := t.apply (.order names)) fun p hp => ht.size_eq p (mem_of_mem_filterMap_names hp).2
  · obtain ⟨c, hc, hb⟩ := ht.cached_eq d hd
    refine ⟨c, ?_, hb⟩
    have hkey : t.config.key ∈ names := mem_of_mem_names hn hm hl (mem_names_of_column hc)
    exact (lookup_filterMap_names t names t.config.key).trans ((if_pos hkey).trans hc)

/-- A change that fits keeps a table well formed. -/
theorem apply_wellFormed (ht : t.WellFormed) {c : Change Column} (hc : t.Fits c) : (t.apply c).WellFormed := by
  cases c with
  | keep => exact ht
  | cache d =>
    refine ⟨ht.nodup, ht.size_eq, fun d' hd => ?_⟩
    cases hd
    have hdir : t.directory = .ok d := hc
    rw [ht.directory_eq] at hdir
    split at hdir
    · rename_i c hk
      cases hdir
      exact ⟨c, hk, rfl⟩
    · cases hdir
  | put name column => exact put_wellFormed ht hc
  | touch name => exact stamp_wellFormed ht.nodup ht.size_eq fun _ => ht.cached_eq
  | remove name => exact remove_wellFormed ht name
  | order names => exact order_wellFormed ht hc

/-- The change of a write fits the table. -/
theorem plan_fits (ht : t.WellFormed) (w : Write) : t.Fits (t.plan w).1 := by
  -- a column that is filled keeps its size, so it still fits
  have hfill : ∀ {name : String} {column filled : Column} {value : Cell}, t.column? name = some column →
      column.fill value = .ok filled → t.Fits (.put name filled) := fun hc hf =>
    misfit?_eq_none.mpr (Or.inr ((Column.size_fill hf).trans (ht.size_column hc)))
  cases w with
  | assign name column =>
    cases hm : t.misfit? name column with
    | some cause => simp only [plan, hm]; trivial
    | none => simp only [plan, hm]; exact hm
  | broadcast name value =>
    cases hc : t.column? name with
    | none => simp only [plan, hc]; exact misfit?_eq_none.mpr (Or.inr (Column.size_full value t.rowCount))
    | some column =>
      cases hf : column.fill value with
      | ok filled => simp only [plan, hc, hf]; exact hfill hc hf
      | error e => simp only [plan, hc, hf]; trivial
  | delete name => cases hc : t.column? name <;> simp only [plan, hc] <;> trivial
  | reorder names =>
    cases hb : t.badOrder? names with
    | some e => simp only [plan, hb]; trivial
    | none => simp only [plan, hb]; exact hb
  | fill name value =>
    cases hc : t.column? name with
    | none => simp only [plan, hc]; trivial
    | some column =>
      cases value with
      | none => simp only [plan, hc]; trivial
      | some value =>
        cases hf : column.fill value with
        | ok filled => simp only [plan, hc, hf]; exact hfill hc hf
        | error e => simp only [plan, hc, hf]; trivial

/-- The change of an operation fits the table. -/
theorem change_fits [Externals] (ht : t.WellFormed) (op : Operation) : t.Fits (t.change op) := by
  cases op with
  | write w => exact plan_fits ht w
  | query q =>
    cases hb : t.built? q with
    | none => simp only [change, hb]; trivial
    | some d =>
      simp only [change, hb]
      unfold built? at hb
      split at hb
      · cases hd : t.directory with
        | error e => rw [hd] at hb; cases hb
        | ok d' => rw [hd] at hb; cases hb; exact hd
      · cases hb

/-! ## Tables that are read -/

/-- Rows of a table make a table of as many rows. -/
theorem takeRows_wellFormed (ht : t.WellFormed) {rows : List Nat} (hr : ∀ r ∈ rows, r < t.rowCount) :
    (t.takeRows rows).WellFormed := by
  refine derived_wellFormed (n := rows.length) ?_ fun p hp => ?_
  · rw [List.map_map]; exact ht.nodup
  · obtain ⟨q, hq, rfl⟩ := List.mem_map.mp hp
    exact Column.size_take fun r hm => (ht.size_eq q hq).symm ▸ hr r hm

theorem cols_wellFormed (ht : t.WellFormed) {names : List String} {s : Table Column} (h : t.cols names = .ok s) :
    s.WellFormed ∧ ∀ p ∈ s.columns, p.2.size = t.rowCount := by
  unfold cols at h
  cases hb : t.badName? .duplicateColumn [] names with
  | some e => rw [hb] at h; cases h
  | none =>
    rw [hb] at h
    cases h
    obtain ⟨-, hn, -⟩ := (badName?_eq_none _ _ _ _).mp hb
    -- the key column comes first only if it was not asked for, so names stay distinct
    have hkey : ((if names.contains t.config.key then [] else [t.config.key]) ++ names).Nodup := by
      simp only [List.contains_iff_mem]
      split
      · exact hn
      · rename_i hk
        exact List.nodup_cons.mpr ⟨hk, hn⟩
    have hs : ∀ p ∈ t.selected names, p.2.size = t.rowCount := fun p hp =>
      ht.size_eq p (mem_of_mem_filterMap_names hp).2
    exact ⟨derived_wellFormed (hkey.sublist (names_filterMap_sublist t _)) hs, hs⟩

theorem rows_wellFormed [Externals] (ht : t.WellFormed) {sel : Selector} {s : Table Column} (h : t.rows sel = .ok s) :
    s.WellFormed := by
  obtain ⟨sel', hsel, h⟩ := bind_eq_ok.mp h
  cases h
  exact takeRows_wellFormed ht (select_inRange hsel).lt

/-- Whole columns that are read together are a well-formed table of as many rows, if they are any. -/
theorem get_table_wellFormed [Externals] (ht : t.WellFormed) {columns : Columns} {s : Table Column}
    (h : t.get columns = .ok (.table s)) : s.WellFormed ∧ ∀ p ∈ s.columns, p.2.size = t.rowCount := by
  cases columns with
  | one text =>
    obtain ⟨c, -, h⟩ := bind_eq_ok.mp h
    cases c <;> cases h
  | many names =>
    obtain ⟨s', hs, h⟩ := bind_eq_ok.mp h
    cases h
    exact cols_wellFormed ht hs

theorem getAt_table_wellFormed [Externals] (ht : t.WellFormed) {columns : Columns} {sel : Selector} {s : Table Column}
    (h : t.getAt columns sel = .ok (.table s)) : s.WellFormed := by
  obtain ⟨whole, hw, h⟩ := bind_eq_ok.mp h
  obtain ⟨rows, hr, h⟩ := bind_eq_ok.mp h
  cases whole with
  | cell c => cases h
  | column c =>
    simp only [restrict, pick] at h
    split at h
    · split at h <;> cases h
    · cases h
  | table u =>
    cases h
    obtain ⟨hu, hs⟩ := get_table_wellFormed ht hw
    by_cases hne : u.columns = []
    · simp only [takeRows, hne, List.map_nil]
      exact derived_wellFormed (n := 0) List.nodup_nil fun p hp => by cases hp
    · exact takeRows_wellFormed hu fun r hm => rowCount_eq hs hne ▸ (select_inRange hr).lt r hm

/-- A table in an answer is well formed. -/
theorem answer_wellFormed [Externals] (ht : t.WellFormed) {op : Operation} {s : Table Column}
    (h : t.answer op = .ok (.reading (.table s))) : s.WellFormed := by
  cases op with
  | write w => obtain ⟨a, -, h⟩ := map_eq_ok.mp h; cases h
  | query q =>
    cases q with
    | get columns =>
      obtain ⟨r, hr, h⟩ := map_eq_ok.mp h
      cases h
      exact (get_table_wellFormed ht hr).1
    | getAt columns sel =>
      obtain ⟨r, hr, h⟩ := map_eq_ok.mp h
      cases h
      exact getAt_table_wellFormed ht hr
    | rows sel =>
      obtain ⟨r, hr, h⟩ := map_eq_ok.mp h
      cases h
      exact rows_wellFormed ht hr
    | cols names =>
      obtain ⟨r, hr, h⟩ := map_eq_ok.mp h
      cases h
      exact (cols_wellFormed ht hr).1
    | row name occurrence =>
      obtain ⟨d, -, h⟩ := bind_eq_ok.mp h
      obtain ⟨r, -, h⟩ := bind_eq_ok.mp h
      cases h
    | column name => cases h
    | contains name => cases h
    | mask sel | select sel | resolve sel strict overrun | isRepeated name | directory | matching text =>
      obtain ⟨a, -, h⟩ := map_eq_ok.mp h
      cases h

/-! ## Every run -/

/-- An operation leaves a well-formed table behind. -/
theorem perform_wellFormed [Externals] (ht : t.WellFormed) (least : Log.Severity) (op : Operation) :
    (t.perform least op).2.1.WellFormed :=
  apply_wellFormed ht (change_fits ht op)

/-- Reachable tables are well formed. -/
theorem Reachable.wellFormed [Externals] (h : Reachable t) : t.WellFormed := by
  induction h with
  | create h => exact create_wellFormed h
  | perform least op _ ih => exact perform_wellFormed ih least op
  | read _ hs ih => exact answer_wellFormed ih hs

/-- Whatever run of operations led to a table: its names are distinct, its columns are as long as it has rows, a kept
directory is the one of the present key column at the present version, and so is the directory that a look-up sees,
unless there is no key column. Its columns make a table again under every configuration. -/
theorem reachable_consistent [Externals] (h : Reachable t) :
    t.names.Nodup ∧
    (∀ p ∈ t.columns, p.2.size = t.rowCount) ∧
    (∀ d, t.cached = some d → ∃ c, t.column? t.config.key = some c ∧ d = Directory.build c t.version) ∧
    (t.directory = match t.column? t.config.key with
      | some c => .ok (Directory.build c t.version)
      | none => .error (.undefined t.config.key)) ∧
    ∀ config, create t.columns config = .ok { columns := t.columns, config } := by
  have hwf := h.wellFormed
  exact ⟨hwf.nodup, hwf.size_eq, hwf.cached_eq, hwf.directory_eq, hwf.create_eq_ok⟩

/-- Renaming every row after a look-up of names: the directory of the old names is gone. -/
theorem directory_lattice_renamed :
    let t := ((lattice.perform .info (.query .directory)).2.1.perform .info
      (.write (.broadcast "name" (.text "ip")))).2.1
    t.names = ["name", "turns"] ∧ t.names.Nodup ∧
      t.directory = .ok (Directory.build (.text #["ip", "ip", "ip", "ip", "ip"]) 1) := by
  intro t
  have hr : Reachable t := .perform _ _ (.perform _ _ lattice_reachable)
  have h := reachable_consistent hr
  exact ⟨rfl, h.1, h.2.2.2.1⟩

end NamedRows.Table
