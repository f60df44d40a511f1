import NamedRows.Proofs.Session.Buffers
import NamedRows.Proofs.Table.WellFormed

/-!
# Sessions stay sound

In every session tables have different names, handles are handles of buffers, and the cells of a table are a
well-formed table (`Session.Sound`). A change of a table is carried over to its handles without the other tables taking
notice (`settle_settled`), and what is kept of a reading is in buffers that are there (`Sound.keepAnswer`). Hence every
step, and so every run, leaves a sound session behind (`Sound.step`, `Sound.run`).
-/

namespace NamedRows

/-! ## Tables of handles -/

namespace Table

theorem cols_map {κ μ : Type} (f : κ → μ) (t : Table κ) (names : List String) :
    (t.map f).cols names = (t.cols names).map (map f) := by
  have hselected : (t.map f).selected names = (t.selected names).map fun p => (p.1, f p.2) := by
    simp only [selected, column?_map, List.map_filterMap, Option.map_map]
    rfl
  unfold cols
  rw [badName?_congr (names_map f t), hselected]
  cases t.badName? .duplicateColumn [] names <;> rfl

/-- What is put under a name does not depend on what was there. -/
theorem map_apply_put_congr {κ μ : Type} {f f' : κ → μ} {t : Table κ} {name : String}
    (h : ∀ p ∈ t.columns, p.1 ≠ name → f p.2 = f' p.2) (c : μ) :
    (t.map f).apply (.put name c) = (t.map f').apply (.put name c) := by
  have hnames (f : κ → μ) : (t.columns.map fun p => (p.1, f p.2)).map Prod.fst = t.columns.map Prod.fst := by
    rw [List.map_map]
    rfl
  have hplaced : placed (t.columns.map fun p => (p.1, f p.2)) name c =
      placed (t.columns.map fun p => (p.1, f' p.2)) name c := by
    unfold placed
    rw [hnames, hnames]
    split
    · rw [List.map_map, List.map_map]
      refine List.map_congr_left fun p hp => ?_
      by_cases hname : p.1 = name
      · simp [hname]
      · simp [hname, h p hp hname]
    · rename_i hnot
      refine congrArg (· ++ [(name, c)]) (List.map_congr_left fun p hp => ?_)
      rw [h p hp fun e => hnot (by simpa [e] using ⟨p.2, e ▸ hp⟩)]
  simp only [apply, map, hplaced]

end Table

namespace Store

variable {b b' : Store} {t : Table Handle}

/-- The store has the buffers of a table, and what is in them is a well-formed table. -/
structure Backs (b : Store) (t : Table Handle) : Prop where
  lt : ∀ h ∈ t.handles, h.index < b.size
  wellFormed : (t.map b.read).WellFormed

theorem Backs.congr (ht : b.Backs t) (hsize : b.size ≤ b'.size) (hread : ∀ g ∈ t.handles, b'.read g = b.read g) :
    b'.Backs t where
  lt g hg := Nat.lt_of_lt_of_le (ht.lt g hg) hsize
  wellFormed := by rw [Table.map_congr hread]; exact ht.wellFormed

end Store

namespace Session

variable {s s' : Session} {on name : String} {t : Table Handle} {h g : Handle} {column : Column}

/-! ## Sound sessions -/

/-- Tables have different names, and the buffers of all tables and columns are there. -/
structure Sound (s : Session) : Prop where
  nodup : (s.tables.map Prod.fst).Nodup
  backs : ∀ p ∈ s.tables, s.store.Backs p.2
  kept_lt : ∀ p ∈ s.kept, p.2.index < s.store.size

theorem sound_empty (least : Log.Severity) : Sound { least } :=
  ⟨List.nodup_nil, List.forall_mem_nil _, List.forall_mem_nil _⟩

/-- A session stays sound while its tables and columns stay and the tables find in their buffers what they found. -/
theorem Sound.congr (hs : Sound s) (he : Extends s s')
    (hread : ∀ p ∈ s.tables, ∀ g ∈ p.2.handles, s'.store.read g = s.store.read g) : Sound s' where
  nodup := by rw [he.tables_eq]; exact hs.nodup
  backs p hp := by
    rw [he.tables_eq] at hp
    exact (hs.backs p hp).congr he.size_le (hread p hp)
  kept_lt p hp := by
    rw [he.kept_eq] at hp
    exact Nat.lt_of_lt_of_le (hs.kept_lt p hp) he.size_le

theorem Sound.grows (hs : Sound s) (h : Grows s s') : Sound s' :=
  hs.congr h.toExtends fun p hp g hg => h.read_eq g ((hs.backs p hp).lt g hg)

/-! ### Names -/

theorem mem_entered {α : Type} {entries : List (String × α)} {a : α} {p : String × α} :
    p ∈ entered entries name a ↔ p = (name, a) ∨ p ∈ entries ∧ p.1 ≠ name := by
  simp [entered]

theorem nodup_entered {α : Type} {entries : List (String × α)} (h : (entries.map Prod.fst).Nodup) (a : α) :
    ((entered entries name a).map Prod.fst).Nodup := by
  refine List.nodup_cons.mpr ⟨?_, h.sublist (List.filter_sublist.map Prod.fst)⟩
  intro hm
  obtain ⟨p, hp, rfl⟩ := List.mem_map.mp hm
  simpa using (List.mem_filter.mp hp).2

/-- The session without the table of a name. -/
def without (s : Session) (name : String) : Session := { s with tables := s.tables.filter fun p => p.1 ≠ name }

theorem Extends.without (h : Extends s s') (name : String) : Extends (s.without name) (s'.without name) where
  tables_eq := congrArg (List.filter fun p : String × Table Handle => p.1 ≠ name) h.tables_eq
  kept_eq := h.kept_eq
  size_le := h.size_le

theorem Sound.without (hs : Sound s) (name : String) : Sound (s.without name) where
  nodup := hs.nodup.sublist (List.filter_sublist.map Prod.fst)
  backs p hp := hs.backs p (List.mem_filter.mp hp).1
  kept_lt := hs.kept_lt

theorem Sound.bindTable (hs : Sound s) (ht : s.store.Backs t) : Sound (s.bindTable name t) where
  nodup := nodup_entered hs.nodup t
  backs p hp := by
    rcases mem_entered.mp hp with rfl | ⟨hp, -⟩
    · exact ht
    · exact hs.backs p hp
  kept_lt := hs.kept_lt

theorem bindTable_without (s : Session) (name : String) (t : Table Handle) :
    (s.without name).bindTable name t = s.bindTable name t := by
  simp [Session.bindTable, Session.without, entered]

/-- The table that had the name before need not be sound any more. -/
theorem Sound.bindTable_of_without (hs : Sound (s.without name)) (ht : s.store.Backs t) :
    Sound (s.bindTable name t) := by
  rw [← bindTable_without]
  exact hs.bindTable ht

theorem Sound.bindColumn (hs : Sound s) (hh : h.index < s.store.size) : Sound (s.bindColumn name h) where
  nodup := hs.nodup
  backs := hs.backs
  kept_lt p hp := by
    rcases mem_entered.mp hp with rfl | ⟨hp, -⟩
    · exact hh
    · exact hs.kept_lt p hp

theorem holdTable_backs {cells : Table Column} (h : cells.WellFormed) :
    (s.holdTable cells).1.store.Backs (s.holdTable cells).2 := by
  obtain ⟨-, hview, hlt⟩ := holdTable_grows s cells
  exact ⟨hlt, by rw [← view, hview]; exact h⟩

/-! ## Operations on a table -/

/-- A change of the cells has been carried over to the handles: the other tables find in their buffers what they found,
and the table comes to the cells after the change. -/
structure Settled (s : Session) (on : String) (t : Table Handle) (c : Change Column) (r : Session × Change Handle) :
    Prop extends Extends s r.1 where
  others : ∀ p ∈ s.tables, p.1 ≠ on → ∀ g ∈ p.2.handles, r.1.store.read g = s.store.read g
  lt : ∀ g ∈ (t.apply r.2).handles, g.index < r.1.store.size
  view_eq : r.1.view (t.apply r.2) = (s.view t).apply c

/-- A change that puts no column needs no buffer. -/
theorem settled_of_map (ht : s.store.Backs t) {c : Change Handle} (hc : ∀ name h, c ≠ .put name h) :
    Settled s on t (c.map s.store.read) (s, c) where
  toExtends := (Grows.refl s).toExtends
  others _ _ _ _ _ := rfl
  lt g hg := by
    rcases Table.mem_handles_apply hg with hg | ⟨name, rfl⟩
    · exact ht.lt g hg
    · exact absurd rfl (hc name g)
  view_eq := Table.map_apply s.store.read t c

/-- A column is put when its contents are read back from the handle and the other columns find what they found. -/
theorem settled_put (ht : s.store.Backs t) {r : Session × Handle} (he : Extends s r.1)
    (hlt : r.2.index < r.1.store.size) (hread : r.1.store.read r.2 = column)
    (hothers : ∀ p ∈ s.tables, p.1 ≠ on → ∀ g ∈ p.2.handles, r.1.store.read g = s.store.read g)
    (hcolumns : ∀ p ∈ t.columns, p.1 ≠ name → r.1.store.read p.2 = s.store.read p.2) :
    Settled s on t (.put name column) (r.1, .put name r.2) where
  toExtends := he
  others := hothers
  lt g hg := by
    rcases Table.mem_handles_apply hg with hg | ⟨_, ⟨⟩⟩
    · exact Nat.lt_of_lt_of_le (ht.lt g hg) he.size_le
    · exact hlt
  view_eq := by
    rw [view, Table.map_apply, Change.map, hread]
    exact Table.map_apply_put_congr hcolumns column

theorem settled_hold (hs : Sound s) (ht : s.store.Backs t) :
    Settled s on t (.put name column) ((s.hold column).1, .put name (s.hold column).2) := by
  have hgrows := hold_grows s column
  exact settled_put ht hgrows.toExtends (lt_hold s column) (Store.read_hold_self s.store column)
    (fun p hp _ g hg => hgrows.read_eq g ((hs.backs p hp).lt g hg))
    fun p hp _ => hgrows.read_eq p.2 (ht.lt p.2 (List.mem_map_of_mem hp))

/-- A handle of the table that is overwritten is no handle of another table or column, or it is used twice. -/
theorem settled_overwrite (hs : Sound s) (hon : (on, t) ∈ s.tables) (hh : t.column? name = some h) :
    Settled s on t (.put name column) ((s.overwrite h column).1, .put name (s.overwrite h column).2) := by
  have ht : s.store.Backs t := hs.backs _ hon
  have hmem : (name, h) ∈ t.columns := Table.mem_of_lookup hh
  have hht : h ∈ t.handles := Table.mem_handles_of_column hh
  obtain ⟨hlt, hread⟩ := overwrite_written (ht.lt h hht) column
  refine settled_put ht (overwrite_extends s h column) hlt hread (fun p hp hne g hg => ?_) fun p hp hne => ?_
  · refine read_overwrite ((hs.backs p hp).lt g hg) (fun e => ?_) column
    subst e
    exact two_le_count_tables hp hon (fun e => hne (congrArg Prod.fst e)) hg hht
  · refine read_overwrite (ht.lt p.2 (List.mem_map_of_mem hp)) (fun e => ?_) column
    exact two_le_count_columns hon hp hmem (fun e => hne (congrArg Prod.fst e)) e

theorem settle_settled (hs : Sound s) (hon : (on, t) ∈ s.tables) (op : Operation) (c : Change Column) :
    Settled s on t c (s.settle t op c) := by
  have ht : s.store.Backs t := hs.backs _ hon
  cases c with
  | keep => exact settled_of_map (c := .keep) ht fun _ _ h => nomatch h
  | cache d => exact settled_of_map (c := .cache d) ht fun _ _ h => nomatch h
  | touch name => exact settled_of_map (c := .touch name) ht fun _ _ h => nomatch h
  | remove name => exact settled_of_map (c := .remove name) ht fun _ _ h => nomatch h
  | order names => exact settled_of_map (c := .order names) ht fun _ _ h => nomatch h
  | put name column =>
    rw [settle_put]
    cases hg : target? t name op with
    | some g => exact settled_overwrite hs hon (column_of_target hg)
    | none => exact settled_hold hs ht

/-- A settled change leaves a sound session behind when it leaves a well-formed table. -/
theorem Settled.sound {c : Change Column} {r : Session × Change Handle} (h : Settled s on t c r) (hs : Sound s)
    (hw : ((s.view t).apply c).WellFormed) :
    Sound (r.1.bindTable on (t.apply r.2)) ∧ r.1.store.Backs (t.apply r.2) := by
  have hbacks : r.1.store.Backs (t.apply r.2) := ⟨h.lt, by rw [← view, h.view_eq]; exact hw⟩
  have hrest : Sound (r.1.without on) := by
    refine (hs.without on).congr (h.without on) fun p hp => ?_
    obtain ⟨hp, hne⟩ := List.mem_filter.mp hp
    exact h.others p hp (by simpa using hne)
  exact ⟨hrest.bindTable_of_without hbacks, hbacks⟩

/-! ## Readings that are kept -/

/-- The buffers of a reading are there. -/
def Backed (b : Store) : Reading Handle → Prop
  | .cell _ => True
  | .column h => h.index < b.size
  | .table t => b.Backs t

theorem Sound.keepReading (hs : Sound s) {r : Reading Handle} (hr : Backed s.store r) :
    Sound (s.keepReading name r) := by
  cases r with
  | cell c => exact hs
  | column h => exact hs.bindColumn hr
  | table t => exact hs.bindTable hr

/-- Chosen columns of a table are in its buffers. -/
theorem cols_backs (ht : s.store.Backs t) {names : List String} {u : Table Handle} (h : t.cols names = .ok u) :
    s.store.Backs u := by
  have hcells : (t.map s.store.read).cols names = .ok (u.map s.store.read) := by rw [Table.cols_map, h]; rfl
  refine ⟨fun g hg => ?_, (Table.cols_wellFormed ht.wellFormed hcells).1⟩
  obtain ⟨p, hp, rfl⟩ := List.mem_map.mp hg
  unfold Table.cols at h
  split at h
  · cases h
  · cases h
    exact ht.lt p.2 (List.mem_map_of_mem (Table.mem_of_mem_filterMap_names hp).2)

/-- What is read without a copy is in the buffers of the table. -/
theorem sharedReading_backed (ht : s.store.Backs t) {q : Query} {r : Reading Handle}
    (h : sharedReading? t q = some r) : Backed s.store r := by
  have hcols {names : List String} (h : (t.cols names).toOption.map Reading.table = some r) :
      Backed s.store r := by
    cases hu : t.cols names with
    | error e => rw [hu] at h; cases h
    | ok u =>
      rw [hu] at h
      cases h
      exact cols_backs ht hu
  unfold sharedReading? at h
  split at h
  · rename_i text
    cases hc : t.column? text with
    | none => rw [hc] at h; cases h
    | some g =>
      rw [hc] at h
      cases h
      exact ht.lt g (Table.mem_handles_of_column hc)
  · exact hcols h
  · exact hcols h
  · cases h
    exact ⟨ht.lt, Table.derived_wellFormed (t := s.view t) ht.wellFormed.nodup ht.wellFormed.size_eq⟩
  · cases h

theorem holdReading_grows (s : Session) (r : Reading Column) : Grows s (s.holdReading r).1 := by
  cases r with
  | cell c => exact .refl s
  | column c => exact hold_grows s c
  | table u => exact (holdTable_grows s u).1

theorem holdReading_backed {r : Reading Column} (hw : ∀ u, r = .table u → u.WellFormed) :
    Backed (s.holdReading r).1.store (s.holdReading r).2 := by
  cases r with
  | cell c => trivial
  | column c => exact lt_hold s c
  | table u => exact holdTable_backs (hw u rfl)

theorem Sound.keepAnswer (hs : Sound s) (ht : s.store.Backs t) (keep : Option String) (op : Operation)
    {answer : Except Error Answer} (hw : ∀ u, answer = .ok (.reading (.table u)) → u.WellFormed) :
    Sound (s.keepAnswer t keep op answer) := by
  unfold Session.keepAnswer
  split
  · rename_i r
    split
    · rename_i r' hr'
      exact hs.keepReading (sharedReading_backed ht hr')
    · have hbacked := holdReading_backed (s := s) (r := r) fun u hu => hw u (by rw [hu])
      exact (hs.grows (holdReading_grows s r)).keepReading hbacked
  · exact hs

/-! ## Steps -/

theorem Sound.operate [Externals] (hs : Sound s) (hon : (on, t) ∈ s.tables) (op : Operation) (keep : Option String) :
    Sound (s.operate on t op keep).2.1 := by
  have hw : (s.view t).WellFormed := (hs.backs _ hon).wellFormed
  have hsettled := settle_settled hs hon op ((s.view t).change op)
  obtain ⟨hsound, hbacks⟩ := hsettled.sound hs (Table.apply_wellFormed hw (Table.change_fits hw op))
  exact hsound.keepAnswer hbacks keep op fun u hu => Table.answer_wellFormed hw hu

theorem mem_kept_of_locate (h : s.locate (.kept name) = .ok g) : (name, g) ∈ s.kept := by
  simp only [locate] at h
  split at h
  · rename_i hk
    cases h
    exact Table.mem_of_lookup hk
  · cases h

/-- A handle that a reference stands for is one of the session. -/
theorem lt_of_locate (hs : Sound s) {ref : Reference} (h : s.locate ref = .ok g) : g.index < s.store.size := by
  cases ref with
  | kept name => exact hs.kept_lt _ (mem_kept_of_locate h)
  | column table name =>
    simp only [locate] at h
    split at h
    · rename_i hk
      cases h
      obtain ⟨t, ht, hc⟩ := Option.bind_eq_some_iff.mp hk
      exact (hs.backs _ (Table.mem_of_lookup ht)).lt _ (Table.mem_handles_of_column hc)
    · cases h

theorem Sound.assignFrom [Externals] (hs : Sound s) (hon : (on, t) ∈ s.tables) (hg : g.index < s.store.size) :
    Sound (s.assignFrom on t name g).2.1 := by
  have ht : s.store.Backs t := hs.backs _ hon
  refine hs.bindTable ⟨fun k hk => ?_, ?_⟩
  · rcases Table.mem_handles_apply hk with hk | ⟨_, hput⟩
    · exact ht.lt k hk
    · cases hc : (s.view t).change (.write (.assign name (s.store.read g))) with
      | put name' column => rw [hc] at hput; cases hput; exact hg
      | keep | cache | touch | remove | order => rw [hc] at hput; cases hput
  · -- the handle stands for the very column that is assigned
    have hchange : (((s.view t).change (.write (.assign name (s.store.read g)))).map fun _ => g).map s.store.read =
        (s.view t).change (.write (.assign name (s.store.read g))) := by
      simp only [Table.change, Table.plan]
      split <;> rfl
    rw [Table.map_apply, hchange]
    exact Table.apply_wellFormed ht.wellFormed (Table.change_fits ht.wellFormed _)

theorem Sound.keepTable (hs : Sound s) (keep : Option String) (ht : s.store.Backs t) : Sound (s.keepTable keep t) := by
  cases keep with
  | none => exact hs
  | some name => exact hs.bindTable ht

theorem Sound.rebuild (hs : Sound s) (ht : s.store.Backs t) (config : Config) (keep : Option String) :
    Sound (s.rebuild t config keep).2.1 := by
  unfold Session.rebuild
  split
  · exact hs
  · rename_i cells hcells
    refine hs.keepTable keep ⟨ht.lt, ?_⟩
    have hview : cells = Table.map s.store.read { columns := t.columns, config } := by
      rw [Table.WellFormed.create_eq_ok (t := s.view t) ht.wellFormed config] at hcells
      cases hcells
      rfl
    rw [← hview]
    exact Table.create_wellFormed hcells

theorem Sound.perform [Externals] (hs : Sound s) (on : String) (r : Request) : Sound (s.perform on r).2.1 := by
  unfold Session.perform
  split
  · exact hs
  · rename_i t hlookup
    have hon : (on, t) ∈ s.tables := Table.mem_of_lookup hlookup
    cases r with
    | operate op keep => exact hs.operate hon op keep
    | assignFrom name ref =>
      cases hg : s.locate ref with
      | error e => simp only [hg]; exact hs
      | ok g => simp only [hg]; exact hs.assignFrom hon (lt_of_locate hs hg)
    | copy keep => exact hs.keepTable keep (hs.backs _ hon)
    | rebuild config keep => exact hs.rebuild (hs.backs _ hon) config keep
    | contents ref => exact hs
    | shares a b => exact hs

theorem Sound.create (hs : Sound s) {columns : List (String × Column)} {config : Config}
    {r : Session × List Log.Line} (h : s.create name columns config = .ok r) : Sound r.1 := by
  obtain ⟨cells, hcells, h⟩ := bind_eq_ok.mp h
  cases h
  have hgrows := (holdTable_grows s cells).1
  exact (hs.grows hgrows).bindTable (holdTable_backs (Table.create_wellFormed hcells))

/-- A kept column that is overwritten is in no table, or it is used twice. -/
theorem Sound.fillKept (hs : Sound s) {value : Cell} (h : s.fillKept name value = .ok s') : Sound s' := by
  obtain ⟨g, hlocate, h⟩ := bind_eq_ok.mp h
  obtain ⟨filled, -, h⟩ := bind_eq_ok.mp h
  cases h
  have hg : g.index < s.store.size := lt_of_locate hs hlocate
  refine Sound.bindColumn (hs.congr (overwrite_extends s g filled) fun p hp k hk => ?_) (overwrite_written hg filled).1
  refine read_overwrite ((hs.backs p hp).lt k hk) (fun e => ?_) filled
  subst e
  exact two_le_count_kept hp (mem_kept_of_locate hlocate) hk

/-- Every step leaves a sound session behind. -/
theorem Sound.step [Externals] (hs : Sound s) (step : Step) : Sound (s.step step).2.1 := by
  cases step with
  | create name columns config =>
    cases h : s.create name columns config with
    | ok r => simp only [Session.step, h]; exact hs.create h
    | error e => simp only [Session.step, h]; exact hs
  | request on r => exact hs.perform on r
  | fill name value =>
    cases h : s.fillKept name value with
    | ok s' => simp only [Session.step, h]; exact hs.fillKept h
    | error e => simp only [Session.step, h]; exact hs

/-- Every run leaves a sound session behind. -/
theorem Sound.run [Externals] (hs : Sound s) (entries : List Entry) : Sound (s.run entries).2.1 := by
  induction entries generalizing s with
  | nil => exact hs
  | cons entry entries ih => exact ih (hs.step entry.step)

end Session

end NamedRows
