import Mathlib.Data.List.Nodup
import NamedRows.Proofs.Session.Lockstep

/-!
# Reading changes nothing that counts

A question on the side leaves an alike session behind (`Alike.aside`): it may change the directory that a table keeps,
and what it reads is kept under a name that does not count. So a run with questions on the side gives the results,
tables and columns of the run without them (`Alike.run_proper`), and hence of the run with any others (`reads_pure`).
-/

namespace NamedRows.Session

variable {f : Forgetting} {own : String → Bool} {φ : Handle → Handle} {s s' : Session} {t t' : Table Handle}
  {name on : String}

/-! ## Questions on the side -/

theorem Alike.bindTable_right (h : Alike f own φ s s') (hn : own name = false) (t : Table Handle) :
    Alike f own φ s (s'.bindTable name t) where
  renamed := h.renamed
  kept_eq := h.kept_eq
  tables_perm := by
    rw [Session.bindTable, entered_map, entered_filter_of_not _ _ hn]
    exact h.tables_perm

theorem Alike.bindColumn_right (h : Alike f own φ s s') (hn : own name = false) (g : Handle) :
    Alike f own φ s (s'.bindColumn name g) where
  renamed := h.renamed
  kept_eq := by
    rw [Session.bindColumn, entered_filter_of_not _ _ hn]
    exact h.kept_eq
  tables_perm := h.tables_perm

theorem Alike.hold_right (h : Alike f own φ s s') (c : Column) : Alike f own φ s (s'.hold c).1 :=
  ⟨h.renamed.hold_right c, h.kept_eq, h.tables_perm⟩

theorem Alike.holdAll_right (h : Alike f own φ s s') (columns : List (String × Column)) :
    Alike f own φ s (s'.holdAll columns).1 := by
  induction columns generalizing s' with
  | nil => exact h
  | cons p rest ih => exact ih (h.hold_right p.2)

theorem Alike.keepReading_right (h : Alike f own φ s s') (hn : own name = false) (r : Reading Handle) :
    Alike f own φ s (s'.keepReading name r) := by
  cases r with
  | cell c => exact h
  | column g => exact h.bindColumn_right hn g
  | table t => exact h.bindTable_right hn t

theorem Alike.holdReading_right (h : Alike f own φ s s') (r : Reading Column) :
    Alike f own φ s (s'.holdReading r).1 := by
  cases r with
  | cell c => exact h
  | column c => exact h.hold_right c
  | table u => exact h.holdAll_right u.columns

/-- What is kept under a name that does not count makes no difference. -/
theorem Alike.keepAnswer_right (h : Alike f own φ s s') {keep : Option String}
    (hkeep : ∀ name ∈ keep.toList, own name = false) (t : Table Handle) (op : Operation) (a : Except Error Answer) :
    Alike f own φ s (s'.keepAnswer t keep op a) := by
  unfold Session.keepAnswer
  split
  · have hn := hkeep _ (List.mem_singleton.mpr rfl)
    split
    · exact h.keepReading_right hn _
    · exact (h.holdReading_right _).keepReading_right hn _
  · exact h

/-- Binding what is bound already moves it to the front. -/
theorem entered_perm {α : Type} {entries : List (String × α)} {a : α} (hn : (entries.map Prod.fst).Nodup)
    (h : (name, a) ∈ entries) : (entered entries name a).Perm entries := by
  have hentered : (entered entries name a).Nodup := .of_map Prod.fst (nodup_entered hn a)
  refine (List.perm_ext_iff_of_nodup hentered (.of_map Prod.fst hn)).mpr fun p => ?_
  rw [mem_entered]
  constructor
  · rintro (rfl | ⟨hp, -⟩)
    · exact h
    · exact hp
  · intro hp
    by_cases hname : p.1 = name
    · left
      subst hname
      have hsome := (Table.lookup_of_mem hn hp).symm.trans (Table.lookup_of_mem hn h)
      exact Prod.ext rfl (Option.some.inj hsome)
    · exact .inr ⟨hp, hname⟩

/-- A table may be replaced by one that differs from it in details that are left out. -/
theorem Alike.rebind_right (h : Alike f own φ s s') (hs' : Sound s') (ht : s'.tables.lookup name = some t)
    (hsame : t'.forget f = t.forget f) : Alike f own φ s (s'.bindTable name t') where
  renamed := h.renamed
  kept_eq := h.kept_eq
  tables_perm := by
    rw [Session.bindTable, entered_map, hsame, ← entered_map]
    exact h.tables_perm.trans (((entered_perm hs'.nodup (Table.mem_of_lookup ht)).map _).filter _).symm

/-- A question on the side changes nothing that counts, if what it reads is kept under a name that does not count. -/
theorem Alike.aside [Externals] (h : Alike f own φ s s') (hs' : Sound s') (on : String) (q : Query)
    {keep : Option String} (hkeep : ∀ name ∈ keep.toList, own name = false) :
    Alike f own φ s (s'.step (Entry.aside on q keep).step).2.1 := by
  simp only [Entry.step, Session.step, Session.perform]
  cases ht : s'.tables.lookup on with
  | none => exact h
  | some t =>
    obtain ⟨hsession, hsame⟩ := settle_query f s' t q
    simp only [Session.operate, hsession]
    exact (h.rebind_right hs' ht hsame).keepAnswer_right hkeep _ _ _

/-! ## Runs -/

/-- Steps use names that count, and questions on the side keep what they read under names that do not. -/
def Separate (own : String → Bool) : Entry → Prop
  | .proper step => ∀ name ∈ step.names, own name = true
  | .aside _ _ keep => ∀ name ∈ keep.toList, own name = false

theorem results_proper [Externals] (s : Session) (step : Step) (entries : List Entry) :
    s.results (.proper step :: entries) =
      (s.step step).1.map (Answer.forget {}) :: (s.step step).2.1.results entries := rfl

/-- A run gives what its steps alone give, from an alike session on. -/
theorem Alike.run_proper [Externals] (h : Alike {} own φ s s') (hs : Sound s) (hs' : Sound s') {entries : List Entry}
    (hn : ∀ entry ∈ entries, Separate own entry) :
    s.results ((entries.filterMap Entry.proper?).map .proper) = s'.results entries ∧
      ∃ ψ, Alike {} own ψ (s.run ((entries.filterMap Entry.proper?).map .proper)).2.1 (s'.run entries).2.1 := by
  induction entries generalizing s s' φ with
  | nil => exact ⟨rfl, φ, h⟩
  | cons entry entries ih =>
    obtain ⟨hentry, hrest⟩ := List.forall_mem_cons.mp hn
    cases entry with
    | aside on q keep => exact ih (h.aside hs' on q hentry) hs (hs'.step (Entry.aside on q keep).step) hrest
    | proper step =>
      obtain ⟨hanswer, ψ, hnext⟩ := h.step hs hs' hentry
      obtain ⟨hresults, hlast⟩ := ih hnext (hs.step step) (hs'.step step) hrest
      refine ⟨?_, hlast⟩
      rw [results_proper, ← hanswer, ← hresults]
      rfl

/-- Sound sessions that are alike have the same cells under every name that counts. -/
theorem Alike.contents_eq (h : Alike f own φ s s') (hs : Sound s) (hn : own name = true) :
    (s.table? name).map (Table.forget f) = (s'.table? name).map (Table.forget f) ∧
      s.column? name = s'.column? name := by
  constructor
  · have hlookup := h.lookup_eq hs hn
    unfold table?
    cases ht : s.tables.lookup name with
    | none =>
      cases ht' : s'.tables.lookup name with
      | none => rfl
      | some t' => rw [ht, ht'] at hlookup; cases hlookup
    | some t =>
      cases ht' : s'.tables.lookup name with
      | none => rw [ht, ht'] at hlookup; cases hlookup
      | some t' =>
        rw [ht, ht'] at hlookup
        have hmatch : t.Matches f φ t' := Option.some.inj hlookup
        exact congrArg some (hmatch.view_eq h.renamed (hs.backs _ (Table.mem_of_lookup ht)).lt)
  · unfold column?
    rw [h.kept_lookup_eq hn]
    cases hk : s.kept.lookup name with
    | none => rfl
    | some g => exact congrArg some (h.renamed.read_eq g (hs.kept_lt _ (Table.mem_of_lookup hk))).symm

/-- The names under which no question on the side keeps what it reads. -/
def unkept (entries : List Entry) (name : String) : Bool := !entries.any fun entry => entry.kept? == some name

theorem unkept_iff {entries : List Entry} :
    unkept entries name = true ↔ ∀ entry ∈ entries, entry.kept? ≠ some name := by
  simp [unkept]

/-- Questions on the side and steps are separate when no step uses a name under which a reading on the side is kept. -/
theorem separate_of_unused {entries all : List Entry} (hsub : ∀ entry ∈ entries, entry ∈ all)
    (h : ∀ entry ∈ all, ∀ name, entry.kept? = some name → ∀ step ∈ entries.filterMap Entry.proper?, name ∉ step.names) :
    ∀ entry ∈ entries, Separate (unkept all) entry := by
  intro entry hentry
  cases entry with
  | proper step =>
    intro name hname
    refine unkept_iff.mpr fun other hother he => ?_
    exact h other hother name he step (List.mem_filterMap.mpr ⟨.proper step, hentry, rfl⟩) hname
  | aside on q keep =>
    intro name hname
    refine Bool.eq_false_iff.mpr fun hun => ?_
    refine unkept_iff.mp hun _ (hsub _ hentry) ?_
    cases keep with
    | none => cases hname
    | some k => rw [List.mem_singleton.mp hname]; rfl

/-- Reading is pure as far as can be seen. Two runs that take the same steps, with whatever questions on the side
before, between and after them, get the same answers to these steps, errors and directories with their versions
included, and end with the same tables and columns. What the questions read may be kept, under names that no step uses.
A kept directory is left out of the comparison, and so are the lines that are written; how many of these are written
makes no difference either. -/
theorem reads_pure [Externals] {entries others : List Entry}
    (h : entries.filterMap Entry.proper? = others.filterMap Entry.proper?)
    (hkept : ∀ entry ∈ entries ++ others, ∀ name, entry.kept? = some name →
      ∀ step ∈ entries.filterMap Entry.proper?, name ∉ step.names)
    (least least' : Log.Severity) :
    ({ least } : Session).results entries = ({ least := least' } : Session).results others ∧
      ∀ name, (∀ entry ∈ entries ++ others, entry.kept? ≠ some name) →
        ((({ least } : Session).run entries).2.1.table? name).map (Table.forget {}) =
          ((({ least := least' } : Session).run others).2.1.table? name).map (Table.forget {}) ∧
        (({ least } : Session).run entries).2.1.column? name =
          (({ least := least' } : Session).run others).2.1.column? name := by
  have hs : Sound { least } := sound_empty least
  have hs' : Sound { least := least' } := sound_empty least'
  have hseparate := separate_of_unused (fun _ => List.mem_append_left others) hkept
  have hseparate' := separate_of_unused (fun _ => List.mem_append_right entries) (by rw [← h]; exact hkept)
  -- both runs are compared with the run of the steps alone
  obtain ⟨hresults, φ, hlast⟩ := (alike_empty {} _ least least).run_proper hs hs hseparate
  obtain ⟨hresults', ψ, hlast'⟩ := (alike_empty {} _ least least').run_proper hs hs' hseparate'
  rw [← h] at hresults' hlast'
  refine ⟨hresults.symm.trans hresults', fun name hname => ?_⟩
  have hplain := hs.run ((entries.filterMap Entry.proper?).map .proper)
  obtain ⟨htable, hcolumn⟩ := hlast.contents_eq hplain (unkept_iff.mpr hname)
  obtain ⟨htable', hcolumn'⟩ := hlast'.contents_eq hplain (unkept_iff.mpr hname)
  exact ⟨htable.symm.trans htable', hcolumn.symm.trans hcolumn'⟩

/-- A table is copied, its names are overwritten, and their directory is looked up: at version 1, whatever was read from
the table and from the copy meanwhile, and although the column that is overwritten was kept. -/
theorem reads_pure_lattice :
    let create := Entry.proper (.create "ring" Table.lattice.columns {})
    let copy := Entry.proper (.request "ring" (.copy (some "twin")))
    let rename := Entry.proper (.request "ring" (.operate (.write (.broadcast "name" (.text "ip"))) none))
    let lookUp := Entry.proper (.request "ring" (.operate (.query .directory) none))
    let plain := [create, copy, rename, lookUp]
    let read := [create, .aside "ring" .directory none, copy, .aside "twin" (.rows (.name "ip2")) (some "part"),
      .aside "ring" (.get (.one "name")) (some "labels"), rename, .aside "part" (.row "ip1" none) none,
      .aside "twin" (.matching "turns > 2") none, lookUp]
    plain.filterMap Entry.proper? = read.filterMap Entry.proper? ∧
      (∀ entry ∈ plain ++ read, ∀ name, entry.kept? = some name →
        ∀ step ∈ plain.filterMap Entry.proper?, name ∉ step.names) ∧
      ({ least := .warn } : Session).results plain = ({ least := .info } : Session).results read ∧
      (({ least := .warn } : Session).results plain)[3]? =
        some (.ok (.directory (Directory.build (.text #["ip", "ip", "ip", "ip", "ip"]) 1))) ∧
      ((({ least := .warn } : Session).run plain).2.1.table? "twin").map (Table.forget {}) =
        ((({ least := .info } : Session).run read).2.1.table? "twin").map (Table.forget {}) := by
  intro create copy rename lookUp plain read
  have hproper : plain.filterMap Entry.proper? = read.filterMap Entry.proper? := rfl
  have hkept : ∀ entry ∈ plain ++ read, ∀ name, entry.kept? = some name →
      ∀ step ∈ plain.filterMap Entry.proper?, name ∉ step.names := by
    simp [plain, read, create, copy, rename, lookUp, Entry.kept?, Entry.proper?, Step.names, Request.names]
  obtain ⟨hresults, hcontents⟩ := reads_pure hproper hkept .warn .info
  refine ⟨hproper, hkept, hresults, rfl, (hcontents "twin" ?_).1⟩
  simp [plain, read, create, copy, rename, lookUp, Entry.kept?]

end NamedRows.Session
