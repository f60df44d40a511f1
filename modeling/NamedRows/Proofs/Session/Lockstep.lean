import NamedRows.Proofs.Session.Alike

/-!
# Steps of alike sessions

A step that uses names that count is answered alike by alike sessions, but for the details that are left out, and leaves
them alike (`Alike.step`). For every kind of request there is a lemma that says so.
-/

namespace NamedRows.Session

variable {f : Forgetting} {own : String → Bool} {φ : Handle → Handle} {s s' : Session} {t t' : Table Handle}
  {name on : String} {g : Handle}

/-! ## Changes -/

theorem target?_eq (ht : t.Matches f φ t') (name : String) (op : Operation) :
    target? t' name op = (target? t name op).map φ := by
  unfold target?
  split
  · exact ht.column?_eq name
  · exact ht.column?_eq name
  · rfl

/-- A column is put into matching tables. -/
theorem Alike.put (h : Alike f own φ s s') (hs : Sound s) (hon : (on, t) ∈ s.tables) (hn : own on = true)
    (ht : t.Matches f φ t') (op : Operation) (name : String) (c : Column) :
    ∃ ψ, (t.apply (s.settle t op (.put name c)).2).Matches f ψ (t'.apply (s'.settle t' op (.put name c)).2) ∧
      Alike f own ψ ((s.settle t op (.put name c)).1.bindTable on (t.apply (s.settle t op (.put name c)).2))
        ((s'.settle t' op (.put name c)).1.bindTable on (t'.apply (s'.settle t' op (.put name c)).2)) := by
  rw [settle_put, settle_put, target?_eq ht]
  have hb : s.store.Backs t := hs.backs _ hon
  have htarget {g : Handle} (hg : target? t name op = some g) : (name, g) ∈ t.columns :=
    Table.mem_of_lookup (column_of_target hg)
  have hmem {g : Handle} (hg : target? t name op = some g) : g ∈ t.handles := List.mem_map_of_mem (htarget hg)
  obtain ⟨ψ, hsame, hnew, hr⟩ := h.write (target? t name op) (fun g hg => hb.lt g (hmem hg)) c
  have hmatch : (t.apply (.put name (s.write (target? t name op) c).2)).Matches f ψ
      (t'.apply (.put name (s'.write ((target? t name op).map φ) c).2)) := by
    rw [← hnew]
    refine ht.put (fun p hp hne => hsame p.2 (hb.lt p.2 (List.mem_map_of_mem hp)) fun hg => ?_) _
    exact two_le_count_columns hon (htarget hg) hp (fun e => hne (congrArg Prod.fst e).symm) rfl
  have hrest := (h.without on).follow ((write_extends s (target? t name op) c).without on)
    ((write_extends s' ((target? t name op).map φ) c).without on) hr fun g hg =>
      hsame g (hs.lt_of_mem (mem_handles_without hg)) fun htwo => two_le_count_without hon (hmem htwo) hg
  refine ⟨ψ, hmatch, ?_⟩
  have := hrest.bindTable hn hmatch
  rwa [bindTable_without, bindTable_without] at this

/-- A question changes a table in no way that counts. -/
theorem settle_query [Externals] (f : Forgetting) (s : Session) (t : Table Handle) (q : Query) :
    (s.settle t (.query q) ((s.view t).change (.query q))).1 = s ∧
      (t.apply (s.settle t (.query q) ((s.view t).change (.query q))).2).forget f = t.forget f := by
  cases hb : (s.view t).built? q with
  | none =>
    simp only [Table.change, hb, Session.settle]
    exact ⟨trivial, rfl⟩
  | some d =>
    simp only [Table.change, hb, Session.settle]
    exact ⟨trivial, rfl⟩

theorem Alike.plan_eq (h : Alike f own φ s s') (ht : t.Matches f φ t') (hb : s.store.Backs t) (w : Write) :
    (s.view t).plan w = (s'.view t').plan w := by
  have hview : (s.view t).forget f = (s'.view t').forget f := ht.view_eq h.renamed hb.lt
  rw [← Table.plan_forget f, hview, Table.plan_forget]

/-- What an operation on a table changes leaves alike sessions behind, and matching tables in them. -/
theorem Alike.settle_change [Externals] (h : Alike f own φ s s') (hs : Sound s) (hon : (on, t) ∈ s.tables)
    (hn : own on = true) (ht : t.Matches f φ t') (op : Operation) :
    ∃ ψ, (t.apply (s.settle t op ((s.view t).change op)).2).Matches f ψ
        (t'.apply (s'.settle t' op ((s'.view t').change op)).2) ∧
      Alike f own ψ
        ((s.settle t op ((s.view t).change op)).1.bindTable on (t.apply (s.settle t op ((s.view t).change op)).2))
        ((s'.settle t' op ((s'.view t').change op)).1.bindTable on
          (t'.apply (s'.settle t' op ((s'.view t').change op)).2)) := by
  cases op with
  | query q =>
    obtain ⟨hsession, hsame⟩ := settle_query f s t q
    obtain ⟨hsession', hsame'⟩ := settle_query f s' t' q
    rw [hsession, hsession']
    have hmatch : (t.apply (s.settle t (.query q) ((s.view t).change (.query q))).2).Matches f φ
        (t'.apply (s'.settle t' (.query q) ((s'.view t').change (.query q))).2) := by
      refine Eq.trans ?_ hsame'.symm
      rw [← ht]
      exact congrArg (Table.map φ) hsame
    exact ⟨φ, hmatch, h.bindTable hn hmatch⟩
  | write w =>
    simp only [Table.change, h.plan_eq ht (hs.backs _ hon)]
    generalize ((s'.view t').plan w).1 = c
    cases c with
    | put name column => exact h.put hs hon hn ht (.write w) name column
    | keep => exact ⟨φ, ht.apply .keep, h.bindTable hn (ht.apply .keep)⟩
    | cache d => exact ⟨φ, ht.apply (.cache d), h.bindTable hn (ht.apply (.cache d))⟩
    | touch name => exact ⟨φ, ht.apply (.touch name), h.bindTable hn (ht.apply (.touch name))⟩
    | remove name => exact ⟨φ, ht.apply (.remove name), h.bindTable hn (ht.apply (.remove name))⟩
    | order names => exact ⟨φ, ht.apply (.order names), h.bindTable hn (ht.apply (.order names))⟩

/-! ## Readings that are kept -/

theorem Alike.keepReading (h : Alike f own φ s s') (hn : own name = true) {r r' : Reading Handle}
    (hr : r.Matches f φ r') : Alike f own φ (s.keepReading name r) (s'.keepReading name r') := by
  cases r with
  | cell c => cases r' <;> cases hr; exact h
  | column g => cases r' <;> cases hr; exact h.bindColumn hn g
  | table t =>
    cases r' with
    | table t' => exact h.bindTable hn (Reading.table.inj hr)
    | _ => cases hr

theorem Alike.holdReading (h : Alike f own φ s s') (hs : Sound s) {r r' : Reading Column}
    (hr : r.forget f = r'.forget f) :
    ∃ ψ, (s.holdReading r).2.Matches f ψ (s'.holdReading r').2 ∧
      Alike f own ψ (s.holdReading r).1 (s'.holdReading r').1 := by
  cases r with
  | cell c => cases r' <;> cases hr; exact ⟨φ, rfl, h⟩
  | column c =>
    cases r' <;> cases hr
    obtain ⟨ψ, -, hnew, hnext⟩ := h.hold hs c
    exact ⟨ψ, congrArg Reading.column hnew, hnext⟩
  | table u =>
    cases r' with
    | table u' =>
      obtain ⟨ψ, hu, hnext⟩ := h.holdTable hs (Reading.table.inj hr)
      exact ⟨ψ, congrArg Reading.table hu, hnext⟩
    | _ => cases hr

/-- A reading that a question gave is kept alike. -/
theorem Alike.keepRead (h : Alike f own φ s s') (hs : Sound s) (hn : own name = true) (ht : t.Matches f φ t')
    (q : Query) {r r' : Reading Column} (hr : r.forget f = r'.forget f) :
    ∃ ψ, Alike f own ψ (s.keepAnswer t (some name) (.query q) (.ok (.reading r)))
      (s'.keepAnswer t' (some name) (.query q) (.ok (.reading r'))) := by
  have hshared := sharedReading_matches ht q
  simp only [Session.keepAnswer]
  cases hq : sharedReading? t q with
  | some g =>
    cases hq' : sharedReading? t' q with
    | some g' =>
      rw [hq, hq'] at hshared
      exact ⟨φ, h.keepReading hn (Option.some.inj hshared)⟩
    | none => rw [hq, hq'] at hshared; cases hshared
  | none =>
    cases hq' : sharedReading? t' q with
    | some g' => rw [hq, hq'] at hshared; cases hshared
    | none =>
      obtain ⟨ψ, hheld, hnext⟩ := h.holdReading hs hr
      exact ⟨ψ, hnext.keepReading hn hheld⟩

theorem Alike.keepAnswer (h : Alike f own φ s s') (hs : Sound s) (ht : t.Matches f φ t') {keep : Option String}
    (hkeep : ∀ name ∈ keep.toList, own name = true) (op : Operation) {a a' : Except Error Answer}
    (ha : a.map (Answer.forget f) = a'.map (Answer.forget f)) :
    ∃ ψ, Alike f own ψ (s.keepAnswer t keep op a) (s'.keepAnswer t' keep op a') := by
  cases keep with
  | none => exact ⟨φ, h⟩
  | some name =>
    have hn : own name = true := hkeep name (List.mem_singleton.mpr rfl)
    cases op with
    | write w => exact ⟨φ, h⟩
    | query q =>
      cases a with
      | error e =>
        cases a' with
        | error e' => exact ⟨φ, h⟩
        | ok x' => cases ha
      | ok x =>
        cases a' with
        | error e' => cases ha
        | ok x' =>
          have hx : x.forget f = x'.forget f := Except.ok.inj ha
          cases x with
          | reading r =>
            cases x' with
            | reading r' => exact h.keepRead hs hn ht q (Answer.reading.inj hx)
            | _ => cases hx
          | _ =>
            cases x' with
            | reading r' => cases hx
            | _ => exact ⟨φ, h⟩

/-! ## Steps -/

theorem Alike.answer_eq [Externals] (h : Alike f own φ s s') (ht : t.Matches f φ t') (hb : s.store.Backs t)
    (hb' : s'.store.Backs t') (op : Operation) :
    ((s.view t).answer op).map (Answer.forget f) = ((s'.view t').answer op).map (Answer.forget f) := by
  have hw : (s.view t).WellFormed := hb.wellFormed
  have hw' : (s'.view t').WellFormed := hb'.wellFormed
  have hview : (s.view t).forget f = (s'.view t').forget f := ht.view_eq h.renamed hb.lt
  rw [← Table.answer_forget hw, hview, Table.answer_forget hw']

/-- The answers agree but for what is left out, and the sessions are alike again. -/
def Agree (f : Forgetting) (own : String → Bool) (r r' : Except Error Answer × Session × List Log.Line) : Prop :=
  r.1.map (Answer.forget f) = r'.1.map (Answer.forget f) ∧ ∃ φ, Alike f own φ r.2.1 r'.2.1

theorem Alike.operate [Externals] (h : Alike f own φ s s') (hs : Sound s) (hon : (on, t) ∈ s.tables)
    (hn : own on = true) (ht : t.Matches f φ t') (hb' : s'.store.Backs t') (op : Operation) {keep : Option String}
    (hkeep : ∀ name ∈ keep.toList, own name = true) :
    Agree f own (s.operate on t op keep) (s'.operate on t' op keep) := by
  have hb : s.store.Backs t := hs.backs _ hon
  have hanswer := h.answer_eq ht hb hb' op
  obtain ⟨ψ, hmatch, hnext⟩ := h.settle_change hs hon hn ht op
  have hsound := ((settle_settled hs hon op ((s.view t).change op)).sound hs
    (Table.apply_wellFormed hb.wellFormed (Table.change_fits hb.wellFormed op))).1
  exact ⟨hanswer, hnext.keepAnswer hsound hmatch hkeep op hanswer⟩

theorem Alike.assignFrom [Externals] (h : Alike f own φ s s') (hn : own on = true) (ht : t.Matches f φ t')
    (hb : s.store.Backs t) (hb' : s'.store.Backs t') (hg : g.index < s.store.size) :
    Agree f own (s.assignFrom on t name g) (s'.assignFrom on t' name (φ g)) := by
  have hrename (c : Change Column) : (c.map fun _ => φ g) = (c.map fun _ => g).map φ := by cases c <;> rfl
  simp only [Session.assignFrom, h.renamed.read_eq g hg]
  refine ⟨h.answer_eq ht hb hb' (.write (.assign name (s.store.read g))), φ, h.bindTable hn ?_⟩
  rw [hrename, Table.change, Table.change, h.plan_eq ht hb]
  exact ht.apply _

theorem Alike.keepTable (h : Alike f own φ s s') (ht : t.Matches f φ t') {keep : Option String}
    (hkeep : ∀ name ∈ keep.toList, own name = true) : Alike f own φ (s.keepTable keep t) (s'.keepTable keep t') := by
  cases keep with
  | none => exact h
  | some name => exact h.bindTable (hkeep name (List.mem_singleton.mpr rfl)) ht

theorem Alike.rebuild (h : Alike f own φ s s') (ht : t.Matches f φ t') (hb : s.store.Backs t) (config : Config)
    {keep : Option String} (hkeep : ∀ name ∈ keep.toList, own name = true) :
    Agree f own (s.rebuild t config keep) (s'.rebuild t' config keep) := by
  have hview : (s.view t).forget f = (s'.view t').forget f := ht.view_eq h.renamed hb.lt
  have hcolumns : (t.map φ).columns = t'.columns := Table.columns_eq_of_forget ht
  unfold Session.rebuild
  rw [Table.columns_eq_of_forget hview]
  cases Table.create (s'.view t').columns config with
  | error e => exact ⟨rfl, φ, h⟩
  | ok cells => exact ⟨rfl, φ, h.keepTable (by rw [← hcolumns]; rfl) hkeep⟩

/-- A reference whose name counts stands for the same column. -/
theorem Alike.locate_eq (h : Alike f own φ s s') (hs : Sound s) (ref : Reference) (hn : own ref.holder = true) :
    s'.locate ref = (s.locate ref).map φ := by
  cases ref with
  | kept name =>
    have hlookup : s'.kept.lookup name = (s.kept.lookup name).map φ := h.kept_lookup_eq hn
    simp only [locate, hlookup]
    cases s.kept.lookup name <;> rfl
  | column table name =>
    have hlookup : (s.tables.lookup table).map (fun t => (t.map φ).forget f) =
        (s'.tables.lookup table).map (Table.forget f) := h.lookup_eq hs hn
    have hforget (o : Option (Table Handle)) : (o.bind fun t => t.column? name) =
        (o.map (Table.forget f)).bind fun t => t.column? name := by
      rw [Option.bind_map]
      rfl
    have hmap (o : Option (Table Handle)) : ((o.map fun t => (t.map φ).forget f).bind fun t => t.column? name) =
        (o.bind fun t => t.column? name).map φ := by
      rw [Option.bind_map, Option.map_bind]
      exact congrArg o.bind (funext fun t => Table.column?_map φ t name)
    simp only [locate]
    rw [hforget, ← hlookup, hmap]
    cases (s.tables.lookup table).bind fun t => t.column? name <;> rfl

/-- Whether two columns are in one buffer is the same on both sides. -/
theorem Alike.shares_eq (h : Alike f own φ s s') (hs : Sound s) {a b : Reference} (ha : own a.holder = true)
    (hb : own b.holder = true) :
    (do return Answer.flag ((← s.locate a) = (← s.locate b)) : Except Error Answer) =
      do return Answer.flag ((← s'.locate a) = (← s'.locate b)) := by
  rw [h.locate_eq hs a ha, h.locate_eq hs b hb]
  cases hg : s.locate a with
  | error e => rfl
  | ok g =>
    cases hk : s.locate b with
    | error e => rfl
    | ok k =>
      have hinj : g = k ↔ φ g = φ k :=
        ⟨congrArg φ, h.renamed.inj g k (lt_of_locate hs hg) (lt_of_locate hs hk)⟩
      exact congrArg (fun b => Except.ok (Answer.flag b)) (decide_eq_decide.mpr hinj)

theorem Alike.perform [Externals] (h : Alike f own φ s s') (hs : Sound s) (hs' : Sound s') {on : String} {r : Request}
    (hn : ∀ name ∈ on :: r.names, own name = true) : Agree f own (s.perform on r) (s'.perform on r) := by
  obtain ⟨hon, hnames⟩ := List.forall_mem_cons.mp hn
  have hlookup := h.lookup_eq hs hon
  unfold Session.perform
  cases ht : s.tables.lookup on with
  | none =>
    cases ht' : s'.tables.lookup on with
    | none => exact ⟨rfl, φ, h⟩
    | some t' => rw [ht, ht'] at hlookup; cases hlookup
  | some t =>
    cases ht' : s'.tables.lookup on with
    | none => rw [ht, ht'] at hlookup; cases hlookup
    | some t' =>
      rw [ht, ht'] at hlookup
      have hmatch : t.Matches f φ t' := Option.some.inj hlookup
      have hmem : (on, t) ∈ s.tables := Table.mem_of_lookup ht
      have hb : s.store.Backs t := hs.backs _ hmem
      have hb' : s'.store.Backs t' := hs'.backs _ (Table.mem_of_lookup ht')
      cases r with
      | operate op keep => exact h.operate hs hmem hon hmatch hb' op hnames
      | assignFrom name ref =>
        simp only [h.locate_eq hs ref (hnames _ (List.mem_singleton.mpr rfl))]
        cases hg : s.locate ref with
        | error e => exact ⟨rfl, φ, h⟩
        | ok g => exact h.assignFrom hon hmatch hb hb' (lt_of_locate hs hg)
      | copy keep =>
        have hview : (s.view t).forget f = (s'.view t').forget f := hmatch.view_eq h.renamed hb.lt
        exact ⟨congrArg (fun u => Except.ok (Answer.reading (.table u))) hview, φ, h.keepTable hmatch hnames⟩
      | rebuild config keep => exact h.rebuild hmatch hb config hnames
      | contents ref =>
        simp only [h.locate_eq hs ref (hnames _ (List.mem_singleton.mpr rfl))]
        cases hg : s.locate ref with
        | error e => exact ⟨rfl, φ, h⟩
        | ok g =>
          refine ⟨?_, φ, h⟩
          simp only [Except.map, h.renamed.read_eq g (lt_of_locate hs hg)]
      | shares a b =>
        obtain ⟨ha, hb⟩ := List.forall_mem_cons.mp hnames
        refine ⟨congrArg (Except.map (Answer.forget f)) ?_, φ, h⟩
        exact h.shares_eq hs ha (hb _ (List.mem_singleton.mpr rfl))

theorem Alike.create [Externals] (h : Alike f own φ s s') (hs : Sound s) (hn : own name = true)
    (columns : List (String × Column)) (config : Config) :
    Agree f own (s.step (.create name columns config)) (s'.step (.create name columns config)) := by
  simp only [Session.step, Session.create]
  cases Table.create columns config with
  | error e => exact ⟨rfl, φ, h⟩
  | ok cells =>
    obtain ⟨ψ, hheld, hnext⟩ := h.holdTable hs (rfl : cells.forget f = cells.forget f)
    exact ⟨rfl, ψ, hnext.bindTable hn hheld⟩

/-- New contents of a kept column leave alike sessions behind. -/
theorem Alike.rewrite (h : Alike f own φ s s') (hs : Sound s) (hn : own name = true) (hk : (name, g) ∈ s.kept)
    (c : Column) :
    ∃ ψ, Alike f own ψ ((s.overwrite g c).1.bindColumn name (s.overwrite g c).2)
      ((s'.overwrite (φ g) c).1.bindColumn name (s'.overwrite (φ g) c).2) := by
  have hg : g.index < s.store.size := hs.kept_lt _ hk
  obtain ⟨ψ, hsame, hnew, hr⟩ := h.write (some g) (fun k hk => by cases hk; exact hg) c
  have hrest := (h.withoutKept name).follow ((overwrite_extends s g c).withoutKept name)
    ((overwrite_extends s' (φ g) c).withoutKept name) hr fun k hk' =>
      hsame k (hs.lt_of_mem (mem_handles_withoutKept hk')) fun e => by
        cases e
        exact two_le_count_withoutKept hk hk'
  have := hrest.bindColumn hn (s.overwrite g c).2
  rw [bindColumn_withoutKept, bindColumn_withoutKept] at this
  have hsecond : ψ (s.overwrite g c).2 = (s'.overwrite (φ g) c).2 := hnew
  exact ⟨ψ, by rwa [hsecond] at this⟩

theorem Alike.fill [Externals] (h : Alike f own φ s s') (hs : Sound s) (hn : own name = true) (value : Cell) :
    Agree f own (s.step (.fill name value)) (s'.step (.fill name value)) := by
  simp only [Session.step, Session.fillKept, h.locate_eq hs (.kept name) hn]
  cases hg : s.locate (.kept name) with
  | error e => exact ⟨rfl, φ, h⟩
  | ok g =>
    simp only [Except.map, ok_bind, h.renamed.read_eq g (lt_of_locate hs hg)]
    cases (s.store.read g).fill value with
    | error e => exact ⟨rfl, φ, h⟩
    | ok filled => exact ⟨rfl, h.rewrite hs hn (mem_kept_of_locate hg) filled⟩

/-- Alike sessions answer a step alike and are alike after it, if its names count. -/
theorem Alike.step [Externals] (h : Alike f own φ s s') (hs : Sound s) (hs' : Sound s') {step : Step}
    (hn : ∀ name ∈ step.names, own name = true) : Agree f own (s.step step) (s'.step step) := by
  cases step with
  | create name columns config => exact h.create hs (hn name (List.mem_singleton.mpr rfl)) columns config
  | request on r => exact h.perform hs hs' hn
  | fill name value => exact h.fill hs (hn name (List.mem_singleton.mpr rfl)) value

end NamedRows.Session
