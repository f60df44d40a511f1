import NamedRows.Proofs.Session.Alike
import NamedRows.Proofs.Table.Atomic
import NamedRows.Session.Action

/-!
# Views are never changed by later writes

An action reaches some of the places that a session has columns in (`Action.Reaches`): a write reaches the one place it
writes. All other places stay in their buffers, and these keep what is in them (`act_stays`), because a buffer is
overwritten only for a single use, and two places in one buffer make two uses of it (`two_le_count_of_locate`). So
whatever is not reached looks the same after any run (`after_stays`), and a column that has been filled is in a
buffer of its own (`views_survive`).
-/

namespace NamedRows

/-- The table that a place is in. -/
def Reference.table? : Reference → Option String
  | .kept _ => none
  | .column table _ => some table

/-- The places that a step may write, or take away. A write of a column is a write of one place; what is kept of a
reading takes the place of what was kept under the name. -/
def Step.Reaches (q : Reference) : Step → Prop
  | .create name _ _ => q.table? = some name
  | .fill name _ => q = .kept name
  | .request on (.operate (.write w) _) => ∃ name, w.column? = some name ∧ q = .column on name
  | .request on (.assignFrom name _) => q = .column on name
  | .request _ (.operate (.query _) keep) => keep = some q.holder
  | .request _ (.copy keep) | .request _ (.rebuild _ keep) => keep ≠ none ∧ q.table? = keep
  | .request _ (.contents _) | .request _ (.shares _ _) => False

/-- The places that an action may write, or take away. -/
def Action.Reaches (q : Reference) : Action → Prop
  | .step s => s.Reaches q
  | .clone name _ | .dropColumn name => q = .kept name
  | .dropTable name => q.table? = some name

/-- The two writes that write a value into every row of a column. -/
def Write.Fills (name : String) (value : Cell) (w : Write) : Prop :=
  w = .fill name (some value) ∨ w = .broadcast name value

/-- The actions that write a value into every row of the column in a place. -/
inductive Action.Fills : Action → Reference → Cell → Prop
  | kept (name : String) (value : Cell) : Fills (.step (.fill name value)) (.kept name) value
  | column (on : String) {name : String} {value : Cell} {w : Write} (hw : w.Fills name value) (keep : Option String) :
      Fills (.step (.request on (.operate (.write w) keep))) (.column on name) value

namespace Session

variable {s s' : Session} {on name : String} {t : Table Handle} {g h : Handle} {p q : Reference} {column : Column}

/-! ## Places -/

theorem locate_column :
    s.locate (.column on name) = .ok h ↔ ∃ t, s.tables.lookup on = some t ∧ t.column? name = some h := by
  simp only [locate]
  rw [← Option.bind_eq_some_iff]
  cases (s.tables.lookup on).bind fun t => t.column? name <;> simp

/-- The contents of a place are those of its buffer. -/
theorem contents?_eq (s : Session) (q : Reference) : s.contents? q = (s.locate q).toOption.map s.store.read := by
  cases q with
  | kept name =>
    simp only [contents?, column?, locate]
    cases s.kept.lookup name <;> rfl
  | column on name =>
    simp only [contents?, table?, locate]
    cases s.tables.lookup on with
    | none => rfl
    | some t =>
      simp only [Option.map_some, Option.bind_some, view, Table.column?_map]
      cases t.column? name <;> rfl

theorem contents?_of_locate (h : s.locate q = .ok g) : s.contents? q = some (s.store.read g) := by
  rw [contents?_eq, h]
  rfl

/-- What is answered when it is asked whether two places share a buffer. -/
theorem shares_iff [Externals] (ht : s.tables.lookup on = some t) :
    (s.perform on (.shares p q)).1 = .ok (.flag true) ↔ s.Shares p q := by
  simp only [perform, ht, Shares]
  constructor
  · intro hanswer
    obtain ⟨g, hp, hanswer⟩ := bind_eq_ok.mp hanswer
    obtain ⟨h, hq, hanswer⟩ := bind_eq_ok.mp hanswer
    have hsame : decide (g = h) = true := Answer.flag.inj (Except.ok.inj hanswer)
    exact ⟨h, of_decide_eq_true hsame ▸ hp, hq⟩
  · rintro ⟨h, hp, hq⟩
    simp only [hp, hq, ok_bind, decide_true]
    rfl

/-- Two places in one buffer make two uses of it. -/
theorem two_le_count_of_locate (hp : s.locate p = .ok h) (hq : s.locate q = .ok h) (hne : p ≠ q) :
    2 ≤ s.handles.count h := by
  cases p with
  | kept name =>
    have hpk := mem_kept_of_locate hp
    cases q with
    | kept other =>
      have hqk := mem_kept_of_locate hq
      have hdistinct : (name, h) ≠ (other, h) := fun e => hne (congrArg Reference.kept (congrArg Prod.fst e))
      have htwo : 2 ≤ (s.kept.map Prod.snd).count h := two_le_count_map hpk hqk hdistinct rfl
      rw [count_handles]
      omega
    | column on other =>
      obtain ⟨t, ht, hc⟩ := locate_column.mp hq
      exact two_le_count_kept (Table.mem_of_lookup ht) hpk (Table.mem_handles_of_column hc)
  | column on name =>
    obtain ⟨t, ht, hc⟩ := locate_column.mp hp
    have hon := Table.mem_of_lookup ht
    cases q with
    | kept other => exact two_le_count_kept hon (mem_kept_of_locate hq) (Table.mem_handles_of_column hc)
    | column on' other =>
      obtain ⟨t', ht', hc'⟩ := locate_column.mp hq
      have hon' := Table.mem_of_lookup ht'
      by_cases hsame : on = on'
      · subst hsame
        rw [ht] at ht'
        cases ht'
        have hdistinct : (name, h) ≠ (other, h) := fun e => hne (congrArg (Reference.column on) (congrArg Prod.fst e))
        exact two_le_count_columns hon (Table.mem_of_lookup hc) (Table.mem_of_lookup hc') hdistinct rfl
      · exact two_le_count_tables hon hon' (fun e => hsame (congrArg Prod.fst e)) (Table.mem_handles_of_column hc)
          (Table.mem_handles_of_column hc')

/-! ## Places that stay -/

/-- A place stays in its buffer, which keeps what is in it. -/
structure Stays (s s' : Session) (q : Reference) : Prop where
  locate_eq : s'.locate q = s.locate q
  read_eq : ∀ h, s.locate q = .ok h → s'.store.read h = s.store.read h

theorem Stays.refl (s : Session) (q : Reference) : Stays s s q := ⟨rfl, fun _ _ => rfl⟩

theorem Stays.trans {s₁ s₂ s₃ : Session} (h : Stays s₁ s₂ q) (h' : Stays s₂ s₃ q) : Stays s₁ s₃ q where
  locate_eq := h'.locate_eq.trans h.locate_eq
  read_eq g hg := (h'.read_eq g (h.locate_eq.trans hg)).trans (h.read_eq g hg)

theorem Stays.contents_eq (h : Stays s s' q) : s'.contents? q = s.contents? q := by
  rw [contents?_eq, contents?_eq, h.locate_eq]
  cases hq : s.locate q with
  | error e => rfl
  | ok g => exact congrArg some (h.read_eq g hq)

theorem Extends.locate_eq (h : Extends s s') (q : Reference) : s'.locate q = s.locate q := by
  cases q <;> simp only [locate, h.tables_eq, h.kept_eq]

theorem Grows.stays (h : Grows s s') (hs : Sound s) (q : Reference) : Stays s s' q :=
  ⟨h.toExtends.locate_eq q, fun g hg => h.read_eq g (lt_of_locate hs hg)⟩

/-- What is written to the buffer of a place leaves all other places alone. -/
theorem write_stays (hs : Sound s) {target : Option Handle} (ht : ∀ h, target = some h → s.locate p = .ok h)
    (hne : q ≠ p) (column : Column) : Stays s (s.write target column).1 q where
  locate_eq := (write_extends s target column).locate_eq q
  read_eq g hg := by
    have hlt := lt_of_locate hs hg
    cases target with
    | none => exact (hold_grows s column).read_eq g hlt
    | some h =>
      refine read_overwrite hlt (fun e => ?_) column
      subst e
      exact two_le_count_of_locate (ht g rfl) hg hne.symm

theorem lookup_entered {α : Type} (entries : List (String × α)) (a : α) {other : String} (h : other ≠ name) :
    (entered entries name a).lookup other = entries.lookup other := by
  rw [entered, List.lookup_cons, beq_eq_false_iff_ne.mpr h]
  exact Table.lookup_filter_ne entries h

/-- A place is found where it was if what is kept under its name is. -/
theorem locate_congr (hkept : ∀ name, q = .kept name → s'.kept.lookup name = s.kept.lookup name)
    (htables : ∀ on, q.table? = some on → s'.tables.lookup on = s.tables.lookup on) : s'.locate q = s.locate q := by
  cases q with
  | kept name => simp only [locate, hkept name rfl]
  | column on name => simp only [locate, htables on rfl]

theorem bindTable_stays (s : Session) (t : Table Handle) (h : q.table? ≠ some name) :
    Stays s (s.bindTable name t) q where
  locate_eq := locate_congr (fun _ _ => rfl) fun _ hon => lookup_entered s.tables t fun e => h (e ▸ hon)
  read_eq _ _ := rfl

theorem bindColumn_stays (s : Session) (g : Handle) (h : q ≠ .kept name) : Stays s (s.bindColumn name g) q where
  locate_eq := locate_congr (fun _ hother => lookup_entered s.kept g fun e => h (e ▸ hother)) fun _ _ => rfl
  read_eq _ _ := rfl

theorem without_stays (s : Session) (h : q.table? ≠ some name) : Stays s (s.without name) q where
  locate_eq := locate_congr (fun _ _ => rfl) fun _ hon => Table.lookup_filter_ne s.tables fun e => h (e ▸ hon)
  read_eq _ _ := rfl

theorem withoutKept_stays (s : Session) (h : q ≠ .kept name) : Stays s (s.withoutKept name) q where
  locate_eq := locate_congr (fun _ hother => Table.lookup_filter_ne s.kept fun e => h (e ▸ hother)) fun _ _ => rfl
  read_eq _ _ := rfl

/-- A table is replaced by one that has the same column under a name. -/
theorem rebind_stays (ht : s.tables.lookup on = some t) {t' : Table Handle}
    (h : ∀ name, q = .column on name → t'.column? name = t.column? name) : Stays s (s.bindTable on t') q := by
  by_cases hq : q.table? = some on
  · cases q with
    | kept other => cases hq
    | column on' name =>
      cases hq
      refine ⟨?_, fun _ _ => rfl⟩
      simp [locate, bindTable, entered, ht, h name rfl]
  · exact bindTable_stays s t' hq

/-! ## Steps -/

theorem locate_of_target {op : Operation} (ht : s.tables.lookup on = some t) (h : target? t name op = some g) :
    s.locate (.column on name) = .ok g :=
  locate_column.mpr ⟨t, ht, column_of_target h⟩

/-- Carrying a change over to handles writes at most the place of the column that is put. -/
theorem settle_stays (hs : Sound s) (ht : s.tables.lookup on = some t) (op : Operation) {c : Change Column}
    (h : ∀ name, c.column? = some name → q ≠ .column on name) : Stays s (s.settle t op c).1 q := by
  cases c with
  | put name column =>
    rw [settle_put]
    exact write_stays hs (fun _ htarget => locate_of_target ht htarget) (h name rfl) column
  | keep | cache d | touch name | remove name | order names => exact .refl s q

/-- The change of the handles is one of the same column. -/
theorem column?_settle (s : Session) (t : Table Handle) (op : Operation) (c : Change Column) :
    (s.settle t op c).2.column? = c.column? := by
  cases c with
  | put name column => rw [settle_put]; rfl
  | keep | cache d | touch name | remove name | order names => rfl

theorem order_of_settle {op : Operation} {c : Change Column} {names : List String}
    (h : (s.settle t op c).2 = .order names) : c = .order names := by
  cases c with
  | put name column => rw [settle_put] at h; cases h
  | order names' => cases h; rfl
  | keep | cache d | touch name | remove name => cases h

/-- A change that fits is carried over to the handles, and the places of other columns stay. -/
theorem rebind_settle_stays (hs : Sound s) (ht : s.tables.lookup on = some t) (op : Operation) {c : Change Column}
    (hc : (s.view t).Fits c) (h : ∀ name, c.column? = some name → q ≠ .column on name) :
    Stays s ((s.settle t op c).1.bindTable on (t.apply (s.settle t op c).2)) q := by
  have hextends := (settle_settled hs (Table.mem_of_lookup ht) op c).toExtends
  refine (settle_stays hs ht op h).trans (rebind_stays (hextends.tables_eq.symm ▸ ht) fun name hq => ?_)
  refine Table.column?_apply (fun hcolumn => ?_) fun names horder hname => ?_
  · rw [column?_settle] at hcolumn
    exact h name hcolumn hq
  · have horder := order_of_settle horder
    subst horder
    exact Table.mem_of_order hc (by rwa [view, Table.names_map])

theorem keepReading_stays (s : Session) (r : Reading Handle) (h : name ≠ q.holder) :
    Stays s (s.keepReading name r) q := by
  cases r with
  | cell c => exact .refl s q
  | column g => exact bindColumn_stays s g fun e => h (by rw [e]; rfl)
  | table t =>
    refine bindTable_stays s t fun e => h ?_
    cases q with
    | kept other => cases e
    | column on other => exact (Option.some.inj e).symm

theorem keepAnswer_stays (hs : Sound s) (t : Table Handle) {keep : Option String} (h : keep ≠ some q.holder)
    (op : Operation) (answer : Except Error Answer) : Stays s (s.keepAnswer t keep op answer) q := by
  unfold keepAnswer
  split
  · have hne := fun e => h (congrArg some e)
    split
    · exact keepReading_stays s _ hne
    · exact ((holdReading_grows s _).stays hs q).trans (keepReading_stays _ _ hne)
  · exact .refl s q

theorem keepTable_stays (s : Session) (t : Table Handle) {keep : Option String} (h : ¬(keep ≠ none ∧ q.table? = keep)) :
    Stays s (s.keepTable keep t) q := by
  cases keep with
  | none => exact .refl s q
  | some name => exact bindTable_stays s t fun e => h ⟨Option.some_ne_none name, e⟩

/-- A question keeps at most a directory, and what it reads. -/
theorem ask_stays [Externals] (hs : Sound s) (ht : s.tables.lookup on = some t) (query : Query) {keep : Option String}
    (h : keep ≠ some q.holder) : Stays s (s.operate on t (.query query) keep).2.1 q := by
  have hw : (s.view t).WellFormed := (hs.backs _ (Table.mem_of_lookup ht)).wellFormed
  have hfits : (s.view t).Fits ((s.view t).change (.query query)) := Table.change_fits hw (.query query)
  have hsettled := settle_settled hs (Table.mem_of_lookup ht) (.query query) ((s.view t).change (.query query))
  have hnone : ((s.view t).change (.query query)).column? = none := by
    simp only [Table.change]
    split <;> rfl
  have hbound : Stays s _ q := rebind_settle_stays hs ht (.query query) hfits fun name e => by
    rw [hnone] at e
    cases e
  have hsound := (hsettled.sound hs (Table.apply_wellFormed hw hfits)).1
  exact hbound.trans (keepAnswer_stays hsound _ h _ _)

/-- Nothing is kept of a write. -/
theorem operate_write [Externals] (s : Session) (on : String) (t : Table Handle) (w : Write) (keep : Option String) :
    (s.operate on t (.write w) keep).2.1 = (s.settle t (.write w) ((s.view t).plan w).1).1.bindTable on
      (t.apply (s.settle t (.write w) ((s.view t).plan w).1).2) := by
  cases keep <;> rfl

/-- A write writes at most the place it names. -/
theorem write_step_stays [Externals] (hs : Sound s) (ht : s.tables.lookup on = some t) (w : Write)
    (keep : Option String) (h : ∀ name, w.column? = some name → q ≠ .column on name) :
    Stays s (s.operate on t (.write w) keep).2.1 q := by
  have hw : (s.view t).WellFormed := (hs.backs _ (Table.mem_of_lookup ht)).wellFormed
  rw [operate_write]
  exact rebind_settle_stays hs ht (.write w) (Table.plan_fits hw w) fun name e => h name (Table.column?_of_plan e)

theorem assignFrom_stays [Externals] (ht : s.tables.lookup on = some t) (g : Handle) (h : q ≠ .column on name) :
    Stays s (s.assignFrom on t name g).2.1 q := by
  have hchange : ((s.view t).change (.write (.assign name (s.store.read g)))).map (fun _ => g) = .keep ∨
      ((s.view t).change (.write (.assign name (s.store.read g)))).map (fun _ => g) = .put name g := by
    simp only [Table.change, Table.plan]
    split
    · exact .inl rfl
    · exact .inr rfl
  refine rebind_stays ht fun other hq => ?_
  rcases hchange with hkeep | hput
  · rw [hkeep]
    rfl
  · rw [hput]
    exact Table.column?_apply (fun e => h (by cases e; exact hq)) fun _ e => by cases e

theorem perform_stays [Externals] (hs : Sound s) (on : String) (r : Request) (h : ¬(Step.request on r).Reaches q) :
    Stays s (s.perform on r).2.1 q := by
  unfold perform
  split
  · exact .refl s q
  · rename_i t ht
    cases r with
    | operate op keep =>
      cases op with
      | query query => exact ask_stays hs ht query h
      | write w => exact write_step_stays hs ht w keep fun name hname e => h ⟨name, hname, e⟩
    | assignFrom name ref =>
      cases hg : s.locate ref with
      | error e => simp only [hg]; exact .refl s q
      | ok g => simp only [hg]; exact assignFrom_stays ht g h
    | copy keep => exact keepTable_stays s t h
    | rebuild config keep =>
      simp only [rebuild]
      split
      · exact .refl s q
      · exact keepTable_stays s _ h
    | contents ref | shares a b => exact .refl s q

theorem create_stays (hs : Sound s) {columns : List (String × Column)} {config : Config}
    {r : Session × List Log.Line} (hr : s.create name columns config = .ok r) (h : q.table? ≠ some name) :
    Stays s r.1 q := by
  obtain ⟨cells, -, hr⟩ := bind_eq_ok.mp hr
  cases hr
  exact ((holdTable_grows s cells).1.stays hs q).trans (bindTable_stays _ _ h)

/-- What filling a kept column comes to: its contents are filled and written. -/
theorem fillKept_eq_ok {value : Cell} :
    s.fillKept name value = .ok s' ↔ ∃ h filled, s.locate (.kept name) = .ok h ∧
      (s.store.read h).fill value = .ok filled ∧
      s' = (s.write (some h) filled).1.bindColumn name (s.write (some h) filled).2 := by
  constructor
  · intro hfill
    obtain ⟨h, hlocate, hfill⟩ := bind_eq_ok.mp hfill
    obtain ⟨filled, hfilled, hfill⟩ := bind_eq_ok.mp hfill
    cases hfill
    exact ⟨h, filled, hlocate, hfilled, rfl⟩
  · rintro ⟨h, filled, hlocate, hfilled, rfl⟩
    simp only [fillKept, hlocate, ok_bind, hfilled]
    rfl

theorem fillKept_stays (hs : Sound s) {value : Cell} (hfill : s.fillKept name value = .ok s') (h : q ≠ .kept name) :
    Stays s s' q := by
  obtain ⟨g, filled, hlocate, -, rfl⟩ := fillKept_eq_ok.mp hfill
  have hwrite : Stays s (s.write (some g) filled).1 q :=
    write_stays hs (fun k hk => Option.some.inj hk ▸ hlocate) h filled
  exact hwrite.trans (bindColumn_stays _ _ h)

/-- A step leaves the places alone that it does not reach. -/
theorem step_stays [Externals] (hs : Sound s) (step : Step) (h : ¬step.Reaches q) : Stays s (s.step step).2.1 q := by
  cases step with
  | create name columns config =>
    cases hr : s.create name columns config with
    | error e => simp only [Session.step, hr]; exact .refl s q
    | ok r => simp only [Session.step, hr]; exact create_stays hs hr h
  | request on r => exact perform_stays hs on r h
  | fill name value =>
    cases hr : s.fillKept name value with
    | error e => simp only [Session.step, hr]; exact .refl s q
    | ok s' => simp only [Session.step, hr]; exact fillKept_stays hs hr h

/-- An action leaves the places alone that it does not reach. -/
theorem act_stays [Externals] (hs : Sound s) (a : Action) (h : ¬a.Reaches q) : Stays s (s.act a).2 q := by
  cases a with
  | step step => exact step_stays hs step h
  | clone name ref =>
    cases hr : s.locate ref with
    | error e => simp only [act, hr]; exact .refl s q
    | ok g => simp only [act, hr]; exact bindColumn_stays s g h
  | dropTable name => exact without_stays s h
  | dropColumn name => exact withoutKept_stays s h

/-! ## Columns that are filled -/

/-- What is written is read back, from a buffer that no other place is in. -/
theorem write_separate (hs : Sound s) {target : Option Handle} (ht : ∀ h, target = some h → s.locate p = .ok h)
    (column : Column) :
    (s.write target column).1.store.read (s.write target column).2 = column ∧
      ∀ q, q ≠ p → s.locate q ≠ .ok (s.write target column).2 := by
  have hnew : ∀ q, s.locate q ≠ .ok (s.hold column).2 := fun q hq =>
    Store.hold_ne_of_lt column (lt_of_locate hs hq) rfl
  cases target with
  | none => exact ⟨Store.read_hold_self s.store column, fun q _ => hnew q⟩
  | some g =>
    have hg := ht g rfl
    refine ⟨(overwrite_written (lt_of_locate hs hg) column).2, fun q hne hq => ?_⟩
    simp only [write, overwrite] at hq
    split at hq
    · rename_i hcount
      have htwo : 2 ≤ s.handles.count g := two_le_count_of_locate hq hg hne
      omega
    · exact hnew q hq

/-- The place of a column is written, and the session goes on from there. -/
structure Filled (s s' : Session) (p : Reference) (value : Cell) (target : Option Handle) (column : Column) : Prop where
  target_eq : ∀ h, target = some h → s.locate p = .ok h
  store_eq : s'.store = (s.write target column).1.store
  locate_eq : s'.locate p = .ok (s.write target column).2
  fill_eq : ∀ c, s.contents? p = some c → c.fill value = .ok column

theorem fillKept_filled {value : Cell} (h : s.fillKept name value = .ok s') :
    ∃ target column, Filled s s' (.kept name) value target column := by
  obtain ⟨g, filled, hlocate, hfilled, rfl⟩ := fillKept_eq_ok.mp h
  refine ⟨some g, filled, fun k hk => Option.some.inj hk ▸ hlocate, rfl, ?_, fun c hc => ?_⟩
  · simp [locate, bindColumn, entered]
  · rw [contents?_of_locate hlocate] at hc
    cases hc
    exact hfilled

/-- A value that is written puts the column of the value, or the filled column that was there. -/
theorem plan_of_fills {t : Table Column} {value : Cell} {w : Write} (hw : w.Fills name value)
    (h : (t.plan w).2 = .ok .done) :
    ∃ column, (t.plan w).1 = .put name column ∧ ∀ c, t.column? name = some c → c.fill value = .ok column := by
  cases hc : t.column? name with
  | none =>
    rcases hw with rfl | rfl
    · simp [Table.plan, hc] at h
    · exact ⟨Column.full value t.rowCount, by simp only [Table.plan, hc], fun _ h => by cases h⟩
  | some c =>
    cases hf : c.fill value with
    | error e => rcases hw with rfl | rfl <;> simp [Table.plan, hc, hf] at h
    | ok filled =>
      refine ⟨filled, ?_, fun c' hc' => Option.some.inj hc' ▸ hf⟩
      rcases hw with rfl | rfl <;> simp only [Table.plan, hc, hf]

theorem operate_filled [Externals] (ht : s.tables.lookup on = some t) {value : Cell} {w : Write}
    (hw : w.Fills name value) (keep : Option String) (h : (s.view t).answer (.write w) = .ok (.written .done)) :
    ∃ target column, Filled s (s.operate on t (.write w) keep).2.1 (.column on name) value target column := by
  have hplan : ((s.view t).plan w).2 = .ok .done := by
    obtain ⟨a, ha, hdone⟩ := map_eq_ok.mp h
    cases hdone
    exact ha
  obtain ⟨column, hput, hfill⟩ := plan_of_fills hw hplan
  have htarget : target? t name (.write w) = t.column? name := by rcases hw with rfl | rfl <;> rfl
  have hlast : (s.operate on t (.write w) keep).2.1 =
      (s.write (t.column? name) column).1.bindTable on
        (t.apply (.put name (s.write (t.column? name) column).2)) := by
    rw [operate_write, hput, settle_put, htarget]
  rw [hlast]
  refine ⟨t.column? name, column, fun g hg => locate_column.mpr ⟨t, ht, hg⟩, rfl, ?_, fun c hc => hfill c ?_⟩
  · refine locate_column.mpr ⟨_, ?_, Table.column?_apply_put t name _⟩
    simp [bindTable, entered]
  · simpa only [contents?, table?, ht, Option.map_some, Option.bind_some] using hc

/-- A fill reaches the place it fills and no other. -/
theorem eq_of_reaches {a : Action} {value : Cell} (ha : a.Fills p value) (h : a.Reaches q) : q = p := by
  cases ha with
  | kept name value => exact h
  | column on hw keep =>
    obtain ⟨other, hother, hq⟩ := h
    rcases hw with rfl | rfl <;> cases hother <;> exact hq

/-- A fill that succeeds has written the place it fills. -/
theorem act_filled [Externals] {a : Action} {value : Cell} (ha : a.Fills p value)
    (h : (s.act a).1 = .ok (.written .done)) :
    ∃ target column, Filled s (s.act a).2 p value target column := by
  cases ha with
  | kept name value =>
    simp only [act, Session.step] at h ⊢
    cases hr : s.fillKept name value with
    | error e => rw [hr] at h; cases h
    | ok s' => exact fillKept_filled hr
  | column on hw keep =>
    simp only [act, Session.step, perform] at h ⊢
    cases ht : s.tables.lookup on with
    | none => rw [ht] at h; cases h
    | some t =>
      rw [ht] at h
      exact operate_filled ht hw keep h

/-! ## Runs -/

theorem Sound.withoutKept (hs : Sound s) (name : String) : Sound (s.withoutKept name) where
  nodup := hs.nodup
  backs := hs.backs
  kept_lt p hp := hs.kept_lt p (List.mem_filter.mp hp).1

theorem Sound.act [Externals] (hs : Sound s) (a : Action) : Sound (s.act a).2 := by
  cases a with
  | step step => exact hs.step step
  | clone name ref =>
    cases hr : s.locate ref with
    | error e => simp only [Session.act, hr]; exact hs
    | ok g => simp only [Session.act, hr]; exact hs.bindColumn (lt_of_locate hs hr)
  | dropTable name => exact hs.without name
  | dropColumn name => exact hs.withoutKept name

theorem Sound.after [Externals] (hs : Sound s) (actions : List Action) : Sound (s.after actions) := by
  induction actions generalizing s with
  | nil => exact hs
  | cons a actions ih => exact ih (hs.act a)

/-- Actions leave the places alone that none of them reaches. -/
theorem after_stays [Externals] (hs : Sound s) {actions : List Action} (h : ∀ a ∈ actions, ¬a.Reaches q) :
    Stays s (s.after actions) q := by
  induction actions generalizing s with
  | nil => exact .refl s q
  | cons a actions ih =>
    obtain ⟨ha, hrest⟩ := List.forall_mem_cons.mp h
    exact (act_stays hs a ha).trans (ih (hs.act a) hrest)

/-- A fill that succeeds leaves the filled column in a buffer that no other place is in. -/
theorem Filled.separate (hs : Sound s) {value : Cell} {target : Option Handle}
    (h : Filled s s' p value target column) (hothers : ∀ q, q ≠ p → Stays s s' q) :
    s'.contents? p = some column ∧ ∀ q, q ≠ p → ¬s'.Shares p q := by
  obtain ⟨hread, hother⟩ := write_separate hs h.target_eq column
  refine ⟨?_, ?_⟩
  · rw [contents?_of_locate h.locate_eq, h.store_eq, hread]
  · rintro q hne ⟨g, hp, hq⟩
    have hg : (s.write target column).2 = g := Except.ok.inj (h.locate_eq.symm.trans hp)
    refine hother q hne ?_
    rw [← (hothers q hne).locate_eq, hq, hg]

/-- Whatever has been done in a session, at every moment of it: the places that later actions do not reach keep their
columns, and a write reaches only the place it writes. Two places that share a buffer have one column, with its kind and
its values, and whether they share one is what is answered when that is asked. A fill that succeeds, of an empty column
too, leaves the filled column in its place, all other places as they were, and no other place in the buffer. -/
theorem views_survive [Externals] (least : Log.Severity) (actions : List Action) :
    let s := ({ least } : Session).after actions
    (∀ later q, (∀ a ∈ later, ¬a.Reaches q) → (s.after later).contents? q = s.contents? q) ∧
    (∀ p q, s.Shares p q → ∃ c, s.contents? p = some c ∧ s.contents? q = some c) ∧
    (∀ on t p q, s.tables.lookup on = some t →
      ((s.perform on (.shares p q)).1 = .ok (.flag true) ↔ s.Shares p q)) ∧
    ∀ a p value, a.Fills p value → (s.act a).1 = .ok (.written .done) →
      (∃ filled, (s.act a).2.contents? p = some filled ∧ ∀ c, s.contents? p = some c → c.fill value = .ok filled) ∧
      (∀ q, q ≠ p → (s.act a).2.contents? q = s.contents? q) ∧
      ∀ q, q ≠ p → ¬(s.act a).2.Shares p q := by
  intro s
  have hs : Sound s := (sound_empty least).after actions
  refine ⟨fun later q hlater => (after_stays hs hlater).contents_eq, ?_, fun on t p q ht => shares_iff ht,
    fun a p value ha hdone => ?_⟩
  · rintro p q ⟨h, hp, hq⟩
    exact ⟨s.store.read h, contents?_of_locate hp, contents?_of_locate hq⟩
  · have hothers : ∀ q, q ≠ p → Stays s (s.act a).2 q := fun q hne =>
      act_stays hs a fun hreaches => hne (eq_of_reaches ha hreaches)
    obtain ⟨target, column, hfilled⟩ := act_filled ha hdone
    obtain ⟨hcontents, hseparate⟩ := hfilled.separate hs hothers
    exact ⟨⟨column, hcontents, hfilled.fill_eq⟩, fun q hne => (hothers q hne).contents_eq, hseparate⟩

/-- A column of five rows and one of none are kept under other names too. Both are in one buffer with what is kept, and
in two once they have been filled. -/
theorem views_survive_lattice :
    let actions := [Action.step (.create "ring" Table.lattice.columns {}), .step (.create "void" [("s", .int #[])] {}),
      .step (.request "ring" (.operate (.query (.get (.one "turns"))) (some "view"))),
      .clone "blank" (.column "void" "s")]
    let s := ({ least := .warn } : Session).after actions
    let fill := Action.step (.request "ring" (.operate (.write (.fill "turns" (some (.int 7)))) none))
    let fillVoid := Action.step (.request "void" (.operate (.write (.broadcast "s" (.int 7))) none))
    s.Shares (.column "ring" "turns") (.kept "view") ∧ s.Shares (.column "void" "s") (.kept "blank") ∧
      (s.act fill).2.contents? (.kept "view") = some (.int #[1, 2, 3, 4, 5]) ∧
      (s.act fill).2.contents? (.column "ring" "turns") = some (.int #[7, 7, 7, 7, 7]) ∧
      ¬(s.act fill).2.Shares (.column "ring" "turns") (.kept "view") ∧
      ¬(s.act fillVoid).2.Shares (.column "void" "s") (.kept "blank") := by
  intro actions s fill fillVoid
  obtain ⟨-, -, -, hfills⟩ := views_survive .warn actions
  have hview : s.contents? (.kept "view") = some (.int #[1, 2, 3, 4, 5]) := rfl
  obtain ⟨-, hothers, hseparate⟩ := hfills fill _ _ (.column "ring" (.inl rfl) none) rfl
  obtain ⟨-, -, hseparateVoid⟩ := hfills fillVoid _ _ (.column "void" (.inr rfl) none) rfl
  refine ⟨⟨_, rfl, rfl⟩, ⟨_, rfl, rfl⟩, (hothers (.kept "view") nofun).trans hview, rfl, ?_, ?_⟩
  · exact hseparate (.kept "view") nofun
  · exact hseparateVoid (.kept "blank") nofun

end Session

end NamedRows
