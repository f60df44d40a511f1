import NamedRows.Proofs.Column.Take
import NamedRows.Proofs.Name.Directory
import NamedRows.Proofs.Row.InRange
import NamedRows.Row.Guarded

/-!
# Resolution does not trap

A computation with every access spelled out does what the plain one does, or stops because memory is full (`Follows`).
That is so for each access whose index is good or whose sum is small, for what is composed of such accesses, and in the
end for the resolution of every selector (`resolve_follows`). What carries the induction is that the rows of a window
are rows of the source, that they are no more than `maxRows`, and that a directory lists rows of its column.
-/

namespace NamedRows

/-- The guarded computation comes to what the plain one does, or stops at a list that no memory holds. -/
def Follows {α : Type} (g : Guarded α) (x : Except Error α) : Prop :=
  g.run = .ok x ∨ ∃ n, maxRows < n ∧ g.run = .error (.memory n)

namespace Follows

variable {α β : Type}

/-! ## Composition -/

theorem plain (x : Except Error α) : Follows (Guarded.plain x) x := Or.inl rfl

theorem pure (a : α) : Follows (Pure.pure a) (.ok a) := Or.inl rfl

theorem throw (e : Error) : Follows (α := α) (MonadExcept.throw e) (.error e) := Or.inl rfl

theorem bind {g : Guarded α} {x : Except Error α} {f : α → Guarded β} {k : α → Except Error β} (h : Follows g x)
    (hf : ∀ a, x = .ok a → Follows (f a) (k a)) : Follows (g >>= f) (x >>= k) := by
  rcases h with h | ⟨n, hn, h⟩
  · obtain rfl : g = Guarded.plain x := h
    cases x with
    | error e => exact Or.inl rfl
    | ok a => exact hf a rfl
  · obtain rfl : g = Guarded.trap (.memory n) := h
    exact Or.inr ⟨n, hn, rfl⟩

/-- What follows a computation that succeeds. -/
theorem bind_ok {g : Guarded α} {a : α} {f : α → Guarded β} {y : Except Error β} (h : Follows g (.ok a))
    (hf : Follows (f a) y) : Follows (g >>= f) y :=
  h.bind (k := fun _ => y) fun a' ha => by cases ha; exact hf

theorem map {g : Guarded α} {x : Except Error α} (h : Follows g x) (f : α → β) :
    Follows (g >>= fun a => Pure.pure (f a)) (x.map f) := by
  have hx : x.map f = x >>= fun a => .ok (f a) := by cases x <;> rfl
  rw [hx]
  exact h.bind fun a _ => pure (f a)

theorem mapM {f : α → Guarded β} {k : α → Except Error β} {as : List α} (h : ∀ a ∈ as, Follows (f a) (k a)) :
    Follows (as.mapM f) (as.mapM k) := by
  induction as with
  | nil => exact pure []
  | cons a as ih =>
    rw [List.mapM_cons, List.mapM_cons]
    refine (h a List.mem_cons_self).bind fun b _ => ?_
    refine (ih fun a' ha => h a' (List.mem_cons_of_mem _ ha)).bind fun bs _ => ?_
    exact pure (b :: bs)

/-- Entry by entry, when no entry fails. -/
theorem mapM_map {f : α → Guarded β} {k : α → β} {as : List α} (h : ∀ a ∈ as, Follows (f a) (.ok (k a))) :
    Follows (as.mapM f) (.ok (as.map k)) := by
  have hm := mapM (k := fun a => (Except.ok (k a) : Except Error β)) h
  rwa [show as.mapM (fun a => (Except.ok (k a) : Except Error β)) = .ok (as.map k) from List.mapM_pure] at hm

end Follows

section Accesses

variable {α : Type}

/-! ## Accesses -/

theorem entry_follows {entries : List α} {i : Nat} {a : α} (h : entries[i]? = some a) :
    Follows (Guarded.entry entries i) (.ok a) := by
  unfold Guarded.entry
  rw [h]
  exact .pure a

theorem maxRows_eq : (maxRows : Int) = Int64.maxValue.toInt := rfl

theorem signed_eq {n : Nat} (h : n ≤ maxRows) : Guarded.signed n = n :=
  Int64.toInt_ofNat_of_lt (Nat.lt_of_le_of_lt h (by decide))

theorem sum_follows {a b : Int} (h : Text.Numeral.inRange (a + b)) : Follows (Guarded.sum a b) (.ok (a + b)) := by
  unfold Guarded.sum
  rw [if_pos h]
  exact .pure _

theorem clamped_follows {p low high : Int} (h : low ≤ high) :
    Follows (Guarded.clamped p low high) (.ok (max low (min p high))) := by
  unfold Guarded.clamped
  rw [if_pos h]
  exact .pure _

/-- A position between one of 64 bits and a number of rows is one of 64 bits. -/
theorem inRange_of_le {p : Int} (k : Int64) (hl : k.toInt ≤ p) (hm : p ≤ maxRows) : Text.Numeral.inRange p :=
  ⟨Int.le_trans k.minValue_le_toInt hl, hm⟩

/-- The last of some rows, or -1, is a signed position. -/
theorem inRange_pred {size : Nat} (h : size ≤ maxRows) : Text.Numeral.inRange (size + -1) := by
  have hminusOne : (-1 : Int64).toInt = -1 := rfl
  exact inRange_of_le (-1) (by omega) (by omega)

end Accesses

/-! ## Directories -/

section Directories

variable {d : Directory} {names : List String}

/-- An index from the end is too close to zero to be none of 64 bits. -/
theorem entryIndex_eq {k : Int64} {count : Nat} (h : count ≤ maxRows) :
    Guarded.entryIndex k count = pure (entryIndex k count) := by
  unfold Guarded.entryIndex entryIndex
  rw [signed_eq h]
  by_cases hk : k < 0
  · have hneg : k.toInt < 0 := Int64.lt_iff_toInt_lt.mp hk
    have hsum : Guarded.sum count k.toInt = pure (count + k.toInt) := if_pos (inRange_of_le k (by omega) (by omega))
    simp only [if_pos hk, hsum, pure_bind]
  · simp only [if_neg hk, pure_bind]

theorem entryIndex_follows {k : Int64} {count : Nat} (h : count ≤ maxRows) :
    Follows (Guarded.entryIndex k count) (.ok (entryIndex k count)) :=
  entryIndex_eq h ▸ .pure _

/-- No access in looking up the row of an occurrence traps. -/
theorem row_eq (h : d.Lists names) (hn : names.length ≤ maxRows) (name : String) (occurrence : Option Int64) :
    Guarded.row d name occurrence = Guarded.plain (d.row name occurrence) := by
  unfold Guarded.row Directory.row
  cases hr : d.rowsOf[name]? with
  | none => rfl
  | some rows =>
    have hsize : rows.size ≤ maxRows := Nat.le_trans (h.size_rowsOf_le hr) hn
    simp only [entryIndex_eq hsize, pure_bind]
    cases hi : entryIndex (occurrence.getD 0) rows.size with
    | none => rfl
    | some slot =>
      have hlt := entryIndex_lt hi
      simp only [Guarded.entry, Array.getElem?_toList, Option.bind_some, Array.getElem?_eq_getElem hlt]
      rfl

/-- The row of an occurrence is a row of the column. -/
theorem row_lt (h : d.Lists names) {name : String} {occurrence : Option Int64} {r : Nat}
    (hr : d.row name occurrence = .ok r) : r < names.length := by
  unfold Directory.row at hr
  split at hr
  · cases hr
  · rename_i rows hrows
    simp only at hr
    split at hr
    · rename_i row hrow
      cases hr
      obtain ⟨i, -, hi⟩ := Option.bind_eq_some_iff.mp hrow
      exact h.lt_of_mem_rowsOf hrows (Array.mem_of_getElem? hi)
    · cases hr

/-- A row is a small signed position, so its sum with a shift is the exact one or the error. -/
theorem position_eq (h : d.Lists names) (hn : names.length ≤ maxRows) (name : String) (occurrence : Option Int64)
    (shift : Int64) :
    Guarded.position d name occurrence shift = Guarded.plain (d.position name occurrence shift) := by
  unfold Guarded.position Directory.position
  rw [row_eq h hn]
  cases hr : d.row name occurrence with
  | error e => rfl
  | ok r =>
    have hlt := row_lt h hr
    show (if Text.Numeral.inRange (Guarded.signed r + shift.toInt) then _ else _) = _
    rw [signed_eq (by omega), ok_bind]
    unfold shiftRow?
    by_cases hp : Text.Numeral.inRange (r + shift.toInt)
    · rw [if_pos hp, if_pos hp]
      rfl
    · rw [if_neg hp, if_neg hp]
      rfl

theorem position_follows (h : d.Lists names) (hn : names.length ≤ maxRows) (name : String)
    (occurrence : Option Int64) (shift : Int64) :
    Follows (Guarded.position d name occurrence shift) (d.position name occurrence shift) :=
  position_eq h hn name occurrence shift ▸ .plain _

/-- Every row's label has a place among the names. -/
theorem label?_eq_plain (h : d.Lists names) (row : Nat) :
    Guarded.label? d row = Guarded.plain (.ok (d.label? row)) := by
  unfold Guarded.label? Directory.label?
  cases hl : d.labels[row]? with
  | none => rfl
  | some p =>
    have hlt : row < names.length := h.size_eq ▸ (Array.getElem?_eq_some_iff.mp hl).1
    obtain ⟨slot, hlabel, hslot⟩ := h.label_eq row names[row] (List.getElem?_eq_getElem hlt)
    rw [hl] at hlabel
    cases hlabel
    simp only [Guarded.entry, Array.getElem?_toList, Option.bind_eq_bind, Option.bind_some, hslot]
    rfl

theorem label?_follows (h : d.Lists names) (row : Nat) : Follows (Guarded.label? d row) (.ok (d.label? row)) :=
  label?_eq_plain h row ▸ .plain _

theorem exactRow_eq (h : d.Lists names) (hn : names.length ≤ maxRows) (a : Address) (size : Nat) :
    Guarded.exactRow d a size = Guarded.plain (exactRow d a size) := by
  unfold Guarded.exactRow exactRow
  rw [position_eq h hn]
  cases d.position a.name a.occurrence a.shift <;> rfl

theorem exactRow_follows (h : d.Lists names) (hn : names.length ≤ maxRows) (a : Address) (size : Nat) :
    Follows (Guarded.exactRow d a size) (exactRow d a size) :=
  exactRow_eq h hn a size ▸ .plain _

/-- A pattern has no more hits than there are rows, and they are rows. -/
theorem patternRows_bound [Externals] (h : d.Lists names) {pattern : String} {hits : List Nat}
    (hp : patternRows d pattern = .ok hits) : hits.length ≤ names.length ∧ ∀ hit ∈ hits, hit < names.length := by
  obtain ⟨p, -, hp⟩ := bind_eq_ok.mp hp
  cases hp
  have hlt : ∀ hit ∈ (d.names.toList.filter p.hits).flatMap (fun name => (d.occurrences name).toList),
      hit < names.length := fun hit hm => by
    obtain ⟨name, -, hm⟩ := List.mem_flatMap.mp hm
    rw [h.occurrences_eq] at hm
    exact (List.getElem?_eq_some_iff.mp (mem_rowsNamed.mp hm)).1
  refine ⟨?_, fun hit hm => hlt hit (List.mem_mergeSort.mp hm)⟩
  have hnodup := h.nodup_flatMap (h.nodup_names.sublist (List.filter_sublist (p := p.hits)))
  have hle := hnodup.length_le_of_subset fun hit hm => List.mem_range.mpr (hlt hit hm)
  rwa [List.length_range, ← List.length_mergeSort] at hle

theorem pickHit_follows {hits : List Nat} (h : hits.length ≤ maxRows) (k : Int64) (pattern : String) :
    Follows (Guarded.pickHit hits k pattern) (pickHit hits k pattern) := by
  unfold Guarded.pickHit pickHit
  cases hi : entryIndex k hits.length with
  | none => exact (hi ▸ entryIndex_follows h).bind_ok (.throw _)
  | some i =>
    have hlt := entryIndex_lt hi
    refine (hi ▸ entryIndex_follows h).bind_ok ?_
    simp only [Option.bind_some, List.getElem?_eq_getElem hlt]
    exact entry_follows (List.getElem?_eq_getElem hlt)

theorem mem_of_pickHit {hits : List Nat} {k : Int64} {pattern : String} {hit : Nat}
    (h : pickHit hits k pattern = .ok hit) : hit ∈ hits := by
  unfold pickHit at h
  split at h
  · rename_i row hrow
    cases h
    obtain ⟨i, -, hi⟩ := Option.bind_eq_some_iff.mp hrow
    exact List.mem_of_getElem? hi
  · cases h

theorem shiftHit_eq {row : Nat} (h : row ≤ maxRows) (n : Int64) : Guarded.shiftHit row n = shiftHit row n := by
  unfold Guarded.shiftHit shiftHit
  rw [signed_eq h]

end Directories

/-! ## Windows -/

/-- A source whose columns have its number of rows, and whose directory is one of its key column. -/
structure Source.Sound (src : Source) : Prop where
  size_eq : ∀ name c, src.column? name = some c → c.size = src.rowCount
  directory_eq : ∀ d, src.directory = .ok d → ∃ c version, src.column? src.key = some c ∧ d = Directory.build c version

theorem gather_follows {α : Type} {cells : Array α} {rows : List Nat} (h : ∀ r ∈ rows, r < cells.size) :
    Follows (Guarded.gather cells rows) (.ok (gather cells rows)) := by
  have hrows : Follows (rows.mapM (Guarded.entry cells.toList)) (.ok (gather cells rows).toList) := by
    induction rows with
    | nil => exact .pure []
    | cons row rows ih =>
      have hrow := h row List.mem_cons_self
      rw [List.mapM_cons]
      refine (entry_follows (a := cells[row]) (by simp [hrow])).bind_ok ?_
      refine (ih fun r hr => h r (List.mem_cons_of_mem _ hr)).bind_ok ?_
      rw [gather_cons rows hrow, Array.toList_append]
      exact .pure _
  exact hrows.bind_ok (.pure _)

/-- Rows that are taken from a column are looked up where it has cells. -/
theorem take_follows {c : Column} {rows : List Nat} (h : ∀ r ∈ rows, r < c.size) :
    Follows (Guarded.take c rows) (.ok (c.take rows)) := by
  cases c with
  | float cells => exact (gather_follows h).bind_ok (.pure _)
  | int cells => exact (gather_follows h).bind_ok (.pure _)
  | text cells => exact (gather_follows h).bind_ok (.pure _)
  | bool cells => exact (gather_follows h).bind_ok (.pure _)

section Windows

variable {src : Source} {w : Window}

theorem absolute_follows {r : Nat} (hr : r < w.size src) : Follows (Guarded.absolute w r) (.ok (w.absolute r)) := by
  obtain ⟨rows⟩ := w
  cases rows with
  | none => exact .pure r
  | some rows =>
    have hr' : r < rows.length := hr
    refine entry_follows ?_
    simp [Window.absolute, hr']

theorem mapM_absolute_follows {rows : List Nat} (h : ∀ r ∈ rows, r < w.size src) :
    Follows (rows.mapM (Guarded.absolute w)) (.ok (rows.map w.absolute)) :=
  .mapM_map fun r hr => absolute_follows (h r hr)

theorem all_follows (w : Window) (src : Source) : Follows (Guarded.all w src) (.ok (w.all src)) := by
  rw [← map_absolute_range]
  exact mapM_absolute_follows fun r hr => List.mem_range.mp hr

/-- The rows of a narrowed window are rows of the key column. -/
theorem directory_follows (hs : src.Sound) (hw : w.InRange src.rowCount) :
    Follows (Guarded.directory w src) (w.directory src) := by
  obtain ⟨rows⟩ := w
  cases rows with
  | none => exact .plain src.directory
  | some rows =>
    simp only [Guarded.directory, Window.directory]
    cases hc : src.column? src.key with
    | none => exact .throw _
    | some c => exact (take_follows fun r hr => (hs.size_eq _ c hc).symm ▸ hw rows rfl r hr).bind_ok (.pure _)

/-- The directory of a window lists as many rows as the window has. -/
theorem directory_lists (hs : src.Sound) (hw : w.InRange src.rowCount) {d : Directory} (hd : w.directory src = .ok d) :
    ∃ names, d.Lists names ∧ names.length = w.size src := by
  obtain ⟨rows⟩ := w
  cases rows with
  | none =>
    obtain ⟨c, version, hc, rfl⟩ := hs.directory_eq d hd
    exact ⟨_, Directory.build_lists c version, by simpa [Window.size] using hs.size_eq _ c hc⟩
  | some rows =>
    simp only [Window.directory] at hd
    cases hc : src.column? src.key with
    | none => rw [hc] at hd; cases hd
    | some c =>
      rw [hc] at hd
      cases hd
      refine ⟨_, Directory.build_lists (c.take rows) 0, ?_⟩
      rw [Array.length_toList, Column.size_labels]
      exact Column.size_take fun r hr => (hs.size_eq _ c hc).symm ▸ hw rows rfl r hr

/-- The row of the window that a computation leads to, as a selection. -/
theorem single_follows {g : Guarded Nat} {x : Except Error Nat} (h : Follows g x)
    (hx : ∀ r, x = .ok r → r < w.size src) :
    Follows (g >>= fun r => Guarded.absolute w r >>= fun p => pure (Selection.single p))
      (x >>= fun r => .ok (.single (w.absolute r))) :=
  h.bind fun r hr => (absolute_follows (hx r hr)).bind_ok (.pure _)

/-- Rows of the window, as a selection. -/
theorem rows_follows {rows : List Nat} (h : ∀ r ∈ rows, r < w.size src) :
    Follows (rows.mapM (Guarded.absolute w) >>= fun ps => pure (Selection.rows ps))
      (.ok (.rows (rows.map w.absolute))) :=
  (mapM_absolute_follows h).bind_ok (.pure _)

end Windows

/-! ## Selectors of each sort -/

section Selectors

variable {src : Source} {w : Window}

theorem resolvePattern_follows [Externals] {d : Directory} {names : List String} (h : d.Lists names)
    (hn : names.length ≤ maxRows) (a : Address) :
    Follows (Guarded.resolvePattern w d a (w.size src)) (resolvePattern w d a (w.size src)) := by
  refine (Follows.plain (patternRows d a.name)).bind fun hits hhits => ?_
  obtain ⟨hlength, hlt⟩ := patternRows_bound h hhits
  -- hits are rows of the window, so none of them wraps as a signed position
  have hshift : ∀ hit ∈ hits, Guarded.shiftHit hit a.shift = shiftHit hit a.shift := by
    intro hit hm
    have hhit := hlt hit hm
    exact shiftHit_eq (by omega) a.shift
  cases a.occurrence with
  | none =>
    have hmoved : Guarded.movedHits hits a.shift (w.size src) = movedHits hits a.shift (w.size src) := by
      unfold Guarded.movedHits movedHits
      rw [List.map_congr_left hshift]
    simp only [hmoved]
    exact rows_follows fun r hr => lt_of_mem_movedHits hr
  | some k =>
    by_cases hempty : hits = []
    · simp only [if_pos hempty]
      exact .pure _
    · simp only [if_neg hempty]
      refine (pickHit_follows (Nat.le_trans hlength hn) k a.name).bind fun hit hpick => ?_
      rw [hshift hit (mem_of_pickHit hpick)]
      exact single_follows (.plain _) fun r hr => checkRow_lt hr

theorem resolveName_follows [Externals] (hs : src.Sound) (hw : w.InRange src.rowCount) (hn : w.size src ≤ maxRows)
    (strict : Bool) (text : String) : Follows (Guarded.resolveName src w strict text) (resolveName src w strict text) := by
  refine (directory_follows hs hw).bind fun d hd => ?_
  obtain ⟨names, hlists, hlength⟩ := directory_lists hs hw hd
  rw [← hlength] at hn
  cases naming d text with
  | row a => exact single_follows (exactRow_follows hlists hn _ _) fun r hr => exactRow_lt hr
  | pattern a => exact resolvePattern_follows hlists hn a
  | unreadable e =>
    cases strict with
    | true => exact .throw e
    | false => exact .pure _
  | nothing =>
    cases strict with
    | true => exact .throw _
    | false => exact .pure _

theorem resolveNames_follows [Externals] (hs : src.Sound) (hw : w.InRange src.rowCount) (hn : w.size src ≤ maxRows) :
    ∀ texts : List String, Follows (Guarded.resolveNames src w texts) (resolveNames src w texts)
  | [] => .pure []
  | text :: texts =>
    (resolveName_follows hs hw hn false text).bind fun _ _ =>
      (resolveNames_follows hs hw hn texts).bind fun _ _ => .pure _

/-! ## Ranges -/

theorem boundPosition_follows [Externals] {d : Directory} {names : List String} (h : d.Lists names)
    (hn : names.length ≤ maxRows) (text : String) :
    Follows (Guarded.boundPosition src d text) (boundPosition src d text) := by
  unfold Guarded.boundPosition boundPosition
  cases naming d text with
  | row a => exact position_follows h hn _ _ _
  | unreadable e => exact .throw e
  | nothing => exact .throw _
  | pattern a =>
    refine (Follows.plain _).bind fun hits hhits => ?_
    obtain ⟨hlength, hlt⟩ := patternRows_bound h hhits
    by_cases hempty : hits = []
    · simp only [if_pos hempty]
      exact .throw _
    · simp only [if_neg hempty]
      refine (pickHit_follows (Nat.le_trans hlength hn) _ _).bind fun hit hpick => ?_
      have hhit := hlt hit (mem_of_pickHit hpick)
      rw [shiftHit_eq (by omega)]
      exact .pure _

theorem fitBound_follows {size : Nat} (h : size ≤ maxRows) (overrun : Overrun) (p : Int) :
    Follows (Guarded.fitBound overrun p size) (fitBound overrun p size) := by
  cases overrun with
  | fail => exact .plain _
  | clamp =>
    simp only [Guarded.fitBound, fitBound]
    by_cases hz : size = 0
    · rw [if_pos hz, if_pos hz]
      exact .throw _
    · rw [if_neg hz, if_neg hz, signed_eq h]
      refine (sum_follows (inRange_pred h)).bind_ok ?_
      exact (clamped_follows (by omega)).bind_ok (.pure _)

theorem rangeBound_follows [Externals] (hs : src.Sound) (hw : w.InRange src.rowCount) (hn : w.size src ≤ maxRows)
    (text : String) :
    Follows (Guarded.rangeBound src w text) (rangeBound src w text) := by
  refine (directory_follows hs hw).bind fun d hd => ?_
  obtain ⟨names, hlists, hlength⟩ := directory_lists hs hw hd
  exact (boundPosition_follows hlists (hlength ▸ hn) text).bind fun p _ => fitBound_follows hn src.overrun p

theorem rangeStart_follows [Externals] (hs : src.Sound) (hw : w.InRange src.rowCount) (hn : w.size src ≤ maxRows)
    (start : Option String) : Follows (Guarded.rangeStart src w start) (rangeStart src w start) := by
  cases start with
  | none => exact .pure 0
  | some text => exact rangeBound_follows hs hw hn text

theorem resolveNameRange_follows [Externals] (hs : src.Sound) (hw : w.InRange src.rowCount) (hn : w.size src ≤ maxRows)
    (start stop : Option String) :
    Follows (Guarded.resolveNameRange src w start stop) (resolveNameRange src w start stop) := by
  refine (rangeStart_follows hs hw hn start).bind fun lo hlo => ?_
  cases stop with
  | some text =>
    refine (rangeBound_follows hs hw hn text).bind fun hi hhi => ?_
    have hhi' := rangeBound_lt hhi
    exact rows_follows fun r hr => lt_of_mem_between (rangeStart_lt hlo (by omega)) hhi' hr
  | none =>
    by_cases hz : w.size src = 0
    · simp only [if_pos hz]
      exact .pure _
    · simp only [if_neg hz, Guarded.before]
      exact (Follows.pure _).bind_ok
        (rows_follows fun r hr => lt_of_mem_between (rangeStart_lt hlo hz) (by omega) hr)

theorem resolveValueRange_follows (name : String) (low high : Option Cell) :
    Follows (Guarded.resolveValueRange src w name low high) (resolveValueRange src w name low high) := by
  unfold Guarded.resolveValueRange resolveValueRange
  cases src.column? name with
  | none => exact .throw _
  | some c =>
    exact (Follows.plain _).bind fun _ _ => (Follows.plain _).bind fun _ _ =>
      (all_follows w src).bind_ok (.pure _)

/-- A bound that saturates moves to the nearest end as an exact one does. -/
theorem sliceBound_eq {size : Nat} (h : size ≤ maxRows) {least most default : Int} (hl : least ≤ most)
    (bound : Option Int64) :
    Guarded.sliceBound size least most default bound =
      pure ((bound.map (sliceBound size least most)).getD default) := by
  cases bound with
  | none => rfl
  | some b =>
    -- a negative bound and a number of rows are too close to zero for their sum to saturate
    have hsum : b < 0 → saturate (b.toInt + size) = b.toInt + size := by
      intro hb
      have hneg : b.toInt < 0 := Int64.lt_iff_toInt_lt.mp hb
      have hmin := b.minValue_le_toInt
      have hmax := maxRows_eq
      unfold saturate
      omega
    have hbound : (if b < 0 then saturate (b.toInt + size) else b.toInt) =
        if b < 0 then b.toInt + size else b.toInt := by
      by_cases hb : b < 0
      · rw [if_pos hb, if_pos hb, hsum hb]
      · rw [if_neg hb, if_neg hb]
    simp only [Guarded.sliceBound, hbound]
    exact if_pos hl

/-- In a slice nothing traps, and no memory is needed beyond that for its positions. -/
theorem slice_eq {size : Nat} (h : size ≤ maxRows) (start stop step : Option Int64) :
    Guarded.slice size start stop step = Guarded.plain (slice size start stop step) := by
  unfold Guarded.slice slice
  simp only [signed_eq h]
  by_cases hz : (step.getD 1).toInt = 0
  · simp only [if_pos hz]
    rfl
  · simp only [if_neg hz]
    have hn : (0 : Int) ≤ size := Int.natCast_nonneg size
    have hmax := maxRows_eq
    by_cases hp : 0 < (step.getD 1).toInt
    · have hfirst := optionBound_mem size start (Int.le_refl 0) hn
      have hlast := optionBound_mem size stop hn (Int.le_refl (size : Int))
      simp only [if_pos hp, sliceBound_eq h hn, pure_bind]
      rw [walk_up hp (by omega) _ hfirst.1]
      rfl
    · have hn' : (-1 : Int) ≤ size - 1 := by omega
      have hfirst := optionBound_mem size start hn' (Int.le_refl (size - 1 : Int))
      have hlast := optionBound_mem size stop (Int.le_refl (-1)) hn'
      have htop : Guarded.sum size (-1) = pure ((size : Int) - 1) := if_pos (inRange_pred h)
      simp only [if_neg hp, htop, sliceBound_eq h hn', pure_bind]
      rw [walk_down (by omega) hlast.1 _ (by omega)]
      rfl

theorem slice_follows {size : Nat} (h : size ≤ maxRows) (start stop step : Option Int64) :
    Follows (Guarded.slice size start stop step) (slice size start stop step) :=
  slice_eq h start stop step ▸ .plain _

/-! ## Positions and masks -/

theorem resolveMask_follows (hw : w.InRange src.rowCount) (flags : List Bool) :
    Follows (Guarded.resolveMask src w flags) (resolveMask src w flags) := by
  unfold Guarded.resolveMask resolveMask
  by_cases hlen : flags.length = w.size src
  · rw [if_pos hlen, if_pos hlen]
    cases hrows : w.rows with
    | none => exact .pure _
    | some rows => exact rows_follows fun r hr => hlen ▸ lt_of_mem_flagged hr
  · rw [if_neg hlen, if_neg hlen]
    by_cases hfull : flags.length = src.rowCount
    · rw [if_pos hfull, if_pos hfull]
      refine (all_follows w src).bind_ok ?_
      have hmarked : Follows ((w.all src).mapM fun row => do return (row, ← Guarded.entry flags row))
          (.ok ((w.all src).map fun row => (row, flags[row]?.getD false))) :=
        .mapM_map fun row hr => by
          have hlt : row < flags.length := hfull ▸ lt_of_mem_all hw hr
          refine (entry_follows (List.getElem?_eq_getElem hlt)).bind_ok ?_
          simp only [List.getElem?_eq_getElem hlt, Option.getD_some]
          exact .pure _
      refine hmarked.bind_ok ?_
      rw [List.filter_map, List.map_map]
      simp only [Function.comp_def, List.map_id']
      exact .pure _
    · rw [if_neg hfull, if_neg hfull]
      exact .throw _

theorem resolveIndex_follows (hn : w.size src ≤ maxRows) (i : Int64) :
    Follows (Guarded.resolveIndex src w i) (resolveIndex src w i) := by
  unfold Guarded.resolveIndex resolveIndex
  cases hi : entryIndex i (w.size src) with
  | none => exact (hi ▸ entryIndex_follows hn).bind_ok (.throw _)
  | some r => exact (hi ▸ entryIndex_follows hn).bind_ok (absolute_follows (entryIndex_lt hi))

end Selectors

/-! ## All selectors -/

variable [Externals]

mutual

/-- Resolving a selector does not trap in a window of rows that are there and can be counted. -/
theorem resolve_follows {src : Source} (hs : src.Sound) {strict : Bool} : ∀ (sel : Selector) {w : Window},
    w.InRange src.rowCount → w.size src ≤ maxRows →
      Follows (Guarded.resolve src strict w sel) (resolve src strict w sel)
  | .all, w, _, _ => (all_follows w src).bind_ok (.pure _)
  | .index i, w, _, hn => (resolveIndex_follows hn i).map _
  | .name text, w, hw, hn => resolveName_follows hs hw hn strict text
  | .address a, w, hw, hn => (directory_follows hs hw).bind fun d hd => by
    obtain ⟨names, hlists, hlength⟩ := directory_lists hs hw hd
    exact single_follows (exactRow_follows hlists (hlength ▸ hn) a _) fun r hr => exactRow_lt hr
  | .slice start stop step, w, _, hn =>
    (slice_follows hn start stop step).bind fun rows hr => rows_follows (slice_lt hr)
  | .nameRange start stop, w, hw, hn => resolveNameRange_follows hs hw hn start stop
  | .valueRange name low high, w, _, _ => resolveValueRange_follows name low high
  | .indices is, w, _, hn => (Follows.mapM fun i _ => resolveIndex_follows hn i).map _
  | .names texts, w, hw, hn => (resolveNames_follows hs hw hn texts).map _
  | .mask flags, w, hw, _ => resolveMask_follows hw flags
  | .chain stages, w, hw, hn => resolveStages_follows hs stages hw hn

/-- Nor does a chain: what a stage passes on is held, and then it is a window of the same sort. -/
theorem resolveStages_follows {src : Source} (hs : src.Sound) {strict : Bool} :
    ∀ (stages : List Selector) {w : Window}, w.InRange src.rowCount → w.size src ≤ maxRows →
      Follows (Guarded.resolveStages src strict w stages) (resolveStages src strict w stages)
  | [], w, _, _ => (all_follows w src).bind_ok (.pure _)
  | [stage], w, hw, hn => resolve_follows hs stage hw hn
  | stage :: next :: stages, w, hw, hn => (resolve_follows hs stage hw hn).bind fun s hsel => by
    unfold Guarded.held
    by_cases hlen : s.positions.length ≤ maxRows
    · rw [if_pos hlen]
      exact (Follows.pure _).bind_ok
        (resolveStages_follows hs (next :: stages) (resolve_inRange stage hw hsel).window hlen)
    · rw [if_neg hlen]
      exact Or.inr ⟨_, Nat.lt_of_not_le hlen, rfl⟩

end

/-- Resolving a selector over a whole source does not trap. -/
theorem select_follows {src : Source} (hs : src.Sound) (hn : src.rowCount ≤ maxRows) (sel : Selector) (strict : Bool) :
    Follows (Guarded.select src sel strict) (src.select sel strict) :=
  resolve_follows hs sel (inRange_whole _) hn

end NamedRows
