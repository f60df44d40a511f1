import NamedRows.Proofs.Outcome
import NamedRows.Proofs.Row.Slice
import NamedRows.Row.Resolve

/-!
# Selected rows are rows

A window is in range when its rows are rows of the source (`Window.InRange`), a selection when its positions are and a
mask has a flag for every row (`Selection.InRange`). Whatever a selector means in a window in range is a selection in
range (`resolve_inRange`): every position is checked against the number of rows in the window before it is taken as a
row of the source, and the window of a later stage holds the positions of the stage before.
-/

namespace NamedRows

/-- The rows of a window are among the first `n`. -/
def Window.InRange (w : Window) (n : Nat) : Prop := ∀ rows, w.rows = some rows → ∀ r ∈ rows, r < n

/-- The positions of a selection are among the first `n`, and a mask has `n` flags. -/
structure Selection.InRange (s : Selection) (n : Nat) : Prop where
  lt : ∀ p ∈ s.positions, p < n
  length_eq : ∀ flags, s = .mask flags → flags.length = n

/-! ## Rows that were checked -/

theorem checkRow_eq_ok {p : Int} {size r : Nat} : checkRow p size = .ok r ↔ p = r ∧ r < size := by
  unfold checkRow
  split
  · rw [Except.ok.injEq]; omega
  · simp only [reduceCtorEq, false_iff]; omega

theorem checkRow_lt {p : Int} {size r : Nat} (h : checkRow p size = .ok r) : r < size := (checkRow_eq_ok.mp h).2

theorem lt_of_mem_movedHits {hits : List Nat} {shift : Int64} {size r : Nat} (h : r ∈ movedHits hits shift size) :
    r < size := by
  obtain ⟨p, -, hp⟩ := List.mem_filterMap.mp h
  cases hc : checkRow p size with
  | error e => rw [hc] at hp; cases hp
  | ok r' =>
    rw [hc] at hp
    cases hp
    exact checkRow_lt hc

theorem entryIndex_lt {k : Int64} {count i : Nat} (h : entryIndex k count = some i) : i < count := by
  simp only [entryIndex, Option.ite_none_right_eq_some, Option.some.injEq] at h
  omega

theorem exactRow_lt {d : Directory} {a : Address} {size r : Nat} (h : exactRow d a size = .ok r) : r < size := by
  obtain ⟨p, -, hp⟩ := bind_eq_ok.mp h
  exact checkRow_lt hp

theorem fitBound_lt {overrun : Overrun} {p : Int} {size r : Nat} (h : fitBound overrun p size = .ok r) : r < size := by
  cases overrun with
  | fail => exact checkRow_lt h
  | clamp =>
    simp only [fitBound] at h
    split at h
    · cases h
    · cases h; omega

theorem rangeBound_lt [Externals] {src : Source} {w : Window} {text : String} {r : Nat}
    (h : rangeBound src w text = .ok r) :
    r < w.size src := by
  obtain ⟨d, -, h⟩ := bind_eq_ok.mp h
  obtain ⟨p, -, h⟩ := bind_eq_ok.mp h
  exact fitBound_lt h

/-- The row a name range starts at is there unless no row is. -/
theorem rangeStart_lt [Externals] {src : Source} {w : Window} {start : Option String} {r : Nat}
    (h : rangeStart src w start = .ok r) (hne : w.size src ≠ 0) : r < w.size src := by
  cases start with
  | none => cases h; omega
  | some text => exact rangeBound_lt h

theorem lt_of_mem_between {a b n r : Nat} (ha : a < n) (hb : b < n) (h : r ∈ between a b) : r < n := by
  simp only [between, List.mem_range'_1] at h
  omega

theorem lt_of_mem_flagged {flags : List Bool} {p : Nat} (h : p ∈ flagged flags) : p < flags.length := by
  simp only [flagged, List.mem_filterMap] at h
  obtain ⟨⟨b, i⟩, hm, hb⟩ := h
  have hi := List.snd_lt_of_mem_zipIdx hm
  cases b <;> simp_all

/-! ## Windows -/

section Windows

variable {src : Source} {w : Window}

theorem absolute_lt (hw : w.InRange src.rowCount) {r : Nat} (h : r < w.size src) : w.absolute r < src.rowCount := by
  obtain ⟨rows⟩ := w
  cases rows with
  | none => exact h
  | some rows =>
    have h' : r < rows.length := h
    simpa [Window.absolute, h'] using hw rows rfl rows[r] (List.getElem_mem h')

/-- The rows of the window, one after another. -/
theorem map_absolute_range (w : Window) (src : Source) : (List.range (w.size src)).map w.absolute = w.all src := by
  obtain ⟨rows⟩ := w
  cases rows with
  | none => exact List.map_id _
  | some rows =>
    show (List.range rows.length).map (fun i => rows[i]?.getD 0) = rows
    refine List.ext_getElem (by simp) fun i _ hi => ?_
    simp [hi]

theorem lt_of_mem_all (hw : w.InRange src.rowCount) {r : Nat} (h : r ∈ w.all src) : r < src.rowCount := by
  obtain ⟨rows⟩ := w
  cases rows with
  | none => exact List.mem_range.mp h
  | some rows => exact hw rows rfl r h

/-- The window of all rows is in range. -/
theorem inRange_whole (n : Nat) : Window.InRange {} n := fun _ h => by cases h

/-- Rows of the window give a selection in range. -/
theorem inRange_single (hw : w.InRange src.rowCount) {r : Nat} (h : r < w.size src) :
    (Selection.single (w.absolute r)).InRange src.rowCount where
  lt p hp := by rw [List.mem_singleton.mp hp]; exact absolute_lt hw h
  length_eq _ h := by cases h

theorem inRange_rows {n : Nat} {ps : List Nat} (h : ∀ p ∈ ps, p < n) : (Selection.rows ps).InRange n where
  lt := h
  length_eq _ h := by cases h

theorem inRange_rows_map (hw : w.InRange src.rowCount) {rows : List Nat} (h : ∀ r ∈ rows, r < w.size src) :
    (Selection.rows (rows.map w.absolute)).InRange src.rowCount :=
  inRange_rows fun p hp => by
    obtain ⟨r, hr, rfl⟩ := List.mem_map.mp hp
    exact absolute_lt hw (h r hr)

theorem inRange_mask {n : Nat} {flags : List Bool} (h : flags.length = n) : (Selection.mask flags).InRange n where
  lt p hp := h ▸ lt_of_mem_flagged hp
  length_eq _ h' := by cases h'; exact h

theorem Selection.InRange.window {s : Selection} {n : Nat} (h : s.InRange n) : Window.InRange ⟨some s.positions⟩ n := by
  intro rows hr
  cases hr
  exact h.lt

end Windows

/-! ## Selectors of each sort -/

section Selectors

variable {src : Source} {w : Window} {s : Selection}

theorem resolvePattern_inRange [Externals] (hw : w.InRange src.rowCount) {d : Directory} {a : Address}
    (h : resolvePattern w d a (w.size src) = .ok s) : s.InRange src.rowCount := by
  obtain ⟨hits, -, h⟩ := bind_eq_ok.mp h
  cases hk : a.occurrence with
  | none =>
    rw [hk] at h
    cases h
    exact inRange_rows_map hw fun r hr => lt_of_mem_movedHits hr
  | some k =>
    rw [hk] at h
    simp only at h
    split at h
    · cases h; exact inRange_rows fun p hp => absurd hp List.not_mem_nil
    · obtain ⟨hit, -, h⟩ := bind_eq_ok.mp h
      obtain ⟨r, hr, h⟩ := bind_eq_ok.mp h
      cases h
      exact inRange_single hw (checkRow_lt hr)

theorem resolveName_inRange [Externals] (hw : w.InRange src.rowCount) {strict : Bool} {text : String}
    (h : resolveName src w strict text = .ok s) : s.InRange src.rowCount := by
  have hnil : (Selection.rows []).InRange src.rowCount := inRange_rows fun p hp => absurd hp List.not_mem_nil
  obtain ⟨d, -, h⟩ := bind_eq_ok.mp h
  cases hm : naming d text with
  | row a =>
    rw [hm] at h
    obtain ⟨r, hr, h⟩ := bind_eq_ok.mp h
    cases h
    exact inRange_single hw (exactRow_lt hr)
  | pattern a =>
    rw [hm] at h
    exact resolvePattern_inRange hw h
  | unreadable e =>
    rw [hm] at h
    cases strict <;> cases h
    exact hnil
  | nothing =>
    rw [hm] at h
    cases strict <;> cases h
    exact hnil

theorem resolveNames_lt [Externals] (hw : w.InRange src.rowCount) : ∀ {texts : List String} {rows : List Nat},
    resolveNames src w texts = .ok rows → ∀ r ∈ rows, r < src.rowCount
  | [], _, h => by cases h; intro r hr; cases hr
  | text :: texts, _, h => by
    obtain ⟨s, hs, h⟩ := bind_eq_ok.mp h
    obtain ⟨rest, hrest, h⟩ := bind_eq_ok.mp h
    cases h
    intro r hr
    rcases List.mem_append.mp hr with hr | hr
    · exact (resolveName_inRange hw hs).lt r hr
    · exact resolveNames_lt hw hrest r hr

theorem resolveNameRange_inRange [Externals] (hw : w.InRange src.rowCount) {start stop : Option String}
    (h : resolveNameRange src w start stop = .ok s) : s.InRange src.rowCount := by
  obtain ⟨lo, hlo, h⟩ := bind_eq_ok.mp h
  cases stop with
  | some text =>
    obtain ⟨hi, hhi, h⟩ := bind_eq_ok.mp h
    cases h
    have hhi' := rangeBound_lt hhi
    exact inRange_rows_map hw fun r hr => lt_of_mem_between (rangeStart_lt hlo (by omega)) hhi' hr
  | none =>
    simp only at h
    split at h
    · cases h; exact inRange_rows fun p hp => absurd hp List.not_mem_nil
    · rename_i hne
      cases h
      exact inRange_rows_map hw fun r hr => lt_of_mem_between (rangeStart_lt hlo hne) (by omega) hr

theorem resolveValueRange_inRange (hw : w.InRange src.rowCount) {name : String} {low high : Option Cell}
    (h : resolveValueRange src w name low high = .ok s) : s.InRange src.rowCount := by
  unfold resolveValueRange at h
  split at h
  · cases h
  · obtain ⟨_, -, h⟩ := bind_eq_ok.mp h
    obtain ⟨_, -, h⟩ := bind_eq_ok.mp h
    cases h
    exact inRange_rows fun p hp => lt_of_mem_all hw (List.mem_filter.mp hp).1

theorem resolveMask_inRange (hw : w.InRange src.rowCount) {flags : List Bool}
    (h : resolveMask src w flags = .ok s) : s.InRange src.rowCount := by
  unfold resolveMask at h
  split at h
  · rename_i hlen
    split at h
    · rename_i hnone
      cases h
      exact inRange_mask (by rw [hlen, Window.size, hnone])
    · cases h
      exact inRange_rows_map hw fun r hr => hlen ▸ lt_of_mem_flagged hr
  · split at h
    · cases h
      exact inRange_rows fun p hp => lt_of_mem_all hw (List.mem_filter.mp hp).1
    · cases h

theorem resolveIndex_lt (hw : w.InRange src.rowCount) {i : Int64} {r : Nat} (h : resolveIndex src w i = .ok r) :
    r < src.rowCount := by
  unfold resolveIndex at h
  split at h
  · rename_i hi; cases h; exact absolute_lt hw (entryIndex_lt hi)
  · cases h

end Selectors

/-! ## All selectors -/

variable [Externals]

mutual

/-- What a selector means in a window in range is in range. -/
theorem resolve_inRange {src : Source} {strict : Bool} : ∀ (sel : Selector) {w : Window} {s : Selection},
    w.InRange src.rowCount → resolve src strict w sel = .ok s → s.InRange src.rowCount
  | .all, w, s, hw, h => by
    cases h
    exact inRange_rows fun p hp => lt_of_mem_all hw hp
  | .index i, w, s, hw, h => by
    obtain ⟨r, hr, rfl⟩ := map_eq_ok.mp h
    exact { lt := fun p hp => by rw [List.mem_singleton.mp hp]; exact resolveIndex_lt hw hr
            length_eq := fun _ h => by cases h }
  | .name text, w, s, hw, h => resolveName_inRange hw h
  | .address a, w, s, hw, h => by
    obtain ⟨d, -, h⟩ := bind_eq_ok.mp h
    obtain ⟨r, hr, h⟩ := bind_eq_ok.mp h
    cases h
    exact inRange_single hw (exactRow_lt hr)
  | .slice start stop step, w, s, hw, h => by
    obtain ⟨rows, hr, h⟩ := bind_eq_ok.mp h
    cases h
    exact inRange_rows_map hw (slice_lt hr)
  | .nameRange start stop, w, s, hw, h => resolveNameRange_inRange hw h
  | .valueRange name low high, w, s, hw, h => resolveValueRange_inRange hw h
  | .indices is, w, s, hw, h => by
    obtain ⟨rows, hr, rfl⟩ := map_eq_ok.mp h
    refine inRange_rows fun p hp => ?_
    obtain ⟨i, -, hi⟩ := mem_of_mapM_eq_ok hr p hp
    exact resolveIndex_lt hw hi
  | .names texts, w, s, hw, h => by
    obtain ⟨rows, hr, rfl⟩ := map_eq_ok.mp h
    exact inRange_rows (resolveNames_lt hw hr)
  | .mask flags, w, s, hw, h => resolveMask_inRange hw h
  | .chain stages, w, s, hw, h => resolveStages_inRange stages hw h

/-- What the stages of a chain mean in a window in range is in range. -/
theorem resolveStages_inRange {src : Source} {strict : Bool} : ∀ (stages : List Selector) {w : Window} {s : Selection},
    w.InRange src.rowCount → resolveStages src strict w stages = .ok s → s.InRange src.rowCount
  | [], w, s, hw, h => by
    cases h
    exact inRange_rows fun p hp => lt_of_mem_all hw hp
  | [stage], w, s, hw, h => resolve_inRange stage hw h
  | stage :: next :: stages, w, s, hw, h => by
    obtain ⟨s', hs, h⟩ := bind_eq_ok.mp h
    exact resolveStages_inRange (next :: stages) (resolve_inRange stage hw hs).window h

end

/-- What a selector means in the whole source is in range. -/
theorem select_inRange {src : Source} {sel : Selector} {strict : Bool} {s : Selection}
    (h : src.select sel strict = .ok s) : s.InRange src.rowCount :=
  resolve_inRange sel (inRange_whole _) h

end NamedRows
