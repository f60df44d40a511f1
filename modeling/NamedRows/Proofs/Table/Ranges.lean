import Mathlib.Data.List.Sort
import NamedRows.Proofs.Table.Named
import NamedRows.Externals.Standard

/-!
# Ranges between names

An end of a name range is one row (`rangeBound`), and it is the row that the same text selects on its own, wherever it
selects one (`rangeBound_of_single`). A range is all rows between its two ends (`interval`), whichever of them comes
first, and it fails only if one of its ends does (`Table.nameRange_interval`).

Where ends are clamped, an end that lies outside the table moves to the nearest row. For an end given by an address that
holds if 64 bits can hold the sum of its row and its shift (`Table.nameRange_clamped`); a greater sum is an error before
it could be clamped (`Table.nameRange_clamped_beyond`).
-/

namespace NamedRows

/-- The rows from `low` to `high`, both included, among `size` rows. -/
def interval (size : Nat) (low high : Int) : List Nat := (List.range size).filter fun row => low ≤ row ∧ row ≤ high

theorem mem_interval {size row : Nat} {low high : Int} :
    row ∈ interval size low high ↔ row < size ∧ low ≤ row ∧ row ≤ high := by
  rw [interval, List.mem_filter, List.mem_range, decide_eq_true_eq]

theorem pairwise_interval (size : Nat) (low high : Int) : (interval size low high).Pairwise (· < ·) :=
  List.pairwise_lt_range.filter _

/-- Rows in ascending order are an interval if they are the rows between its ends. -/
theorem eq_interval {size : Nat} {low high : Int} {rows : List Nat} (hrows : rows.Pairwise (· < ·))
    (hmem : ∀ row, row ∈ rows ↔ row < size ∧ low ≤ row ∧ row ≤ high) : rows = interval size low high :=
  hrows.eq_of_mem_iff (pairwise_interval size low high) fun row => (hmem row).trans mem_interval.symm

/-- The rows between two rows of a table, whichever comes first. -/
theorem between_eq_interval {size a b : Nat} (ha : a < size) (hb : b < size) :
    between a b = interval size (min a b) (max a b) := by
  refine eq_interval List.pairwise_lt_range' fun row => ?_
  simp only [between, List.mem_range'_1]
  omega

/-- From a row to itself is only this row. -/
theorem interval_self {size row : Nat} (h : row < size) : interval size row row = [row] :=
  (eq_interval (List.pairwise_singleton _ _) fun other => by rw [List.mem_singleton]; omega).symm

/-- A text is read as an address whose name occurs: as itself if it is a name, else as what its clauses say. -/
def ReadAs (names : List String) (text : String) (a : Address) : Prop :=
  text ∈ names ∧ a = { name := text } ∨ text ∉ names ∧ Address.parse text = .ok a ∧ a.name ∈ names

/-! ## Ends -/

section Ends

variable {src : Source}

theorem naming_of_readAs {d : Directory} {names : List String} (h : d.Lists names) {text : String} {a : Address}
    (hread : ReadAs names text a) : naming d text = .row a := by
  rcases hread with ⟨hm, rfl⟩ | ⟨hm, hparse, hname⟩
  · unfold naming
    rw [if_pos (h.contains_iff.mpr hm)]
  · exact naming_address h hm hparse hname

/-- A position that is a row stays where it is, whatever the policy. -/
theorem fitBound_of_checkRow {p : Int} {size r : Nat} (h : checkRow p size = .ok r) (overrun : Overrun) :
    fitBound overrun p size = .ok r := by
  cases overrun with
  | fail => exact h
  | clamp =>
    obtain ⟨hp, hr⟩ := checkRow_eq_ok.mp h
    have hne : size ≠ 0 := by omega
    have hfit : (max 0 (min p (size - 1))).toNat = r := by omega
    simp only [fitBound, if_neg hne, hfit]

/-- A text that selects one row is that row as an end of a range. The two are found in the same way: by a name, by the
name of an address, or by the one hit of a pattern that an occurrence picks. -/
theorem rangeBound_of_single [Externals] {strict : Bool} {text : String} {r : Nat}
    (h : resolveName src {} strict text = .ok (.single r)) : rangeBound src {} text = .ok r := by
  obtain ⟨d, hd, h⟩ := bind_eq_ok.mp h
  unfold rangeBound boundPosition
  rw [hd, ok_bind]
  cases hm : naming d text with
  | row a =>
    rw [hm] at h
    obtain ⟨row, hrow, h⟩ := bind_eq_ok.mp h
    cases h
    obtain ⟨p, hp, hcheck⟩ := bind_eq_ok.mp hrow
    simp only [hp, ok_bind]
    exact fitBound_of_checkRow hcheck src.overrun
  | pattern a =>
    rw [hm] at h
    obtain ⟨hits, hhits, h⟩ := bind_eq_ok.mp h
    simp only [hhits, ok_bind]
    cases hk : a.occurrence with
    | none => rw [hk] at h; cases h
    | some k =>
      rw [hk] at h
      simp only at h
      split at h
      · cases h
      · rename_i hne
        obtain ⟨hit, hhit, h⟩ := bind_eq_ok.mp h
        obtain ⟨row, hcheck, h⟩ := bind_eq_ok.mp h
        cases h
        simp only [if_neg hne, Option.getD_some, hhit, ok_bind]
        exact fitBound_of_checkRow hcheck src.overrun
  | unreadable e => rw [hm] at h; cases strict <;> cases h
  | nothing => rw [hm] at h; cases strict <;> cases h

end Ends

namespace Table

variable {t : Table Column} {strict : Bool}

/-! ## Ranges -/

/-- A range with two ends. -/
theorem select_nameRange [Externals] (a b : String) :
    t.source.select (.nameRange (some a) (some b)) strict =
      rangeBound t.source {} a >>= fun ra => rangeBound t.source {} b >>= fun rb =>
        .ok (.rows (interval t.rowCount (min ra rb) (max ra rb))) := by
  refine bind_congr_ok (x := rangeBound t.source {} a) fun ra ha => ?_
  refine bind_congr_ok (x := rangeBound t.source {} b) fun rb hb => ?_
  show Except.ok (Selection.rows ((between ra rb).map id)) = _
  rw [List.map_id, between_eq_interval (rangeBound_lt ha) (rangeBound_lt hb)]
  rfl

/-- A range without a stop. -/
theorem select_nameRange_from [Externals] (a : String) :
    t.source.select (.nameRange (some a) none) strict =
      rangeBound t.source {} a >>= fun ra => .ok (.rows (interval t.rowCount ra (t.rowCount - 1))) := by
  refine bind_congr_ok (x := rangeBound t.source {} a) fun ra ha => ?_
  have hlt : ra < t.rowCount := rangeBound_lt ha
  have hne : t.rowCount ≠ 0 := by omega
  show (if t.rowCount = 0 then Except.ok (Selection.rows []) else
    .ok (.rows ((between ra (t.rowCount - 1)).map id))) = _
  have hlast : t.rowCount - 1 < t.rowCount := by omega
  have hlow : min (ra : Int) (t.rowCount - 1 : Nat) = ra := by omega
  have hhigh : max (ra : Int) (t.rowCount - 1 : Nat) = t.rowCount - 1 := by omega
  rw [if_neg hne, List.map_id, between_eq_interval hlt hlast, hlow, hhigh]

/-- A range without a start. -/
theorem select_nameRange_to [Externals] (b : String) :
    t.source.select (.nameRange none (some b)) strict =
      rangeBound t.source {} b >>= fun rb => .ok (.rows (interval t.rowCount 0 rb)) := by
  refine bind_congr_ok (x := rangeBound t.source {} b) fun rb hb => ?_
  have hlt : rb < t.rowCount := rangeBound_lt hb
  show Except.ok (Selection.rows ((between 0 rb).map id)) = _
  have hfirst : 0 < t.rowCount := by omega
  have hlow : min ((0 : Nat) : Int) rb = 0 := by omega
  have hhigh : max ((0 : Nat) : Int) rb = rb := by omega
  rw [List.map_id, between_eq_interval hfirst hlt, hlow, hhigh]

/-- A range from a text to itself is the one row that the text is as an end. -/
theorem select_nameRange_self [Externals] {a : String} {s : Selection} :
    t.source.select (.nameRange (some a) (some a)) strict = .ok s ↔
      ∃ ra, rangeBound t.source {} a = .ok ra ∧ s = .rows [ra] := by
  have hself : ∀ ra, rangeBound t.source {} a = .ok ra → interval t.rowCount (min ra ra) (max ra ra) = [ra] := by
    intro ra ha
    have hlt : ra < t.rowCount := rangeBound_lt ha
    rw [min_self, max_self, interval_self hlt]
  rw [select_nameRange]
  constructor
  · intro h
    obtain ⟨ra, ha, h⟩ := bind_eq_ok.mp h
    rw [ha, ok_bind, hself ra ha] at h
    cases h
    exact ⟨ra, ha, rfl⟩
  · rintro ⟨ra, ha, rfl⟩
    rw [ha, ok_bind, ok_bind, hself ra ha]

/-- The end that a text is, read off the range from the text to itself. -/
theorem rangeBound_eq_ok [Externals] {a : String} {ra : Nat} :
    rangeBound t.source {} a = .ok ra ↔
      t.source.select (.nameRange (some a) (some a)) strict = .ok (.rows [ra]) := by
  rw [select_nameRange_self]
  constructor
  · intro ha
    exact ⟨ra, ha, rfl⟩
  · rintro ⟨ra', ha, hrows⟩
    cases hrows
    exact ha

/-- A range between two texts succeeds if each of them is an end, that is, if the range from it to itself is one row.
Then it is all rows between these two, ascending, in either order of the texts; without a stop it runs to the last row,
and without a start from the first one. A text that selects one row, where names have to mean something or not, is this
row as an end. -/
theorem nameRange_interval [Externals] (t : Table Column) (a b : String) (strict : Bool) :
    ((∃ s, t.source.select (.nameRange (some a) (some b)) strict = .ok s) ↔
      (∃ s, t.source.select (.nameRange (some a) (some a)) strict = .ok s) ∧
        ∃ s, t.source.select (.nameRange (some b) (some b)) strict = .ok s) ∧
    (∀ s, t.source.select (.nameRange (some a) (some a)) strict = .ok s → ∃ ra < t.rowCount, s = .rows [ra]) ∧
    (∀ ra rb : Nat, t.source.select (.nameRange (some a) (some a)) strict = .ok (.rows [ra]) →
      t.source.select (.nameRange (some b) (some b)) strict = .ok (.rows [rb]) →
        t.source.select (.nameRange (some a) (some b)) strict =
            .ok (.rows (interval t.rowCount (min ra rb) (max ra rb))) ∧
          t.source.select (.nameRange (some b) (some a)) strict =
            .ok (.rows (interval t.rowCount (min ra rb) (max ra rb)))) ∧
    (∀ ra : Nat, t.source.select (.nameRange (some a) (some a)) strict = .ok (.rows [ra]) →
      t.source.select (.nameRange (some a) none) strict = .ok (.rows (interval t.rowCount ra (t.rowCount - 1))) ∧
        t.source.select (.nameRange none (some a)) strict = .ok (.rows (interval t.rowCount 0 ra))) ∧
    ∀ naming r, t.source.select (.name a) naming = .ok (.single r) →
      t.source.select (.nameRange (some a) (some a)) strict = .ok (.rows [r]) := by
  refine ⟨⟨?_, ?_⟩, fun s hs => ?_, fun ra rb ha hb => ?_, fun ra ha => ?_, fun naming r hr => ?_⟩
  · rintro ⟨s, hs⟩
    rw [select_nameRange] at hs
    obtain ⟨ra, ha, hs⟩ := bind_eq_ok.mp hs
    obtain ⟨rb, hb, -⟩ := bind_eq_ok.mp hs
    exact ⟨⟨_, rangeBound_eq_ok.mp ha⟩, ⟨_, rangeBound_eq_ok.mp hb⟩⟩
  · rintro ⟨⟨sa, ha⟩, ⟨sb, hb⟩⟩
    obtain ⟨ra, ha, -⟩ := select_nameRange_self.mp ha
    obtain ⟨rb, hb, -⟩ := select_nameRange_self.mp hb
    rw [select_nameRange, ha, hb]
    exact ⟨_, rfl⟩
  · obtain ⟨ra, ha, rfl⟩ := select_nameRange_self.mp hs
    exact ⟨ra, rangeBound_lt ha, rfl⟩
  · have ha' := rangeBound_eq_ok.mpr ha
    have hb' := rangeBound_eq_ok.mpr hb
    rw [select_nameRange, select_nameRange, ha', hb', ok_bind, ok_bind, ok_bind, ok_bind, min_comm (rb : Int),
      max_comm (rb : Int)]
    exact ⟨rfl, rfl⟩
  · have ha' := rangeBound_eq_ok.mpr ha
    rw [select_nameRange_from, select_nameRange_to, ha']
    exact ⟨rfl, rfl⟩
  · exact rangeBound_eq_ok.mp (rangeBound_of_single hr)

/-- From the row after `ip1` to an end that is moved to the last row, in either order. -/
theorem nameRange_interval_lattice :
    lattice.select (.nameRange (some "ip1>>1") (some "ip1>>1")) = .ok (.rows [1]) ∧
      lattice.select (.nameRange (some "ip3>>7") (some "ip3>>7")) = .ok (.rows [4]) ∧
      lattice.select (.nameRange (some "ip1>>1") (some "ip3>>7")) = .ok (.rows [1, 2, 3, 4]) ∧
      lattice.select (.nameRange (some "ip3>>7") (some "ip1>>1")) = .ok (.rows [1, 2, 3, 4]) ∧
      lattice.select (.nameRange none (some "ip1>>1")) = .ok (.rows [0, 1]) := by
  have hb : lattice.select (.nameRange (some "ip3>>7") (some "ip3>>7")) = .ok (.rows [4]) := rfl
  obtain ⟨-, -, hboth, hone, hend⟩ := nameRange_interval lattice "ip1>>1" "ip3>>7" true
  have ha : lattice.select (.nameRange (some "ip1>>1") (some "ip1>>1")) = .ok (.rows [1]) := hend true 1 rfl
  obtain ⟨hforth, hback⟩ := hboth 1 4 ha hb
  exact ⟨ha, hb, hforth, hback, (hone 1 ha).2⟩

/-! ## Clamped ends -/

/-- An end given by an address is fitted to the rows after its shift is added, if 64 bits hold the sum. -/
theorem rangeBound_clamped [Externals] (h : t.WellFormed) {c : Column} (hc : t.column? t.config.key = some c)
    (hclamp : t.config.overrun = .clamp) {text : String} {a : Address} (hread : ReadAs c.labels.toList text a)
    {row : Nat} (hrow : IsOccurrence c.labels.toList a.name (a.occurrence.getD 0).toInt row) :
    rangeBound t.source {} text =
      if (row : Int) + a.shift.toInt ≤ Int64.maxValue.toInt then
        .ok (max 0 (min (t.rowCount - 1 : Int) (row + a.shift.toInt))).toNat
      else .error (.outOfRange a.shift.toInt (.shiftFrom a.name)) := by
  obtain ⟨d, hd, hlists⟩ := exists_directory h hc
  have hlength := h.length_labels hc
  have hlt : row < t.rowCount := hlength ▸ (List.getElem?_eq_some_iff.mp hrow.named).1
  have hne : t.rowCount ≠ 0 := by omega
  -- a row is not negative, so the sum cannot be too small
  have hrange : Text.Numeral.inRange (row + a.shift.toInt) ↔ (row : Int) + a.shift.toInt ≤ Int64.maxValue.toInt :=
    ⟨fun hr => hr.2, fun hr => inRange_of_le a.shift (by omega) hr⟩
  have hposition : boundPosition t.source d text =
      if (row : Int) + a.shift.toInt ≤ Int64.maxValue.toInt then .ok (row + a.shift.toInt)
      else .error (.outOfRange a.shift.toInt (.shiftFrom a.name)) := by
    unfold boundPosition
    rw [naming_of_readAs hlists hread]
    simp only [position_of_row (hlists.row_eq_ok.mpr hrow), hrange]
  show (t.directory >>= fun d => boundPosition t.source d text >>= fun p => fitBound t.config.overrun p t.rowCount) = _
  rw [hd, ok_bind, hposition, hclamp]
  by_cases hmax : (row : Int) + a.shift.toInt ≤ Int64.maxValue.toInt
  · rw [if_pos hmax, if_pos hmax, ok_bind]
    simp only [fitBound, if_neg hne, min_comm]
  · rw [if_neg hmax, if_neg hmax]
    rfl

/-- Where ends are clamped, the range from an address on starts at the row that its shift leads to, moved to the first
or the last row if that lies outside. So it is for every shift whose sum with the named row is one of 64 bits. If the
sum is greater, the shift is out of range. -/
theorem nameRange_clamped [Externals] (h : Reachable t) {c : Column} (hc : t.column? t.config.key = some c)
    (hclamp : t.config.overrun = .clamp) {text : String} {a : Address} (hread : ReadAs c.labels.toList text a)
    {row : Nat} (hrow : IsOccurrence c.labels.toList a.name (a.occurrence.getD 0).toInt row) (strict : Bool) :
    ((row : Int) + a.shift.toInt ≤ Int64.maxValue.toInt →
      t.source.select (.nameRange (some text) none) strict =
        .ok (.rows (interval t.rowCount (max 0 (min (t.rowCount - 1) (row + a.shift.toInt))) (t.rowCount - 1)))) ∧
    (Int64.maxValue.toInt < (row : Int) + a.shift.toInt →
      t.source.select (.nameRange (some text) none) strict =
        .error (.outOfRange a.shift.toInt (.shiftFrom a.name))) := by
  have hbound := rangeBound_clamped h.wellFormed hc hclamp hread hrow
  rw [select_nameRange_from, hbound]
  refine ⟨fun hmax => ?_, fun hmax => ?_⟩
  · have hnonneg : 0 ≤ max 0 (min (t.rowCount - 1 : Int) (row + a.shift.toInt)) := by omega
    rw [if_pos hmax, ok_bind, Int.toNat_of_nonneg hnonneg]
  · rw [if_neg (by omega), error_bind]

/-- As far before the last `ip2` as 64 bits count is the first row, and as far after the first row is the last one. -/
theorem nameRange_clamped_lattice :
    lattice.config.overrun = .clamp ∧
      ReadAs ["ip1", "ip2", "ip2", "ip3", "tab$end"] "ip2::-1>>-9223372036854775808"
        ⟨"ip2", some (-1), Int64.minValue⟩ ∧
      IsOccurrence ["ip1", "ip2", "ip2", "ip3", "tab$end"] "ip2" (-1) 2 ∧
      lattice.select (.nameRange (some "ip2::-1>>-9223372036854775808") none) = .ok (.rows [0, 1, 2, 3, 4]) ∧
      lattice.select (.nameRange (some "ip1>>9223372036854775807") none) = .ok (.rows [4]) := by
  have hc : lattice.column? lattice.config.key = some (.text #["ip1", "ip2", "ip2", "ip3", "tab$end"]) := rfl
  have hleast : ReadAs ["ip1", "ip2", "ip2", "ip3", "tab$end"] "ip2::-1>>-9223372036854775808"
      ⟨"ip2", some (-1), Int64.minValue⟩ := Or.inr ⟨by decide, rfl, by decide⟩
  have hmost : ReadAs ["ip1", "ip2", "ip2", "ip3", "tab$end"] "ip1>>9223372036854775807"
      ⟨"ip1", none, Int64.maxValue⟩ := Or.inr ⟨by decide, rfl, by decide⟩
  have hlast : IsOccurrence ["ip1", "ip2", "ip2", "ip3", "tab$end"] "ip2" (-1) 2 := ⟨rfl, by decide⟩
  have hfirst : IsOccurrence ["ip1", "ip2", "ip2", "ip3", "tab$end"] "ip1" 0 0 := ⟨rfl, by decide⟩
  exact ⟨rfl, hleast, hlast, (nameRange_clamped lattice_reachable hc rfl hleast hlast true).1 (by decide),
    (nameRange_clamped lattice_reachable hc rfl hmost hfirst true).1 (by decide)⟩

/-- One row further on, the same shift is an error, although the row that it leads to would be moved to the last one. -/
theorem nameRange_clamped_beyond :
    Reachable lattice ∧ lattice.config.overrun = .clamp ∧
      ReadAs ["ip1", "ip2", "ip2", "ip3", "tab$end"] "ip2>>9223372036854775807" ⟨"ip2", none, Int64.maxValue⟩ ∧
      IsOccurrence ["ip1", "ip2", "ip2", "ip3", "tab$end"] "ip2" 0 1 ∧
      interval 5 (max 0 (min (5 - 1) (1 + Int64.maxValue.toInt))) (5 - 1) = [4] ∧
      lattice.select (.nameRange (some "ip2>>9223372036854775807") none) =
        .error (.outOfRange 9223372036854775807 (.shiftFrom "ip2")) :=
  ⟨lattice_reachable, rfl, Or.inr ⟨by decide, rfl, by decide⟩, ⟨rfl, by decide⟩, by decide, rfl⟩

end Table

end NamedRows
