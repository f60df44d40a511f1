import Mathlib
import NamedRows.Proofs.Row.Guarded
import NamedRows.Proofs.Table.Named
import NamedRows.Externals.Standard

/-!
# Rows by patterns

What a pattern selects is what a scan of all rows selects, one row after another (`Table.select_pattern`). The directory
is asked name by name, and the rows of the names that match are sorted afterwards; since each row has one name, these
are the rows whose names match (`patternRows_eq`). Hits move by exact sums: a sum that saturates is no row either way
(`checkRow_saturate`). What patterns there are does not matter to any of this: whatever comes from outside (`Externals`),
a compiled pattern is a property of names.
-/

namespace NamedRows

/-- The rows whose names have a property, ascending. -/
def rowsWhere (hit : String → Bool) (names : List String) : List Nat :=
  (List.range names.length).filter fun row => names[row]?.any hit

/-- The row that is `shift` rows after another one, if it is one of `size` rows. -/
def rowAfter? (size : Nat) (shift : Int) (row : Nat) : Option Nat :=
  if 0 ≤ row + shift ∧ row + shift < size then some (row + shift).toNat else none

/-- The entry of a list at a position; negative ones count from the end, where -1 is the last one. -/
def entryAt? (rows : List Nat) (k : Int) : Option Nat :=
  if 0 ≤ k then rows[k.toNat]? else rows.reverse[(-1 - k).toNat]?

/-! ## Hits -/

section Hits

variable {d : Directory} {names : List String}

theorem nodup_rowsWhere (hit : String → Bool) (names : List String) : (rowsWhere hit names).Nodup :=
  List.nodup_range.sublist List.filter_sublist

theorem mem_rowsWhere {hit : String → Bool} {row : Nat} :
    row ∈ rowsWhere hit names ↔ ∃ name, names[row]? = some name ∧ hit name = true := by
  rw [rowsWhere, List.mem_filter, List.mem_range, Option.any_eq_true, and_iff_right_iff_imp]
  rintro ⟨name, hname, -⟩
  exact (List.getElem?_eq_some_iff.mp hname).1

/-- A row's name is listed in the directory. -/
theorem Directory.Lists.mem_names (h : d.Lists names) {row : Nat} {name : String} (hrow : names[row]? = some name) :
    name ∈ d.names.toList := by
  obtain ⟨slot, -, hslot⟩ := h.label_eq row name hrow
  exact List.mem_of_getElem? (Array.getElem?_toList.trans hslot)

/-- Collecting the rows of all names that have a property, and sorting them, is scanning row by row. -/
theorem mergeSort_occurrences (h : d.Lists names) (hit : String → Bool) :
    ((d.names.toList.filter hit).flatMap fun name => (d.occurrences name).toList).mergeSort = rowsWhere hit names := by
  have hnodup := h.nodup_flatMap (h.nodup_names.sublist (List.filter_sublist (p := hit)))
  have hperm : ((d.names.toList.filter hit).flatMap fun name => (d.occurrences name).toList).Perm
      (rowsWhere hit names) := by
    rw [List.perm_ext_iff_of_nodup hnodup (nodup_rowsWhere hit names)]
    intro row
    simp only [List.mem_flatMap, List.mem_filter, h.occurrences_eq, mem_rowsNamed, mem_rowsWhere]
    constructor
    · rintro ⟨name, ⟨-, hhit⟩, hrow⟩
      exact ⟨name, hrow, hhit⟩
    · rintro ⟨name, hrow, hhit⟩
      exact ⟨name, ⟨h.mem_names hrow, hhit⟩, hrow⟩
  have hsorted : ((d.names.toList.filter hit).flatMap fun name => (d.occurrences name).toList).mergeSort.Pairwise
      fun a b => decide (a ≤ b) = true :=
    List.pairwise_mergeSort (fun a b c hab hbc => by simp only [decide_eq_true_eq] at *; omega)
      (fun a b => by simp only [Bool.or_eq_true, decide_eq_true_eq]; omega) _
  have hascending : (rowsWhere hit names).Pairwise fun a b => decide (a ≤ b) = true :=
    (List.pairwise_lt_range.filter _).imp fun hlt => decide_eq_true (Nat.le_of_lt hlt)
  refine List.Perm.eq_of_pairwise (fun a b _ _ hab hba => ?_) hsorted hascending
    ((List.mergeSort_perm _ _).trans hperm)
  simp only [decide_eq_true_eq] at hab hba
  omega

/-- The hits of a pattern are the rows whose names match. -/
theorem patternRows_eq [Externals] (h : d.Lists names) {pattern : String} {p : NamePattern}
    (hp : NamePattern.compile pattern = .ok p) : patternRows d pattern = .ok (rowsWhere p.hits names) := by
  unfold patternRows
  rw [hp, ok_bind]
  exact congrArg Except.ok (mergeSort_occurrences h p.hits)

end Hits

/-! ## Hits that are moved or picked -/

section Moved

variable {size : Nat}

/-- A sum that saturates is not a row, and neither is what it saturates to. -/
theorem checkRow_saturate (h : size ≤ maxRows) (row : Nat) (n : Int64) :
    checkRow (shiftHit row n) size =
      match rowAfter? size n.toInt row with
      | some moved => .ok moved
      | none => .error (.outOfRange (shiftHit row n) (.rows size)) := by
  have hmin : Int64.minValue.toInt < 0 := by decide
  have hmax := maxRows_eq
  have hsame : 0 ≤ shiftHit row n ∧ shiftHit row n < size → shiftHit row n = row + n.toInt := by
    unfold shiftHit saturate
    omega
  have hrange : (0 ≤ shiftHit row n ∧ shiftHit row n < size) ↔ 0 ≤ row + n.toInt ∧ row + n.toInt < size := by
    unfold shiftHit saturate
    omega
  unfold checkRow rowAfter?
  by_cases hrow : 0 ≤ row + n.toInt ∧ row + n.toInt < size
  · rw [if_pos (hrange.mpr hrow), if_pos hrow, hsame (hrange.mpr hrow)]
  · rw [if_neg fun hs => hrow (hrange.mp hs), if_neg hrow]

/-- Hits move by exact sums, as far as these are rows. -/
theorem movedHits_eq (h : size ≤ maxRows) (hits : List Nat) (shift : Int64) :
    movedHits hits shift size = hits.filterMap (rowAfter? size shift.toInt) := by
  unfold movedHits
  rw [List.filterMap_map]
  congr 1
  funext hit
  rw [Function.comp_apply, checkRow_saturate h]
  cases rowAfter? size shift.toInt hit <;> rfl

/-- An index among some entries means the entry at its position, from either end. -/
theorem entryIndex_bind (hits : List Nat) (k : Int64) :
    ((entryIndex k hits.length).bind fun i => hits[i]?) = entryAt? hits k.toInt := by
  refine Option.ext fun hit => ?_
  rw [Option.bind_eq_some_iff]
  simp only [Directory.entryIndex_eq_some]
  unfold entryAt?
  by_cases hk : 0 ≤ k.toInt
  · rw [if_pos hk]
    constructor
    · rintro ⟨i, ⟨hi, -⟩, hhit⟩
      rwa [show k.toInt.toNat = i by omega]
    · intro hhit
      have hlt := (List.getElem?_eq_some_iff.mp hhit).1
      exact ⟨k.toInt.toNat, ⟨by omega, hlt⟩, hhit⟩
  · rw [if_neg hk]
    constructor
    · rintro ⟨i, ⟨hi, hlt⟩, hhit⟩
      rw [List.getElem?_reverse (by omega)]
      rwa [show hits.length - 1 - (-1 - k.toInt).toNat = i by omega]
    · intro hhit
      have hlt := (List.getElem?_eq_some_iff.mp hhit).1
      rw [List.length_reverse] at hlt
      rw [List.getElem?_reverse hlt] at hhit
      exact ⟨hits.length - 1 - (-1 - k.toInt).toNat, ⟨by omega, by omega⟩, hhit⟩

theorem pickHit_eq (hits : List Nat) (k : Int64) (pattern : String) :
    pickHit hits k pattern =
      match entryAt? hits k.toInt with
      | some hit => .ok hit
      | none => .error (.outOfRange k.toInt (.hits pattern hits.length)) := by
  have hentry := entryIndex_bind hits k
  unfold pickHit
  cases hhit : entryAt? hits k.toInt with
  | none => simp only [hentry, hhit]
  | some hit => simp only [hentry, hhit]

end Moved

/-- A text is a pattern if neither it nor its name is a name that occurs. -/
theorem naming_pattern {d : Directory} {names : List String} (h : d.Lists names) {text : String} {a : Address}
    (htext : text ∉ names) (hparse : Address.parse text = .ok a) (hname : a.name ∉ names)
    (hpattern : isPattern a.name = true) : naming d text = .pattern a := by
  have htext' : ¬ d.contains text = true := fun hc => htext (h.contains_iff.mp hc)
  have hname' : ¬ d.contains a.name = true := fun hc => hname (h.contains_iff.mp hc)
  unfold naming
  rw [if_neg htext', hparse]
  simp only
  rw [if_neg hname', if_pos hpattern]

namespace Table

variable {t : Table Column}

/-- Selecting by a pattern is scanning the rows for names that match, whichever texts are patterns and whichever names
they match. Without an occurrence all hits are selected, moved by the shift as far as they stay in the table. An
occurrence selects the one hit that it counts, moved likewise, or no rows where nothing matches; else its index is out
of range. -/
theorem select_pattern [Externals] (h : Reachable t) {c : Column} (hc : t.column? t.config.key = some c)
    (hsize : t.rowCount ≤ maxRows) {text : String} {a : Address} {p : NamePattern} (htext : text ∉ c.labels)
    (hparse : Address.parse text = .ok a) (hname : a.name ∉ c.labels) (hpattern : isPattern a.name = true)
    (hcompile : NamePattern.compile a.name = .ok p) {hits : List Nat} (hhits : hits = rowsWhere p.hits c.labels.toList)
    (strict : Bool) :
    (a.occurrence = none → t.source.select (.name text) strict =
      .ok (.rows (hits.filterMap (rowAfter? t.rowCount a.shift.toInt)))) ∧
    ∀ k, a.occurrence = some k →
      (hits = [] → t.source.select (.name text) strict = .ok (.rows [])) ∧
      (∀ hit row, entryAt? hits k.toInt = some hit → rowAfter? t.rowCount a.shift.toInt hit = some row →
        t.source.select (.name text) strict = .ok (.single row)) ∧
      (hits ≠ [] → (entryAt? hits k.toInt).bind (rowAfter? t.rowCount a.shift.toInt) = none →
        ∃ index extent, t.source.select (.name text) strict = .error (.outOfRange index extent)) := by
  obtain ⟨d, hd, hlists⟩ := exists_directory h.wellFormed hc
  have hnaming : naming d text = .pattern a :=
    naming_pattern hlists (fun hm => htext (Array.mem_def.mpr hm)) hparse (fun hm => hname (Array.mem_def.mpr hm))
      hpattern
  have hselect : t.source.select (.name text) strict = resolvePattern {} d a t.rowCount := by
    show (t.directory >>= _) = _
    rw [hd, ok_bind, hnaming]
    rfl
  have hrows : patternRows d a.name = .ok hits := by rw [hhits, patternRows_eq hlists hcompile]
  rw [hselect]
  unfold resolvePattern
  rw [hrows, ok_bind]
  constructor
  · intro hnone
    rw [hnone]
    show Except.ok (Selection.rows ((movedHits hits a.shift t.rowCount).map id)) = _
    rw [List.map_id, movedHits_eq hsize]
  · intro k hk
    rw [hk]
    refine ⟨fun hnil => ?_, fun hit row hhit hrow => ?_, fun hne hout => ?_⟩
    · rw [hnil]
      rfl
    · have hne : hits ≠ [] := by
        rintro rfl
        simp [entryAt?] at hhit
      simp only [if_neg hne, pickHit_eq, hhit, ok_bind, checkRow_saturate hsize, hrow]
      rfl
    · simp only [if_neg hne, pickHit_eq]
      cases hhit : entryAt? hits k.toInt with
      | none => exact ⟨_, _, rfl⟩
      | some hit =>
        rw [hhit, Option.bind_some] at hout
        simp only [ok_bind, checkRow_saturate hsize, hout]
        exact ⟨_, _, rfl⟩

/-- Three rows have names that match `ip[23]`. One row further on are three rows; one row after the last hit is the last
row, and two rows after it there is none. -/
theorem select_pattern_lattice :
    ∃ p, NamePattern.compile "ip[23]" = .ok p ∧
      rowsWhere p.hits ["ip1", "ip2", "ip2", "ip3", "tab$end"] = [1, 2, 3] ∧
      lattice.select (.name "ip[23]>>1") = .ok (.rows [2, 3, 4]) ∧
      lattice.select (.name "ip[23]::-1>>1") = .ok (.single 4) ∧
      ∃ index extent, lattice.select (.name "ip[23]::-1>>2") = .error (.outOfRange index extent) := by
  have hc : lattice.column? lattice.config.key = some (.text #["ip1", "ip2", "ip2", "ip3", "tab$end"]) := rfl
  have hscan : (NamePattern.compile "ip[23]").map (fun p =>
      rowsWhere p.hits ["ip1", "ip2", "ip2", "ip3", "tab$end"]) = .ok [1, 2, 3] := by cbv
  obtain ⟨p, hp, hhits⟩ := map_eq_ok.mp hscan
  have hmoved : Address.parse "ip[23]>>1" = .ok ⟨"ip[23]", none, 1⟩ := rfl
  have hpicked : Address.parse "ip[23]::-1>>1" = .ok ⟨"ip[23]", some (-1), 1⟩ := rfl
  have hbeyond : Address.parse "ip[23]::-1>>2" = .ok ⟨"ip[23]", some (-1), 2⟩ := rfl
  have hname : "ip[23]" ∉ (Column.text #["ip1", "ip2", "ip2", "ip3", "tab$end"]).labels := by simp [Column.labels]
  have hsize : lattice.rowCount ≤ maxRows := by decide
  have hpattern : isPattern "ip[23]" = true := by decide
  have hall := select_pattern lattice_reachable hc hsize (by simp [Column.labels]) hmoved hname hpattern hp hhits.symm
    true
  have hone := select_pattern lattice_reachable hc hsize (by simp [Column.labels]) hpicked hname hpattern hp hhits.symm
    true
  have hnone := select_pattern lattice_reachable hc hsize (by simp [Column.labels]) hbeyond hname hpattern hp hhits.symm
    true
  refine ⟨p, hp, hhits, hall.1 rfl, ?_, ?_⟩
  · exact (hone.2 (-1) rfl).2.1 3 4 (by decide) (by decide)
  · exact (hnone.2 (-1) rfl).2.2 (by decide) (by decide)

end Table

end NamedRows
