import NamedRows.Proofs.Expr.Rendering
import NamedRows.Proofs.Table.Conjunction
import NamedRows.Proofs.Table.ValueRanges
import NamedRows.Externals.Standard

/-!
# Value ranges as conditions

That a column lies between two bounds can be said in a condition as well (`Expr.between`), and the condition selects the
rows of the value range (`Table.matching_between`). The condition is cut into tokens, read, and evaluated over whole
columns as numbers or texts, where the value range compares cell by cell; what both come to in a row is the comparison
of the cell there with the bounds (`Expr.eval_bound`).
-/

namespace NamedRows

namespace Expr

/-! ## Reading -/

/-- The condition that a column is at least one bound and at most another one, the bounds as they are written. -/
def between (column low high : String) : String := column ++ " >= " ++ low ++ " & " ++ column ++ " <= " ++ high

/-- The tree of that condition. -/
def betweenTree (column : String) (low high : Expr) : Expr :=
  .binary .and (.binary .ge (.column column) low) (.binary .le (.column column) high)

/-- A literal stands for a cell. -/
inductive Literal : Expr → Cell → Prop
  | number (x : Float) : Literal (.number x) (.float x)
  | text (s : String) : Literal (.text s) (.text s)

variable {e e' : Expr} {lo hi bound : Cell} {name low high : String}

/-- A literal needs no parentheses. -/
theorem Literal.rank_le (h : Literal e bound) (p : Phrase) : e.phrase.rank ≤ p.rank := by
  cases h <;> exact Nat.zero_le _

/-- A comparison binds more closely than the conjunction does. -/
theorem parse_between (hname : Token.isName name = true) (he : Literal e lo) (he' : Literal e' hi)
    (hlow : e.Renders low) (hhigh : e'.Renders high) :
    parse (between name low high) = .ok (betweenTree name e e') := by
  have hcolumn : (Expr.column name).Renders name := .last ⟨rfl, hname⟩
  have hge : (Expr.binary .ge (.column name) e).Renders (name ++ " " ++ ">=" ++ " " ++ low) :=
    hcolumn.binary hlow (Nat.zero_le _) (he.rank_le _)
  have hle : (Expr.binary .le (.column name) e').Renders (name ++ " " ++ "<=" ++ " " ++ high) :=
    hcolumn.binary hhigh (Nat.zero_le _) (he'.rank_le _)
  have hleft : Phrase.cmp.rank ≤ BinaryOp.and.left.rank := by decide
  have hright : Phrase.cmp.rank ≤ BinaryOp.and.right.rank := by decide
  have hboth : (betweenTree name e e').Renders
      (name ++ " " ++ ">=" ++ " " ++ low ++ " " ++ "&" ++ " " ++ (name ++ " " ++ "<=" ++ " " ++ high)) :=
    hge.binary hle hleft hright
  have htext : between name low high =
      name ++ " " ++ ">=" ++ " " ++ low ++ " " ++ "&" ++ " " ++ (name ++ " " ++ "<=" ++ " " ++ high) := by
    simp only [between, String.append_assoc]
    rfl
  have hlevels : (betweenTree name e e').levels = 1 := by
    cases he <;> cases he' <;> rfl
  rw [htext, hboth.parse_eq, hlevels]
  rfl

/-! ## Evaluating -/

/-- Numbers that cannot be compared are accepted only by an operator that accepts either order. -/
theorem acceptsNumbers_eq {op : BinaryOp} (h : (accepts op .lt && accepts op .gt) = false) (x y : Float) :
    acceptsNumbers op x y = (compareFloat? x y).any (accepts op) := by
  unfold acceptsNumbers
  cases compareFloat? x y with
  | none => exact h
  | some o => rfl

variable [Externals] {column? : String → Option Column} {c : Column}

/-- A column against a bound of its kind: in every row the truth value is that of the comparison of the cell there. -/
theorem eval_bound {op : BinaryOp} (hop : op = .ge ∨ op = .le) (he : Literal e bound)
    (hc : column? name = some c) (hkind : (bound.kind = .text) = (c.kind = .text)) :
    ∃ flags : Array Bool, (Expr.binary op (.column name) e).eval column? = .ok (.bool (.array flags)) ∧
      flags.size = c.size ∧
      ∀ row, flags[row]? = (c.cell? row).map fun cell => (cell.compare? bound).any (accepts op) := by
  have hoperands : ∀ {v}, e.eval column? = .ok v →
      (Expr.binary op (.column name) e).eval column? = compareValues op (.ofColumn c) v := fun hv => by
    rcases hop with rfl | rfl <;> simp only [eval, hc, hv, ok_bind] <;> rfl
  have hnumbers : ∀ x y, acceptsNumbers op x y = (compareFloat? x y).any (accepts op) :=
    acceptsNumbers_eq (by rcases hop with rfl | rfl <;> rfl)
  cases he with
  | number x =>
    rw [hoperands rfl]
    cases c with
    | text cells => simp [Cell.kind, Column.kind] at hkind
    | float cells | int cells | bool cells =>
      -- both evaluators take integers and truth values for the same doubles
      refine ⟨_, rfl, by simp [Column.size], fun row => ?_⟩
      simp only [Column.cell?, Array.getElem?_map, Option.map_map, Function.comp_def, hnumbers]
      rfl
  | text s =>
    rw [hoperands rfl]
    cases c with
    | float cells | int cells | bool cells => simp [Cell.kind, Column.kind] at hkind
    | text cells =>
      refine ⟨_, rfl, by simp [Column.size], fun row => ?_⟩
      simp only [Column.cell?, Array.getElem?_map, Option.map_map, Function.comp_def]
      rfl

theorem eval_and {l r : Expr} {x y z : Operand Bool} (hl : l.eval column? = .ok (.bool x))
    (hr : r.eval column? = .ok (.bool y)) (hz : Operand.combine (· && ·) x y = .ok z) :
    (Expr.binary .and l r).eval column? = .ok (.bool z) := by
  simp only [eval, hl, hr, ok_bind, evalBinary, arithmetic?, logic?, Value.asBool, hz]
  rfl

/-- A column between two bounds of its kind: in every row, whether the cell there is within them. -/
theorem eval_between (he : Literal e lo) (he' : Literal e' hi) (hc : column? name = some c)
    (hlo : (lo.kind = .text) = (c.kind = .text)) (hhi : (hi.kind = .text) = (c.kind = .text)) :
    ∃ flags : Array Bool, (betweenTree name e e').eval column? = .ok (.bool (.array flags)) ∧ flags.size = c.size ∧
      ∀ row, flags[row]? = (c.cell? row).map (isWithin (some lo) (some hi)) := by
  obtain ⟨xs, hxs, hxsize, hx⟩ := eval_bound (.inl rfl) he hc hlo
  obtain ⟨ys, hys, hysize, hy⟩ := eval_bound (.inr rfl) he' hc hhi
  have hcombine : Operand.combine (· && ·) (.array xs) (.array ys) = .ok (.array (xs.zipWith (· && ·) ys)) :=
    if_pos (hxsize.trans hysize.symm)
  refine ⟨xs.zipWith (· && ·) ys, ?_, ?_, fun row => ?_⟩
  · exact eval_and hxs hys hcombine
  · rw [Array.size_zipWith, hxsize, hysize, Nat.min_self]
  · rw [Array.getElem?_zipWith, hx, hy]
    cases c.cell? row <;> rfl

end Expr

/-! ## Selecting -/

namespace Table

variable {t : Table Column}

/-- Between two literals of its kind, a column selects the same rows by its value range as by the condition. -/
theorem matching_literals [Externals] (h : t.WellFormed) {name low high : String} {c : Column} {e e' : Expr}
    {lo hi : Cell} (hname : Token.isName name = true) (hc : t.column? name = some c) (he : Expr.Literal e lo)
    (he' : Expr.Literal e' hi) (hlow : e.Renders low) (hhigh : e'.Renders high)
    (hlo : (lo.kind = .text) = (c.kind = .text)) (hhi : (hi.kind = .text) = (c.kind = .text)) (strict : Bool) :
    ∃ sel ps, t.matching (Expr.between name low high) = .ok sel ∧ t.source.positions sel strict = .ok ps ∧
      t.source.positions (.valueRange name (some lo) (some hi)) strict = .ok ps ∧
      ∀ row ∈ ps, (⟨name, some lo, some hi⟩ : ValueRange).Holds t.source row := by
  let r : ValueRange := ⟨name, some lo, some hi⟩
  obtain ⟨flags, heval, hsize, hflags⟩ := Expr.eval_between he he' hc hlo hhi
  have hmatching : t.matching (Expr.between name low high) = .ok (.mask flags.toList) :=
    matching_eq_ok.mpr ⟨_, .array flags, Expr.parse_between hname he he' hlow hhigh, heval, rfl⟩
  have hlength : flags.toList.length = t.rowCount := hsize.trans (h.size_column hc)
  have hfits : r.Fits t.source := ⟨c, hc, if_pos hlo, if_pos hhi⟩
  have hrange : t.source.positions r.selector strict =
      .ok ((List.range t.rowCount).filter fun row => r.Holds t.source row) := by
    unfold Source.positions Source.select
    rw [hfits.resolve_eq]
    rfl
  have hmask : t.source.positions (.mask flags.toList) strict =
      .ok ((List.range t.rowCount).filter fun row => r.Holds t.source row) := by
    have hselect : t.source.select (.mask flags.toList) strict = .ok (.mask flags.toList) := if_pos hlength
    unfold Source.positions
    rw [hselect]
    refine congrArg Except.ok ?_
    show flagged flags.toList = _
    rw [flagged_eq_filter, hlength]
    refine List.filter_congr fun row _ => ?_
    have hrow : flagOf flags.toList row = (c.cell? row).any (isWithin (some lo) (some hi)) := by
      rw [flagOf, Array.getElem?_toList, hflags]
      cases c.cell? row <;> rfl
    rw [hrow, Bool.eq_iff_iff, decide_eq_true_iff, ValueRange.holds_iff hc]
  exact ⟨_, _, hmatching, hmask, hrange, fun row hrow => of_decide_eq_true (List.mem_filter.mp hrow).2⟩

/-- A value range with two bounds and the condition that says the same select the same rows in the same order, and neither
fails: texts in single quotes for a text column, and for any other column literals that are read as the two doubles. A
NaN is in none of these rows. -/
theorem matching_between [Externals] (h : Reachable t) {name : String} (hname : Token.isName name = true) {c : Column}
    (hc : t.column? name = some c) (strict : Bool) :
    (c.kind = .text → ∀ low high : String, '\'' ∉ low.toList → '\'' ∉ high.toList →
      ∃ sel ps, t.matching (Expr.between name ("'" ++ low ++ "'") ("'" ++ high ++ "'")) = .ok sel ∧
        t.source.positions sel strict = .ok ps ∧
        t.source.positions (.valueRange name (some (.text low)) (some (.text high))) strict = .ok ps) ∧
    (c.kind ≠ .text → ∀ (x y : Float) (low high : String), (TokenKind.number x).Spelling low →
      (TokenKind.number y).Spelling high →
      ∃ sel ps, t.matching (Expr.between name low high) = .ok sel ∧
        t.source.positions sel strict = .ok ps ∧
        t.source.positions (.valueRange name (some (.float x)) (some (.float y))) strict = .ok ps ∧
        ∀ row z, c.cell? row = some (.float z) → z.isNaN = true → row ∉ ps) := by
  refine ⟨fun hkind low high hlow hhigh => ?_, fun hkind x y low high hlow hhigh => ?_⟩
  · have hquoted : ∀ s : String, '\'' ∉ s.toList → (Expr.text s).Renders ("'" ++ s ++ "'") := fun s hs =>
      .last ⟨'\'', .inl rfl, hs, by simp [String.toList_append]⟩
    have htext : ∀ s : String, ((Cell.text s).kind = .text) = (c.kind = .text) := fun s => by simp [Cell.kind, hkind]
    obtain ⟨sel, ps, hmatching, hmask, hrange, -⟩ := matching_literals h.wellFormed hname hc (.text low) (.text high)
      (hquoted low hlow) (hquoted high hhigh) (htext low) (htext high) strict
    exact ⟨sel, ps, hmatching, hmask, hrange⟩
  · have hnumber : ∀ z : Float, ((Cell.float z).kind = .text) = (c.kind = .text) := fun z => by simp [Cell.kind, hkind]
    obtain ⟨sel, ps, hmatching, hmask, hrange, hholds⟩ := matching_literals h.wellFormed hname hc (.number x)
      (.number y) (.last hlow) (.last hhigh) (hnumber x) (hnumber y) strict
    refine ⟨sel, ps, hmatching, hmask, hrange, fun row z hz hnan hrow => ?_⟩
    have hwithin := (ValueRange.holds_iff_of_cell hc hz).mp (hholds row hrow)
    exact (Cell.not_le_of_isNaN hnan (.float x)).2 (hwithin.1 _ rfl)

/-- The rows named from `ip2` to `ip3`, and those of the turns from two to four and a half. -/
theorem matching_between_lattice :
    (TokenKind.number (.ofBits 0x4000000000000000)).Spelling "2" ∧
      (TokenKind.number (.ofBits 0x4012000000000000)).Spelling "4.5" ∧
      (∃ sel, lattice.matching "name >= 'ip2' & name <= 'ip3'" = .ok sel ∧
        lattice.source.positions sel true = .ok [1, 2, 3]) ∧
      ∃ sel, lattice.matching "turns >= 2 & turns <= 4.5" = .ok sel ∧
        lattice.source.positions sel true = .ok [1, 2, 3] := by
  have hlow : (TokenKind.number (.ofBits 0x4000000000000000)).Spelling "2" := ⟨'2', [], rfl, .inl rfl, rfl, by rfl⟩
  have hhigh : (TokenKind.number (.ofBits 0x4012000000000000)).Spelling "4.5" :=
    ⟨'4', ['.', '5'], rfl, .inl rfl, rfl, by rfl⟩
  refine ⟨hlow, hhigh, ?_, ?_⟩
  · have hname : Token.isName "name" = true := rfl
    obtain ⟨sel, ps, hmatching, hmask, hrange⟩ :=
      (matching_between lattice_reachable hname rfl true).1 rfl "ip2" "ip3" (by decide) (by decide)
    have hrows : lattice.source.positions (.valueRange "name" (some (.text "ip2")) (some (.text "ip3"))) true =
      .ok [1, 2, 3] := rfl
    exact ⟨sel, hmatching, hmask.trans (hrange.symm.trans hrows)⟩
  · have hname : Token.isName "turns" = true := rfl
    obtain ⟨sel, ps, hmatching, hmask, hrange, -⟩ :=
      (matching_between lattice_reachable hname rfl true).2 (by decide) _ _ "2" "4.5" hlow hhigh
    have hrows : lattice.source.positions (.valueRange "turns" (some (.float (.ofBits 0x4000000000000000)))
      (some (.float (.ofBits 0x4012000000000000)))) true = .ok [1, 2, 3] := rfl
    exact ⟨sel, hmatching, hmask.trans (hrange.symm.trans hrows)⟩

end Table

end NamedRows
