import Mathlib
import NamedRows.Proofs.Expr.Depth
import NamedRows.Proofs.Expr.Tokens
import NamedRows.Proofs.Table.Masks
import NamedRows.Externals.Standard

/-!
# Conditions joined by "and"

Two conditions in parentheses with `&` between them are one condition, and it selects the rows that a chain of the two
selects, whichever of them comes first (`matching_conjunction`). Each step of reading and evaluating the joined text has
its own reason: tokens end at a parenthesis (`Token.scan_conjunction`), a group is what is in it, one level deeper
(`Derivation.conjunction`), and truth values are joined row by row (`Operand.combine_flags`).
-/

namespace NamedRows

/-! ## Reading -/

namespace Expr

/-- The condition that two conditions hold. -/
def conjunction (a b : String) : String := "(" ++ a ++ ") & (" ++ b ++ ")"

/-- A phrase in parentheses, as an operand of a conjunction. -/
def Derivation.grouped (d : Derivation (.level .or)) : Derivation .cmp :=
  .sum (.level (l := .add) (.level (l := .mul) (.unsigned (.base (.group d))) .done) .done)

/-- Two phrases in parentheses, with `&` between them. -/
def Derivation.conjunction (d d' : Derivation (.level .or)) : Derivation (.level .or) :=
  .level (l := .or) (.level (l := .and) d.grouped (.step .and (by decide) d'.grouped .done)) .done

theorem Derivation.tokens_conjunction (d d' : Derivation (.level .or)) :
    (d.conjunction d').tokens = .open :: (d.tokens ++ .close :: .and :: .open :: (d'.tokens ++ [.close])) := by
  simp [conjunction, grouped, tokens, Repetition.tokens, BinaryOp.token]

/-- Two expressions that can be read are read as a conjunction when they are joined, unless they nest too deeply. -/
theorem parse_conjunction {a b : String} {e e' : Expr} (ha : parse a = .ok e) (hb : parse b = .ok e') :
    parse (conjunction a b) = .ok (.binary .and e e') ∨
      parse (conjunction a b) = .error (.malformed (conjunction a b) .nestedTooDeeply) := by
  obtain ⟨ts, hts, ha⟩ := bind_eq_ok.mp ha
  obtain ⟨us, hus, hb⟩ := bind_eq_ok.mp hb
  obtain ⟨d, hd, rfl, -⟩ := ofTokens_iff_derives.mp ha
  obtain ⟨d', hd', rfl, -⟩ := ofTokens_iff_derives.mp hb
  obtain ⟨vs, hvs, hkinds⟩ := Token.scan_conjunction hts hus
  have hparse : parse (conjunction a b) = ofTokens (conjunction a b) vs := by
    unfold parse conjunction
    rw [hvs]
    rfl
  rw [hparse]
  exact ofTokens_of_derivation (conjunction a b) (d.conjunction d')
    (by rw [hkinds, ← hd, ← hd', Derivation.tokens_conjunction])

end Expr

/-! ## Evaluating -/

/-- The truth values of an operand as one flag for each of `n` rows. -/
def Operand.flags (n : Nat) : Operand Bool → List Bool
  | scalar b => List.replicate n b
  | array bs => bs.toList

/-- Truth values for `n` rows are combined row by row. -/
theorem Operand.combine_flags {n : Nat} {x y : Operand Bool} (f : Bool → Bool → Bool) (hx : (x.flags n).length = n)
    (hy : (y.flags n).length = n) :
    ∃ z, Operand.combine f x y = .ok z ∧ (z.flags n).length = n ∧
      ∀ row < n, flagOf (z.flags n) row = f (flagOf (x.flags n) row) (flagOf (y.flags n) row) := by
  cases x with
  | scalar a =>
    cases y with
    | scalar b => exact ⟨_, rfl, by simp [flags], fun row hrow => by simp [flags, flagOf, hrow]⟩
    | array bs =>
      have hbs : bs.size = n := hy
      exact ⟨_, rfl, by simp [flags, hbs], fun row hrow => by simp [flags, flagOf, hrow, hbs]⟩
  | array as =>
    have has : as.size = n := hx
    cases y with
    | scalar b => exact ⟨_, rfl, by simp [flags, has], fun row hrow => by simp [flags, flagOf, hrow, has]⟩
    | array bs =>
      have hbs : bs.size = n := hy
      exact ⟨_, if_pos (has.trans hbs.symm), by simp [flags, has, hbs],
        fun row hrow => by simp [flags, flagOf, hrow, has, hbs]⟩

namespace Table

variable {t : Table Column}

/-- A text is a condition if it is an expression that comes to truth values; these are the flags of its mask. -/
theorem matching_eq_ok [Externals] {text : String} {sel : Selector} :
    t.matching text = .ok sel ↔
      ∃ e x, Expr.parse text = .ok e ∧ e.eval t.column? = .ok (.bool x) ∧ sel = .mask (x.flags t.rowCount) := by
  constructor
  · intro h
    obtain ⟨computed, hcomputed, h⟩ := bind_eq_ok.mp h
    obtain ⟨e, he, hcomputed⟩ := bind_eq_ok.mp hcomputed
    obtain ⟨value, hvalue, rfl⟩ := map_eq_ok.mp hcomputed
    refine ⟨e, ?_⟩
    cases value with
    | bool x =>
      refine ⟨x, he, hvalue, ?_⟩
      cases x <;> cases h <;> rfl
    | number x => cases x <;> cases h
    | text x => cases x <;> cases h
  · rintro ⟨e, x, he, hx, rfl⟩
    simp only [matching, Expr.evaluate, he, Expr.compute, hx, ok_bind]
    cases x <;> rfl

/-- Two conditions joined by "and" are a condition, unless the joined text nests too deeply, and select the rows that a
chain of the two conditions selects, in the same order, whichever of them is the first stage. -/
theorem matching_conjunction [Externals] (h : Reachable t) {a b : String} {first second : Selector}
    (ha : t.matching a = .ok first) (hb : t.matching b = .ok second)
    (hdeep : t.matching (Expr.conjunction a b) ≠ .error (.malformed (Expr.conjunction a b) .nestedTooDeeply)) :
    ∃ both s forth back, t.matching (Expr.conjunction a b) = .ok both ∧ t.select both = .ok s ∧
      t.select (.chain [first, second]) = .ok forth ∧ t.select (.chain [second, first]) = .ok back ∧
      forth.positions = s.positions ∧ back.positions = s.positions := by
  obtain ⟨e, x, he, hx, rfl⟩ := matching_eq_ok.mp ha
  obtain ⟨e', y, he', hy, rfl⟩ := matching_eq_ok.mp hb
  obtain ⟨_, ⟨⟩, hxn⟩ := matching_eq_mask h.wellFormed ha
  obtain ⟨_, ⟨⟩, hyn⟩ := matching_eq_mask h.wellFormed hb
  obtain ⟨z, hz, hzn, hflags⟩ := Operand.combine_flags (· && ·) hxn hyn
  have hparse : Expr.parse (Expr.conjunction a b) = .ok (.binary .and e e') := by
    refine (Expr.parse_conjunction he he').resolve_right fun hrejected => hdeep ?_
    simp only [matching, Expr.evaluate, hrejected]
    rfl
  have heval : (Expr.binary .and e e').eval t.column? = .ok (.bool z) := by
    simp only [Expr.eval, hx, hy, ok_bind, Expr.evalBinary, Expr.arithmetic?, Expr.logic?, Value.asBool, hz]
    rfl
  have hboth : t.matching (Expr.conjunction a b) = .ok (.mask (z.flags t.rowCount)) :=
    matching_eq_ok.mpr ⟨_, z, hparse, heval, rfl⟩
  refine ⟨_, .mask (z.flags t.rowCount), _, _, hboth, if_pos hzn, select_masks hxn hyn true, select_masks hyn hxn true,
    ?_, ?_⟩
  · exact (filter_flagged hxn hzn hflags).symm
  · refine (filter_flagged hyn hzn fun row hrow => ?_).symm
    rw [hflags row hrow, Bool.and_comm]

/-- Of the rows named `ip1` or `ip2`, those not named `ip1`. The parentheses count: without them `&` would bind
first. -/
theorem matching_conjunction_lattice :
    lattice.matching "name == 'ip1' | name == 'ip2'" = .ok (.mask [true, true, true, false, false]) ∧
      lattice.matching "name != 'ip1'" = .ok (.mask [false, true, true, true, true]) ∧
      ∃ both s, lattice.matching "(name == 'ip1' | name == 'ip2') & (name != 'ip1')" = .ok both ∧
        lattice.select both = .ok s ∧ s.positions = [1, 2] := by
  have ha : lattice.matching "name == 'ip1' | name == 'ip2'" = .ok (.mask [true, true, true, false, false]) := by cbv
  have hb : lattice.matching "name != 'ip1'" = .ok (.mask [false, true, true, true, true]) := by cbv
  have hread : lattice.matching (Expr.conjunction "name == 'ip1' | name == 'ip2'" "name != 'ip1'") =
      .ok (.mask [false, true, true, false, false]) := by cbv
  obtain ⟨both, s, forth, _, hboth, hs, hforth, -, hpositions, -⟩ :=
    matching_conjunction lattice_reachable ha hb fun e => by rw [hread] at e; cases e
  have hchain : lattice.select
      (.chain [.mask [true, true, true, false, false], .mask [false, true, true, true, true]]) =
      .ok (.rows [1, 2]) := rfl
  cases hchain.symm.trans hforth
  exact ⟨ha, hb, both, s, hboth, hs, hpositions.symm⟩

end Table

end NamedRows
