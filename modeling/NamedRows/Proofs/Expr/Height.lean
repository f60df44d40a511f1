import Mathlib
import NamedRows.Proofs.Expr.Rendering

/-!
# The height of expressions

The bound on nesting bounds the height of an expression only where operators are not repeated. An operator that combines
to the left (`BinaryOp.folds`) may follow another one of its level without opening anything, so its left operand is as
high as there are operators before it, and no constant bounds the height (`height_unbounded`).

If the steps from such an operator to its left operand do not count (`turns`), then each level of nesting adds seven
nodes to a path at most: one for each level of operators above the unary ones, one for a power, and one for what opens
the next level (`turns_lt`). What is left is the most steps of the other sort on one path (`leftSteps`), and together
these bound the height (`height_le`). A tree is never higher than its text is long.
-/

namespace NamedRows

/-- The operators that combine to the left, any number of them in a row. -/
def BinaryOp.folds : BinaryOp → Bool
  | or | and | add | sub | mul | div | rem => true
  | lt | le | gt | ge | eq | ne | pow => false

namespace Expr

/-- The height of an expression, if steps to the left operands of operators that combine to the left do not count. -/
def turns : Expr → Nat
  | number _ => 1
  | text _ => 1
  | column _ => 1
  | unary _ e => e.turns + 1
  | binary op l r => max (l.turns + if op.folds then 0 else 1) (r.turns + 1)
  | call1 _ a => a.turns + 1
  | call2 _ a b => max a.turns b.turns + 1

theorem turns_of_folds {op : BinaryOp} (h : op.folds = true) (l r : Expr) :
    (binary op l r).turns = max l.turns (r.turns + 1) := by
  rw [turns, if_pos h, Nat.add_zero]

theorem turns_of_not_folds {op : BinaryOp} (h : op.folds = false) (l r : Expr) :
    (binary op l r).turns = max l.turns r.turns + 1 := by
  rw [turns, if_neg (by simp [h])]
  exact Nat.add_max_add_right ..

/-- The most steps on a path down the tree that lead to the left operand of an operator that combines to the left. -/
def leftSteps : Expr → Nat
  | number _ => 0
  | text _ => 0
  | column _ => 0
  | unary _ e => e.leftSteps
  | binary op l r => max (l.leftSteps + if op.folds then 1 else 0) r.leftSteps
  | call1 _ a => a.leftSteps
  | call2 _ a b => max a.leftSteps b.leftSteps

/-- A step counts in one of the two ways. -/
theorem height_le (e : Expr) : e.height ≤ e.turns + e.leftSteps := by
  induction e with
  | number x => exact Nat.le_refl _
  | text s => exact Nat.le_refl _
  | column name => exact Nat.le_refl _
  | unary op e ih =>
    simp only [height, turns, leftSteps]
    omega
  | binary op l r ihl ihr =>
    simp only [height, turns, leftSteps]
    split <;> omega
  | call1 f a ih =>
    simp only [height, turns, leftSteps]
    omega
  | call2 f a b iha ihb =>
    simp only [height, turns, leftSteps]
    omega

/-! ## Nesting bounds turns -/

/-- How many nodes a level of nesting may add above a phrase of a sort, with one more for the next level. -/
def Phrase.above : Phrase → Nat
  | .level .or => 1
  | .level .and => 2
  | .cmp => 3
  | .level .add => 4
  | .level .mul => 5
  | .unary => 6
  | .power => 6
  | .atom => 7

theorem Phrase.above_le {p q : Phrase} (h : q.rank ≤ p.rank) : p.above ≤ q.above := by
  rcases p with (_ | _ | _ | _) | _ | _ | _ <;> rcases q with (_ | _ | _ | _) | _ | _ | _ <;>
    first | decide | exact absurd h (by decide)

theorem Phrase.above_mem (p : Phrase) : 1 ≤ p.above ∧ p.above ≤ 7 := by
  rcases p with (_ | _ | _ | _) | _ | _ | _ <;> decide

/-- What stands between the operators of a level has room for one node more. -/
theorem above_operand (l : Level) :
    l.operand.above = (Phrase.level l).above + 1 ∧ (Phrase.level l).above ≤ 5 := by
  cases l <;> decide

/-- There is room in `n` levels for an expression and all that may stand above a phrase of the sort `p` in the last of
them. An expression of one node is at the bottom, where nothing needs room. -/
def Fits (e : Expr) (p : Phrase) (n : Nat) : Prop := e.turns = 1 ∨ e.turns + p.above ≤ 7 * n

/-- An expression in parentheses has the level to itself that they open. -/
theorem Fits.opened {e : Expr} {n : Nat} (h : e.Fits e.phrase n) (p : Phrase) : e.Fits p (opened p e.phrase n) := by
  rcases h with h | h
  · exact .inl h
  refine .inr ?_
  unfold Expr.opened
  split
  case isTrue hrank =>
    have habove := Phrase.above_le hrank
    omega
  case isFalse =>
    have hp := p.above_mem
    have hq := e.phrase.above_mem
    omega

theorem one_le_opened {n : Nat} (h : 1 ≤ n) (p q : Phrase) : 1 ≤ opened p q n := by
  unfold opened
  split <;> omega

theorem one_le_levels (e : Expr) : 1 ≤ e.levels := by
  induction e with
  | binary op l r ihl ihr => exact Nat.le_trans (one_le_opened ihl _ _) (Nat.le_max_left _ _)
  | _ => simp [levels]

theorem folds_operator {l : Level} {op : BinaryOp} (h : op ∈ l.operators) : op.folds = true := by
  cases l <;> cases op <;> first | rfl | simp [Level.operators] at h

theorem folds_comparison {op : BinaryOp} (h : op ∈ comparisons) : op.folds = false := by
  cases op <;> first | rfl | simp [comparisons] at h

/-- An operator adds a node above its operands; if it combines to the left, above its right one only, and that one is of
a sort with room for one node more. -/
theorem Fits.binary {l r : Expr} {m n : Nat} (op : BinaryOp) (hl : l.Fits op.left m) (hr : r.Fits op.right n)
    (hn : 1 ≤ n) : (Expr.binary op l r).Fits op.phrase (max m (n + if op = .pow then 1 else 0)) := by
  unfold Fits at hl hr ⊢
  rcases operator_cases op with rfl | hop | ⟨level, hop⟩
  · rw [turns_of_not_folds rfl, if_pos rfl]
    simp only [BinaryOp.left, BinaryOp.right, BinaryOp.phrase, Phrase.above] at hl hr ⊢
    omega
  · obtain ⟨hphrase, hleft, hright, hpow⟩ := sorts_comparison hop
    rw [hleft] at hl
    rw [hright] at hr
    rw [turns_of_not_folds (folds_comparison hop), hphrase, if_neg hpow]
    simp only [Phrase.above] at hl hr ⊢
    omega
  · obtain ⟨hphrase, hleft, hright, hpow⟩ := sorts_operator hop
    obtain ⟨hroom, habove⟩ := above_operand level
    rw [hleft] at hl
    rw [hright] at hr
    rw [turns_of_folds (folds_operator hop), hphrase, if_neg hpow]
    omega

theorem turns_lt_of_fits {e : Expr} (h : e.Fits e.phrase e.levels) : e.turns < 7 * e.levels := by
  have hlevels := e.one_le_levels
  have habove := e.phrase.above_mem
  rcases h with h | h <;> omega

/-- As many levels as an expression has are enough for it. -/
theorem fits_levels (e : Expr) : e.Fits e.phrase e.levels := by
  induction e with
  | number x => exact .inl rfl
  | text s => exact .inl rfl
  | column name => exact .inl rfl
  | unary op e ih =>
    have hlevels := one_le_opened e.one_le_levels .unary e.phrase
    refine .inr ?_
    show e.turns + 1 + 6 ≤ 7 * (opened .unary e.phrase e.levels + 1)
    rcases ih.opened .unary with h | h
    · omega
    · rw [Phrase.above] at h
      omega
  | binary op l r ihl ihr =>
    exact .binary op (ihl.opened op.left) (ihr.opened op.right) (one_le_opened r.one_le_levels _ _)
  | call1 f a ih =>
    have ha := turns_lt_of_fits ih
    refine .inr ?_
    show a.turns + 1 + 7 ≤ 7 * (a.levels + 1)
    omega
  | call2 f a b iha ihb =>
    have ha := turns_lt_of_fits iha
    have hb := turns_lt_of_fits ihb
    refine .inr ?_
    show max a.turns b.turns + 1 + 7 ≤ 7 * (max a.levels b.levels + 1)
    omega

/-- Seven nodes for each level, and none above the first of them. -/
theorem turns_lt (e : Expr) : e.turns < 7 * e.levels := turns_lt_of_fits e.fits_levels

/-- An operand below one operator of each level, always the right one. -/
def layer (e : Expr) : Expr :=
  let x := column "x"
  .binary .or x (.binary .and x (.binary .lt x (.binary .add x (.binary .mul x e))))

/-- Layers, each in the base of a power of the next one. -/
def tower : Nat → Expr
  | 0 => layer (column "x")
  | n + 1 => layer (.binary .pow (.call1 .abs (tower n)) (column "x"))

theorem turns_layer (e : Expr) : (layer e).turns = e.turns + 5 := by
  show max 1 (max 1 (max 2 (max 1 (max 1 (e.turns + 1) + 1) + 1) + 1) + 1) = e.turns + 5
  omega

theorem turns_tower (n : Nat) : (tower n).turns = 7 * n + 6 := by
  induction n with
  | zero => rfl
  | succ n ih =>
    rw [tower, turns_layer, turns_of_not_folds rfl]
    simp only [turns, ih]
    omega

theorem levels_tower (n : Nat) : (tower n).levels = n + 1 := by
  induction n with
  | zero => rfl
  | succ n ih =>
    show max 1 (max 1 (max 1 (max 1 (max 1 (max ((tower n).levels + 1) 2))))) = n + 1 + 1
    omega

theorem writable_tower (n : Nat) : (tower n).Writable := by
  have hx : (column "x").Writable := rfl
  induction n with
  | zero => exact ⟨hx, hx, hx, hx, hx, hx⟩
  | succ n ih => exact ⟨hx, hx, hx, hx, hx, ih, hx⟩

/-! ## Nothing bounds the height -/

/-- A sum of one column, with as many operators as are asked for. -/
def sum : Nat → Expr
  | 0 => column "x"
  | n + 1 => .binary .add (sum n) (column "x")

theorem height_sum (n : Nat) : (sum n).height = n + 1 := by
  induction n with
  | zero => rfl
  | succ n ih =>
    simp only [sum, height, ih]
    omega

/-- A sum is the left operand of the next one as it is, and opens nothing. -/
theorem levels_sum (n : Nat) : (sum n).levels = 1 := by
  have hrank (n : Nat) : (sum n).phrase.rank ≤ (Phrase.level .add).rank := by
    cases n with
    | zero => decide
    | succ n => exact Nat.le_refl _
  induction n with
  | zero => rfl
  | succ n ih =>
    show max (opened (.level .add) (sum n).phrase (sum n).levels) 1 = 1
    rw [opened, if_pos (hrank n), ih, Nat.max_self]

theorem writable_sum (n : Nat) : (sum n).Writable := by
  induction n with
  | zero => rfl
  | succ n ih => exact ⟨ih, rfl⟩

/-! ## Height and length -/

theorem length_le_enclosed (p q : Phrase) (ts : List TokenKind) : ts.length ≤ (enclosed p q ts).length := by
  unfold enclosed
  split
  · exact Nat.le_refl _
  · simp only [List.length_cons, List.length_append]
    omega

/-- Every node has a token of its own. -/
theorem height_le_length_tokens (e : Expr) : e.height ≤ e.tokens.length := by
  induction e with
  | number x => exact Nat.le_refl _
  | text s => exact Nat.le_refl _
  | column name => exact Nat.le_refl _
  | unary op e ih =>
    have he := length_le_enclosed .unary e.phrase e.tokens
    simp only [height, tokens, List.length_cons]
    omega
  | binary op l r ihl ihr =>
    have hl := length_le_enclosed op.left l.phrase l.tokens
    have hr := length_le_enclosed op.right r.phrase r.tokens
    simp only [height, tokens, List.length_append, List.length_cons]
    omega
  | call1 f a ih =>
    simp only [height, tokens, List.length_append, List.length_cons]
    omega
  | call2 f a b iha ihb =>
    simp only [height, tokens, List.length_append, List.length_cons]
    omega

/-- Every token has a character of its own. -/
theorem length_le_of_scanFrom {expression : String} {cs : List Char} {position : Nat} {ts : List Token}
    (h : Token.scanFrom expression position cs = .ok ts) : ts.length ≤ cs.length := by
  match cs with
  | [] =>
    rw [Token.scanFrom] at h
    cases h
    exact Nat.le_refl _
  | c :: rest =>
    rw [Token.scanFrom] at h
    split at h
    · have hrest := length_le_of_scanFrom h
      exact Nat.le_succ_of_le hrest
    · obtain ⟨⟨kind, tail⟩, -, h⟩ := bind_eq_ok.mp h
      obtain ⟨us, hus, h⟩ := bind_eq_ok.mp h
      cases h
      have hrest := length_le_of_scanFrom hus
      simp only [List.length_cons, List.length_drop] at hrest ⊢
      omega
termination_by cs.length
decreasing_by
  · rw [List.length_drop, List.length_cons]
    omega
  · exact Nat.lt_succ_self _

variable {text : String} {e : Expr}

/-- An expression is not higher than the text that it is read from is long. -/
theorem height_le_length (h : parse text = .ok e) : e.height ≤ text.length := by
  obtain ⟨ts, hscan, hread⟩ := bind_eq_ok.mp h
  obtain ⟨d, hd, rfl, -⟩ := ofTokens_iff_derives.mp hread
  have hchars : ts.length ≤ text.toList.length := length_le_of_scanFrom hscan
  have htokens : d.expr.tokens.length ≤ d.tokens.length := d.within.of_or.1.length_le
  rw [hd, List.length_map] at htokens
  rw [String.length_toList] at hchars
  have hheight := d.expr.height_le_length_tokens
  omega

/-- No constant bounds the height of what can be read: a sum has as many operators as one likes. -/
theorem height_unbounded : ¬ ∃ H, ∀ text e, parse text = .ok e → e.height ≤ H := by
  rintro ⟨H, hbound⟩
  have hlevels : (sum H).levels ≤ 100 := by
    rw [levels_sum]
    decide
  obtain ⟨text, hread⟩ := exists_parse_iff.mpr ⟨writable_sum H, hlevels⟩
  have hheight := hbound text (sum H) hread
  rw [height_sum] at hheight
  omega

/-- Without the steps to the left operands of operators that combine to the left, no path down an expression that is
read has more than 699 nodes, and some path has as many. With those steps, of which no constant bounds the number, the
height is no more than the two together, and no more than the length of the text. -/
theorem parse_height :
    (∀ text e, parse text = .ok e →
      e.turns ≤ 699 ∧ e.height ≤ e.turns + e.leftSteps ∧ e.height ≤ text.length) ∧
      ∃ text e, parse text = .ok e ∧ e.turns = 699 := by
  constructor
  · intro text e hread
    obtain ⟨-, hlevels⟩ := writable_of_parse hread
    have hturns := e.turns_lt
    exact ⟨by omega, e.height_le, height_le_length hread⟩
  · have hlevels : (tower 99).levels ≤ 100 := Nat.le_of_eq (levels_tower 99)
    obtain ⟨text, hread⟩ := exists_parse_iff.mpr ⟨writable_tower 99, hlevels⟩
    exact ⟨text, tower 99, hread, turns_tower 99⟩

/-- Two operators of one level: the step from the sum to the difference does not count, all others do. -/
theorem parse_height_difference :
    let e := Expr.binary .add
      (.binary .sub (.column "a") (.binary .mul (.column "b") (.unary .neg (.column "c")))) (.column "d")
    parse "a - b * -c + d" = .ok e ∧ (e.height, e.turns, e.leftSteps) = (5, 4, 2) ∧
      e.turns ≤ 699 ∧ e.height ≤ e.turns + e.leftSteps ∧ e.height ≤ "a - b * -c + d".length := by
  intro e
  have hparse : parse "a - b * -c + d" = .ok e := by cbv
  exact ⟨hparse, rfl, parse_height.1 _ e hparse⟩

end Expr

end NamedRows
