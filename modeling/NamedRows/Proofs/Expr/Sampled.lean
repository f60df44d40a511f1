import NamedRows.Expr.Eval
import NamedRows.Proofs.Column.Take
import NamedRows.Proofs.Outcome

/-!
# Expressions row by row

An expression over columns of `n` rows comes to one value or to one value a row, and nothing else about it depends on
the rows. So evaluated over columns gathered at some rows it comes to the same value gathered at these rows, or to the
same error (`evaluate_sampled`). Each operator and function is shown to work row by row on values that are such samples
of each other (`Value.Sampled`), and the rest is an induction over the expression (`eval_sampled`).
-/

namespace NamedRows

/-- The second operand is the first one at the rows `ps`; an array has one entry for each of `n` rows. -/
inductive Operand.Sampled {α : Type} (n : Nat) (ps : List Nat) : Operand α → Operand α → Prop
  | scalar (a : α) : Sampled n ps (.scalar a) (.scalar a)
  | array {as : Array α} : as.size = n → Sampled n ps (.array as) (.array (gather as ps))

/-- The second value is the first one at the rows `ps`. -/
inductive Value.Sampled (n : Nat) (ps : List Nat) : Value → Value → Prop
  | number {x y : Operand Float} : x.Sampled n ps y → Sampled n ps (.number x) (.number y)
  | bool {x y : Operand Bool} : x.Sampled n ps y → Sampled n ps (.bool x) (.bool y)
  | text {x y : Operand String} : x.Sampled n ps y → Sampled n ps (.text x) (.text y)

/-- The second result is the first one at the rows `ps`. -/
inductive Computed.Sampled (n : Nat) (ps : List Nat) : Computed → Computed → Prop
  | cell (c : Cell) : Sampled n ps (.cell c) (.cell c)
  | column {c : Column} : c.size = n → Sampled n ps (.column c) (.column (c.take ps))

variable {n : Nat} {ps : List Nat}

/-! ## Operands -/

section Operands

variable {α β γ : Type}

theorem Operand.Sampled.map {x y : Operand α} (h : x.Sampled n ps y) (f : α → β) :
    (x.map f).Sampled n ps (y.map f) := by
  cases h with
  | scalar a => exact .scalar (f a)
  | @array as hs =>
    show Operand.Sampled n ps (.array (as.map f)) (.array ((gather as ps).map f))
    rw [← gather_map]
    exact .array (by rw [Array.size_map, hs])

/-- Operands are combined row by row. Arrays of as many rows never differ in length. -/
theorem Operand.Sampled.combine {x x' : Operand α} {y y' : Operand β} (hp : ∀ p ∈ ps, p < n) (hx : x.Sampled n ps x')
    (hy : y.Sampled n ps y') (f : α → β → γ) :
    Parallel (Operand.Sampled n ps) (Operand.combine f x y) (Operand.combine f x' y') := by
  cases hx with
  | scalar a =>
    cases hy with
    | scalar b => exact .ok (.scalar _)
    | array hb => exact .ok ((Operand.Sampled.array hb).map (f a))
  | @array as ha =>
    cases hy with
    | scalar b => exact .ok ((Operand.Sampled.array ha).map (f · b))
    | @array bs hb =>
      have hab : as.size = bs.size := ha.trans hb.symm
      have hg : (gather as ps).size = (gather bs ps).size := by
        rw [size_gather (ha ▸ hp), size_gather (hb ▸ hp)]
      simp only [Operand.combine, if_pos hab, if_pos hg]
      rw [← gather_zipWith f hab (ha ▸ hp)]
      exact .ok (.array (by rw [Array.size_zipWith, ha, hb, Nat.min_self]))

end Operands

/-! ## Values -/

section Values

variable {v v' : Value}

theorem Value.Sampled.ofColumn {c : Column} (h : c.size = n) :
    Value.Sampled n ps (.ofColumn c) (.ofColumn (c.take ps)) := by
  cases c with
  | float cells => exact .number (.array h)
  | int cells => exact .number ((Operand.Sampled.array h).map floatOfInt)
  | text cells => exact .text (.array h)
  | bool cells => exact .bool (.array h)

theorem Value.Sampled.asNumber (h : v.Sampled n ps v') (operator : String) :
    Parallel (Operand.Sampled n ps) (v.asNumber operator) (v'.asNumber operator) := by
  cases h with
  | number h => exact .ok h
  | bool h => exact .ok (h.map floatOfBool)
  | text h => exact .error _

theorem Value.Sampled.asBool (h : v.Sampled n ps v') (operator : String) :
    Parallel (Operand.Sampled n ps) (v.asBool operator) (v'.asBool operator) := by
  cases h with
  | number h => exact .error _
  | bool h => exact .ok h
  | text h => exact .error _

theorem Value.Sampled.computed (h : v.Sampled n ps v') : v.computed.Sampled n ps v'.computed := by
  cases h with
  | number h => cases h with
    | scalar x => exact .cell _
    | array hs => exact .column hs
  | bool h => cases h with
    | scalar x => exact .cell _
    | array hs => exact .column hs
  | text h => cases h with
    | scalar x => exact .cell _
    | array hs => exact .column hs

end Values

/-! ## Operators and functions -/

namespace Expr

variable {v v' l l' r r' : Value}

/-- Operands that two computations give, combined row by row. -/
theorem combined_sampled {α β γ : Type} (hp : ∀ p ∈ ps, p < n) {x x' : Except Error (Operand α)}
    {y y' : Except Error (Operand β)} (hx : Parallel (Operand.Sampled n ps) x x')
    (hy : Parallel (Operand.Sampled n ps) y y') (f : α → β → γ) {wrap : Operand γ → Value}
    (hw : ∀ {a b : Operand γ}, a.Sampled n ps b → (wrap a).Sampled n ps (wrap b)) :
    Parallel (Value.Sampled n ps) (x >>= fun a => y >>= fun b => wrap <$> Operand.combine f a b)
      (x' >>= fun a => y' >>= fun b => wrap <$> Operand.combine f a b) :=
  hx.bind fun _ _ ha => hy.bind fun _ _ hb => (ha.combine hp hb f).map fun _ _ => hw

theorem compareValues_sampled (hp : ∀ p ∈ ps, p < n) (op : BinaryOp) (hl : l.Sampled n ps l')
    (hr : r.Sampled n ps r') :
    Parallel (Value.Sampled n ps) (compareValues op l r) (compareValues op l' r') := by
  -- a text on one side only is an error, whatever the rows hold
  have hnumbers := combined_sampled hp (hl.asNumber op.symbol) (hr.asNumber op.symbol) (acceptsNumbers op) .bool
  cases hl with
  | text hl =>
    cases hr with
    | text hr => exact (hl.combine hp hr _).map fun _ _ => .bool
    | number hr => exact .error _
    | bool hr => exact .error _
  | number hl =>
    cases hr with
    | text hr => exact .error _
    | number hr => exact hnumbers
    | bool hr => exact hnumbers
  | bool hl =>
    cases hr with
    | text hr => exact .error _
    | number hr => exact hnumbers
    | bool hr => exact hnumbers

theorem evalUnary_sampled (op : UnaryOp) (h : v.Sampled n ps v') :
    Parallel (Value.Sampled n ps) (evalUnary op v) (evalUnary op v') := by
  cases op with
  | neg => exact (h.asNumber "-").bind fun _ _ hx => .ok (.number (hx.map _))
  | pos => exact (h.asNumber "+").bind fun _ _ hx => .ok (.number hx)
  | not => exact (h.asBool "~").bind fun _ _ hx => .ok (.bool (hx.map _))

theorem evalBinary_sampled (hp : ∀ p ∈ ps, p < n) (op : BinaryOp) (hl : l.Sampled n ps l') (hr : r.Sampled n ps r') :
    Parallel (Value.Sampled n ps) (evalBinary op l r) (evalBinary op l' r') := by
  unfold evalBinary
  cases arithmetic? op with
  | some f => exact combined_sampled hp (hl.asNumber op.symbol) (hr.asNumber op.symbol) f .number
  | none =>
    cases logic? op with
    | some f => exact combined_sampled hp (hl.asBool op.symbol) (hr.asBool op.symbol) f .bool
    | none => exact compareValues_sampled hp op hl hr

theorem evalCall1_sampled [Externals] (f : Function1) (h : v.Sampled n ps v') :
    Parallel (Value.Sampled n ps) (evalCall (.one f) [v]) (evalCall (.one f) [v']) :=
  (h.asNumber f.name).bind fun _ _ hx => .ok (.number (hx.map _))

theorem evalCall2_sampled [Externals] (hp : ∀ p ∈ ps, p < n) (f : Function2) (hl : l.Sampled n ps l')
    (hr : r.Sampled n ps r') :
    Parallel (Value.Sampled n ps) (evalCall (.two f) [l, r]) (evalCall (.two f) [l', r']) :=
  (hr.asNumber f.name).bind fun _ _ hb => (hl.asNumber f.name).bind fun _ _ ha =>
    (ha.combine hp hb _).map fun _ _ => .number

/-! ## Expressions -/

section Columns

variable [Externals] {column? : String → Option Column}

/-- An expression over gathered columns comes to what it comes to over the whole columns, gathered, or to the same
error. -/
theorem eval_sampled (hc : ∀ name c, column? name = some c → c.size = n) (hp : ∀ p ∈ ps, p < n) (e : Expr) :
    Parallel (Value.Sampled n ps) (e.eval column?) (e.eval fun name => (column? name).map fun c => c.take ps) := by
  induction e with
  | number x => exact .ok (.number (.scalar x))
  | text s => exact .ok (.text (.scalar s))
  | column name =>
    simp only [eval]
    cases h : column? name with
    | none => exact .error _
    | some c => exact .ok (.ofColumn (hc name c h))
  | unary op e ih => exact ih.bind fun _ _ h => evalUnary_sampled op h
  | binary op l r ihl ihr => exact ihl.bind fun _ _ hl => ihr.bind fun _ _ hr => evalBinary_sampled hp op hl hr
  | call1 f a ih => exact ih.bind fun _ _ h => evalCall1_sampled f h
  | call2 f a b iha ihb => exact iha.bind fun _ _ ha => ihb.bind fun _ _ hb => evalCall2_sampled hp f ha hb

/-- The same for the text of an expression, which is read before any column is looked at. -/
theorem evaluate_sampled (hc : ∀ name c, column? name = some c → c.size = n) (hp : ∀ p ∈ ps, p < n)
    (expression : String) :
    Parallel (Computed.Sampled n ps) (evaluate column? expression)
      (evaluate (fun name => (column? name).map fun c => c.take ps) expression) := by
  unfold evaluate
  cases parse expression with
  | error e => exact .error e
  | ok e => exact (eval_sampled hc hp e).map fun _ _ h => h.computed

end Columns

end Expr

end NamedRows
