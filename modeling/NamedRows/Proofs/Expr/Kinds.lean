import NamedRows.Proofs.Expr.Columns
import NamedRows.Externals.Standard

/-!
# Kinds of results

Which kind of value an expression comes to, and which error it fails with, is settled by the kinds of the columns
(`Expr.resultKind`), and whether the value has one entry a row by whether any column is read (`Expr.perRow`). Each
operator and function is shown to do what the check of kinds says (`Value.Fits`), whatever the cells are; the rest is an
induction over the expression (`eval_fits`). So over columns of equal length operands never differ in length, and what
kinds alone complain about (`Error.OfKinds`) is all that evaluation can fail with (`outcome_of_kinds`).
-/

namespace NamedRows

/-! ## Checking kinds -/

namespace Kind

/-- The kind of the values that a column of some kind has in an expression. -/
def promoted : Kind → Kind
  | .int => .float
  | k => k

/-- The word for the kind of a value in messages. -/
def word : Kind → String
  | .text => "text"
  | .bool => "bool"
  | _ => "number"

/-- An operator that needs numbers refuses texts. -/
def needNumber (operator : String) : Kind → Except Error Unit
  | .text => .error (.mismatch (.textOperand operator))
  | _ => .ok ()

/-- An operator that needs truth values refuses everything else. -/
def needBool (operator : String) : Kind → Except Error Unit
  | .bool => .ok ()
  | k => .error (.mismatch (.nonBoolean operator k.word))

end Kind

namespace Expr

def unaryKind : UnaryOp → Kind → Except Error Kind
  | .neg, k => do k.needNumber "-"; return .float
  | .pos, k => do k.needNumber "+"; return .float
  | .not, k => do k.needBool "~"; return .bool

/-- Texts compare with texts, and all other kinds with one another. -/
def compareKind : Kind → Kind → Except Error Kind
  | .text, .text => .ok .bool
  | .text, k => .error (.mismatch (.textComparison k.word))
  | k, .text => .error (.mismatch (.textComparison k.word))
  | _, _ => .ok .bool

def binaryKind (op : BinaryOp) (k l : Kind) : Except Error Kind :=
  match op with
  | .add | .sub | .mul | .div | .rem | .pow => do k.needNumber op.symbol; l.needNumber op.symbol; return .float
  | .and | .or => do k.needBool op.symbol; l.needBool op.symbol; return .bool
  | .lt | .le | .gt | .ge | .eq | .ne => compareKind k l

/-- The kind of the value of an expression over columns of given kinds, or why it has none. -/
def resultKind (kind? : String → Option Kind) : Expr → Except Error Kind
  | number _ => .ok .float
  | text _ => .ok .text
  | column name =>
    match kind? name with
    | some k => .ok k.promoted
    | none => .error (.undefined name)
  | unary op e => do unaryKind op (← e.resultKind kind?)
  | binary op l r => do
    let k ← l.resultKind kind?
    let k' ← r.resultKind kind?
    binaryKind op k k'
  | call1 f a => do
    (← a.resultKind kind?).needNumber f.name
    return .float
  | call2 f a b => do
    let k ← a.resultKind kind?
    let k' ← b.resultKind kind?
    k'.needNumber f.name
    k.needNumber f.name
    return .float

/-- Whether an expression has one value a row, rather than one for all rows. -/
def perRow (e : Expr) : Bool := !e.mentions.isEmpty

theorem perRow_append (l r : Expr) : (!(l.mentions ++ r.mentions).isEmpty) = (l.perRow || r.perRow) := by
  rw [perRow, perRow]
  cases l.mentions <;> rfl

theorem columns_eq_nil {e : Expr} : e.columns = [] ↔ e.perRow = false := by
  simp only [List.eq_nil_iff_forall_not_mem, mem_columns, perRow, Bool.not_eq_false', List.isEmpty_iff]

end Expr

/-! ## Values of a kind -/

/-- An operand is one value, or has one for each of `n` rows. -/
inductive Operand.Sized {α : Type} (n : Nat) : Bool → Operand α → Prop
  | scalar (a : α) : Sized n false (.scalar a)
  | array {as : Array α} : as.size = n → Sized n true (.array as)

/-- A value is of a kind, and has one entry for each of `n` rows where there is one a row. -/
inductive Value.Fits (n : Nat) (perRow : Bool) : Value → Kind → Prop
  | number {x : Operand Float} : x.Sized n perRow → Fits n perRow (.number x) .float
  | bool {x : Operand Bool} : x.Sized n perRow → Fits n perRow (.bool x) .bool
  | text {x : Operand String} : x.Sized n perRow → Fits n perRow (.text x) .text

variable {n : Nat} {p q : Bool}

section Operands

variable {α β γ : Type} {x : Operand α} {y : Operand β}

theorem Operand.Sized.map (h : x.Sized n p) (f : α → β) : (x.map f).Sized n p := by
  cases h with
  | scalar a => exact .scalar (f a)
  | array hs => exact .array (by rw [Array.size_map, hs])

/-- Operands over as many rows combine, and have one value a row if either has. -/
theorem Operand.Sized.combine (hx : x.Sized n p) (hy : y.Sized n q) (f : α → β → γ) :
    ∃ z, Operand.combine f x y = .ok z ∧ z.Sized n (p || q) := by
  cases hx with
  | scalar a =>
    cases hy with
    | scalar b => exact ⟨_, rfl, .scalar _⟩
    | array hb => exact ⟨_, rfl, .array (by rw [Array.size_map, hb])⟩
  | array ha =>
    cases hy with
    | scalar b => exact ⟨_, rfl, .array (by rw [Array.size_map, ha])⟩
    | array hb =>
      exact ⟨_, if_pos (ha.trans hb.symm), .array (by rw [Array.size_zipWith, ha, hb, Nat.min_self])⟩

end Operands

namespace Value.Fits

variable {v : Value} {k : Kind}

theorem ofColumn {c : Column} (h : c.size = n) : Fits n true (.ofColumn c) c.kind.promoted := by
  cases c with
  | float cells => exact .number (.array h)
  | int cells => exact .number ((Operand.Sized.array h).map floatOfInt)
  | text cells => exact .text (.array h)
  | bool cells => exact .bool (.array h)

theorem asNumber (h : v.Fits n p k) (operator : String) :
    Parallel (fun x _ => x.Sized n p) (v.asNumber operator) (k.needNumber operator) := by
  cases h with
  | number h => exact .ok h
  | bool h => exact .ok (h.map floatOfBool)
  | text h => exact .error _

theorem asBool (h : v.Fits n p k) (operator : String) :
    Parallel (fun x _ => x.Sized n p) (v.asBool operator) (k.needBool operator) := by
  cases h with
  | number h => exact .error _
  | bool h => exact .ok h
  | text h => exact .error _

/-- A value with one entry a row stands for a column, and any other for a cell. -/
theorem computed (h : v.Fits n p k) :
    (p = false ∧ ∃ c, v.computed = .cell c ∧ c.kind = k) ∨
      (p = true ∧ ∃ c, v.computed = .column c ∧ c.size = n ∧ c.kind = k) := by
  cases h with
  | number h => cases h with
    | scalar x => exact .inl ⟨rfl, _, rfl, rfl⟩
    | array hs => exact .inr ⟨rfl, _, rfl, hs, rfl⟩
  | bool h => cases h with
    | scalar x => exact .inl ⟨rfl, _, rfl, rfl⟩
    | array hs => exact .inr ⟨rfl, _, rfl, hs, rfl⟩
  | text h => cases h with
    | scalar x => exact .inl ⟨rfl, _, rfl, rfl⟩
    | array hs => exact .inr ⟨rfl, _, rfl, hs, rfl⟩

end Value.Fits

/-! ## Operators and functions -/

namespace Expr

variable {v l r : Value} {k k' : Kind}

/-- Operands that two computations give, combined. -/
theorem combined_fits {α β γ : Type} {x : Except Error (Operand α)} {y : Except Error (Operand β)}
    {s t : Except Error Unit} (hx : Parallel (fun x _ => x.Sized n p) x s) (hy : Parallel (fun y _ => y.Sized n q) y t)
    (f : α → β → γ) {wrap : Operand γ → Value} (hw : ∀ {z : Operand γ}, z.Sized n (p || q) → (wrap z).Fits n (p || q) k) :
    Parallel (Value.Fits n (p || q)) (x >>= fun a => y >>= fun b => wrap <$> Operand.combine f a b)
      (s >>= fun _ => t >>= fun _ => .ok k) :=
  hx.bind fun a _ ha => hy.bind fun b _ hb => by
    obtain ⟨z, hz, hsize⟩ := ha.combine hb f
    rw [hz]
    exact .ok (hw hsize)

theorem evalUnary_fits (op : UnaryOp) (h : v.Fits n p k) :
    Parallel (Value.Fits n p) (evalUnary op v) (unaryKind op k) := by
  cases op with
  | neg => exact (h.asNumber "-").bind fun _ _ hx => .ok (.number (hx.map _))
  | pos => exact (h.asNumber "+").bind fun _ _ hx => .ok (.number hx)
  | not => exact (h.asBool "~").bind fun _ _ hx => .ok (.bool (hx.map _))

theorem compareValues_fits (op : BinaryOp) (hl : l.Fits n p k) (hr : r.Fits n q k') :
    Parallel (Value.Fits n (p || q)) (compareValues op l r) (compareKind k k') := by
  have hnumbers := combined_fits (hl.asNumber op.symbol) (hr.asNumber op.symbol) (acceptsNumbers op) .bool
  cases hl with
  | text hx =>
    cases hr with
    | text hy =>
      obtain ⟨z, hz, hsize⟩ := hx.combine hy fun a b => accepts op (compare a b)
      rw [compareValues, hz]
      exact .ok (.bool hsize)
    | number hy => exact .error _
    | bool hy => exact .error _
  | number hx =>
    cases hr with
    | text hy => exact .error _
    | number hy => exact hnumbers
    | bool hy => exact hnumbers
  | bool hx =>
    cases hr with
    | text hy => exact .error _
    | number hy => exact hnumbers
    | bool hy => exact hnumbers

theorem evalBinary_fits (op : BinaryOp) (hl : l.Fits n p k) (hr : r.Fits n q k') :
    Parallel (Value.Fits n (p || q)) (evalBinary op l r) (binaryKind op k k') := by
  cases op with
  | add | sub | mul | div | rem | pow => exact combined_fits (hl.asNumber _) (hr.asNumber _) _ .number
  | and | or => exact combined_fits (hl.asBool _) (hr.asBool _) _ .bool
  | lt | le | gt | ge | eq | ne => exact compareValues_fits _ hl hr

/-- A call of a function of one argument with one argument does not complain about their number. -/
theorem evalCall1_fits [Externals] (f : Function1) (h : v.Fits n p k) :
    Parallel (Value.Fits n p) (evalCall (.one f) [v]) (k.needNumber f.name >>= fun _ => .ok .float) :=
  (h.asNumber f.name).bind fun _ _ hx => .ok (.number (hx.map _))

/-- Nor does a call of a function of two with two. -/
theorem evalCall2_fits [Externals] (f : Function2) (hl : l.Fits n p k) (hr : r.Fits n q k') :
    Parallel (Value.Fits n (p || q)) (evalCall (.two f) [l, r])
      (k'.needNumber f.name >>= fun _ => k.needNumber f.name >>= fun _ => .ok .float) :=
  (hr.asNumber f.name).bind fun b _ hb => (hl.asNumber f.name).bind fun a _ ha => by
    obtain ⟨z, hz, hsize⟩ := ha.combine hb (Arithmetic.apply2 f)
    show Parallel _ (Value.number <$> Operand.combine (Arithmetic.apply2 f) a b) _
    rw [hz]
    exact .ok (.number hsize)

/-! ## Expressions -/

/-- Over columns of `n` rows an expression comes to a value of the kind that the kinds of the columns give, or fails as
they say. -/
theorem eval_fits [Externals] {column? : String → Option Column} (hn : ∀ name c, column? name = some c → c.size = n)
    (e : Expr) :
    Parallel (Value.Fits n e.perRow) (e.eval column?) (e.resultKind fun name => (column? name).map Column.kind) := by
  induction e with
  | number x => exact .ok (.number (.scalar x))
  | text s => exact .ok (.text (.scalar s))
  | column name =>
    simp only [eval, resultKind]
    cases hc : column? name with
    | none => exact .error _
    | some c => exact .ok (.ofColumn (hn name c hc))
  | unary op e ih => exact ih.bind fun _ _ h => evalUnary_fits op h
  | binary op l r ihl ihr =>
    rw [perRow, mentions, perRow_append]
    exact ihl.bind fun _ _ hl => ihr.bind fun _ _ hr => evalBinary_fits op hl hr
  | call1 f a ih => exact ih.bind fun _ _ h => evalCall1_fits f h
  | call2 f a b iha ihb =>
    rw [perRow, mentions, perRow_append]
    exact iha.bind fun _ _ ha => ihb.bind fun _ _ hb => evalCall2_fits f ha hb

end Expr

/-! ## What kinds complain about -/

/-- Errors that do not depend on anything but the names and kinds of columns. -/
inductive Error.OfKinds : Error → Prop
  | undefined (name : String) : OfKinds (.undefined name)
  | textOperand (operator : String) : OfKinds (.mismatch (.textOperand operator))
  | nonBoolean (operator given : String) : OfKinds (.mismatch (.nonBoolean operator given))
  | textComparison (given : String) : OfKinds (.mismatch (.textComparison given))

namespace Expr

open Error (OfKinds)

theorem needNumber_ofKinds (k : Kind) (operator : String) : FailsWith OfKinds (k.needNumber operator) := by
  cases k with
  | text => exact .error (.textOperand operator)
  | float | int | bool => exact .ok ()

theorem needBool_ofKinds (k : Kind) (operator : String) : FailsWith OfKinds (k.needBool operator) := by
  cases k with
  | bool => exact .ok ()
  | float | int | text => exact .error (.nonBoolean operator _)

theorem unaryKind_ofKinds (op : UnaryOp) (k : Kind) : FailsWith OfKinds (unaryKind op k) := by
  cases op with
  | neg => exact (needNumber_ofKinds k "-").bind fun _ _ => .ok _
  | pos => exact (needNumber_ofKinds k "+").bind fun _ _ => .ok _
  | not => exact (needBool_ofKinds k "~").bind fun _ _ => .ok _

theorem compareKind_ofKinds (k k' : Kind) : FailsWith OfKinds (compareKind k k') := by
  unfold compareKind
  split
  · exact .ok _
  · exact .error (.textComparison _)
  · exact .error (.textComparison _)
  · exact .ok _

theorem binaryKind_ofKinds (op : BinaryOp) (k k' : Kind) : FailsWith OfKinds (binaryKind op k k') := by
  cases op with
  | add | sub | mul | div | rem | pow =>
    exact (needNumber_ofKinds k _).bind fun _ _ => (needNumber_ofKinds k' _).bind fun _ _ => .ok _
  | and | or => exact (needBool_ofKinds k _).bind fun _ _ => (needBool_ofKinds k' _).bind fun _ _ => .ok _
  | lt | le | gt | ge | eq | ne => exact compareKind_ofKinds k k'

theorem resultKind_ofKinds (kind? : String → Option Kind) (e : Expr) : FailsWith OfKinds (e.resultKind kind?) := by
  induction e with
  | number x => exact .ok _
  | text s => exact .ok _
  | column name =>
    rw [resultKind]
    cases kind? name with
    | none => exact .error (.undefined name)
    | some k => exact .ok _
  | unary op e ih => exact ih.bind fun k _ => unaryKind_ofKinds op k
  | binary op l r ihl ihr => exact ihl.bind fun k _ => ihr.bind fun k' _ => binaryKind_ofKinds op k k'
  | call1 f a ih => exact ih.bind fun k _ => (needNumber_ofKinds k _).bind fun _ _ => .ok _
  | call2 f a b iha ihb =>
    exact iha.bind fun k _ => ihb.bind fun k' _ =>
      (needNumber_ofKinds k' _).bind fun _ _ => (needNumber_ofKinds k _).bind fun _ _ => .ok _

/-! ## Results -/

section Results

variable [Externals] {e : Expr} {column? : String → Option Column}

theorem compute_eq_error (hn : ∀ name c, column? name = some c → c.size = n) {err : Error}
    (h : e.resultKind (fun name => (column? name).map Column.kind) = .error err) : e.compute column? = .error err := by
  rcases (eval_fits hn e).error_or_ok with ⟨err', heval, hkind⟩ | ⟨v, k, -, hkind, -⟩
  · rw [h] at hkind
    cases hkind
    rw [compute, heval]
    rfl
  · rw [h] at hkind
    cases hkind

/-- The result is a cell if no column is read, and a column of as many rows otherwise. -/
theorem compute_eq_ok (hn : ∀ name c, column? name = some c → c.size = n) {k : Kind}
    (h : e.resultKind (fun name => (column? name).map Column.kind) = .ok k) :
    (e.columns = [] ∧ ∃ c, e.compute column? = .ok (.cell c) ∧ c.kind = k) ∨
      (e.columns ≠ [] ∧ ∃ c, e.compute column? = .ok (.column c) ∧ c.size = n ∧ c.kind = k) := by
  rcases (eval_fits hn e).error_or_ok with ⟨err, -, hkind⟩ | ⟨v, k', heval, hkind, hv⟩
  · rw [h] at hkind
    cases hkind
  · rw [h] at hkind
    cases hkind
    have hcompute : e.compute column? = .ok v.computed := by
      rw [compute, heval]
      rfl
    rw [hcompute, ne_eq, columns_eq_nil]
    rcases hv.computed with ⟨hp, c, hc, hck⟩ | ⟨hp, c, hc, hsize, hck⟩
    · exact .inl ⟨hp, c, by rw [hc], hck⟩
    · exact .inr ⟨by simp [hp], c, by rw [hc], hsize, hck⟩

theorem compute_ofKinds (hn : ∀ name c, column? name = some c → c.size = n) :
    FailsWith OfKinds (e.compute column?) := by
  intro err herr
  cases h : e.resultKind fun name => (column? name).map Column.kind with
  | error err' =>
    rw [compute_eq_error hn h] at herr
    cases herr
    exact resultKind_ofKinds _ e _ h
  | ok k =>
    rcases compute_eq_ok hn h with ⟨-, c, hc, -⟩ | ⟨-, c, hc, -⟩
    · rw [hc] at herr
      cases herr
    · rw [hc] at herr
      cases herr

end Results

/-- Outcomes are settled by kinds. Over two sources with columns of the same names and kinds, all of one length in each,
an expression fails with the same error, or comes to a cell of the same kind if it reads no column, or else to columns
of the same kind with exactly one entry a row. It never complains about the number of arguments of a call or about
operands of different lengths. -/
theorem outcome_of_kinds [Externals] (e : Expr) {left right : String → Option Column} {m n : Nat}
    (hkinds : ∀ name, (left name).map Column.kind = (right name).map Column.kind)
    (hleft : ∀ name c, left name = some c → c.size = m) (hright : ∀ name c, right name = some c → c.size = n) :
    ((∃ err, e.compute left = .error err ∧ e.compute right = .error err) ∨
      (e.columns = [] ∧ ∃ c c', e.compute left = .ok (.cell c) ∧ e.compute right = .ok (.cell c') ∧ c.kind = c'.kind) ∨
      (e.columns ≠ [] ∧ ∃ c c', e.compute left = .ok (.column c) ∧ e.compute right = .ok (.column c') ∧
        c.size = m ∧ c'.size = n ∧ c.kind = c'.kind)) ∧
      ∀ (function : String) (k l : Nat),
        e.compute left ≠ .error (.mismatch (.missingArguments function)) ∧
        e.compute left ≠ .error (.mismatch (.takesOneArgument function)) ∧
        e.compute left ≠ .error (.mismatch (.takesTwoArguments function)) ∧
        e.compute left ≠ .error (.mismatch (.unequalOperands k l)) := by
  have hsame : e.resultKind (fun name => (left name).map Column.kind) =
      e.resultKind (fun name => (right name).map Column.kind) := by
    rw [funext hkinds]
  refine ⟨?_, fun function k l => ⟨fun h => ?_, fun h => ?_, fun h => ?_, fun h => ?_⟩⟩
  · cases h : e.resultKind fun name => (left name).map Column.kind with
    | error err => exact .inl ⟨err, compute_eq_error hleft h, compute_eq_error hright (hsame.symm.trans h)⟩
    | ok k =>
      have h' := hsame.symm.trans h
      right
      rcases compute_eq_ok hleft h with ⟨hnil, c, hc, hk⟩ | ⟨hne, c, hc, hsize, hk⟩
      · obtain ⟨-, c', hc', hk'⟩ := (compute_eq_ok hright h').resolve_right fun hr => hr.1 hnil
        exact .inl ⟨hnil, c, c', hc, hc', hk.trans hk'.symm⟩
      · obtain ⟨-, c', hc', hsize', hk'⟩ := (compute_eq_ok hright h').resolve_left fun hl => hne hl.1
        exact .inr ⟨hne, c, c', hc, hc', hsize, hsize', hk.trans hk'.symm⟩
  · cases compute_ofKinds hleft _ h
  · cases compute_ofKinds hleft _ h
  · cases compute_ofKinds hleft _ h
  · cases compute_ofKinds hleft _ h

/-- A condition over three rows and over none of them. -/
theorem outcome_of_kinds_empty :
    let e := Expr.binary .and (.binary .gt (.call2 .hypot (.column "turns") (.number 1)) (.number 2))
      (.binary .eq (.column "name") (.text "ip2"))
    let left : String → Option Column := fun name =>
      if name = "name" then some (.text #["ip1", "ip2", "ip2"])
      else if name = "turns" then some (.int #[1, 2, 3])
      else none
    let right : String → Option Column := fun name => (left name).map fun c => c.take []
    ∃ c c', e.compute left = .ok (.column c) ∧ e.compute right = .ok (.column c') ∧ c.size = 3 ∧ c'.size = 0 ∧
      c.kind = c'.kind := by
  intro e left right
  have hkinds : ∀ name, (left name).map Column.kind = (right name).map Column.kind := by
    intro name
    simp [right, Option.map_map, Function.comp_def]
  have hleft : ∀ name c, left name = some c → c.size = 3 := by
    intro name c h
    simp only [left] at h
    split at h
    · cases h; rfl
    · split at h
      · cases h; rfl
      · cases h
  have hright : ∀ name c, right name = some c → c.size = 0 := by
    intro name c h
    obtain ⟨c', -, rfl⟩ := Option.map_eq_some_iff.mp h
    cases c' <;> rfl
  have hcolumns : e.columns = ["turns", "name"] := by decide
  have hkind : e.resultKind (fun name => (left name).map Column.kind) = .ok .bool := rfl
  have hok : ∀ err, e.compute left ≠ .error err := by
    intro err herr
    rcases compute_eq_ok hleft hkind with ⟨-, c, hc, -⟩ | ⟨-, c, hc, -⟩ <;> rw [herr] at hc <;> cases hc
  rcases (outcome_of_kinds e hkinds hleft hright).1 with ⟨err, herr, -⟩ | ⟨hnil, -⟩ | ⟨-, hresult⟩
  · exact absurd herr (hok err)
  · rw [hcolumns] at hnil
    cases hnil
  · exact hresult

end Expr

end NamedRows
