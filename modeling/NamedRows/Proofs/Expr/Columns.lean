import Mathlib.Data.List.Basic
import Mathlib.Data.List.Induction
import NamedRows.Expr.Eval
import NamedRows.Proofs.Expr.Rendering
import NamedRows.Proofs.Outcome
import NamedRows.Externals.Standard

/-!
# The columns of an expression

What `Expr.columns` lists is what evaluation reads (`columns_read`).

- In the text the columns are the names that are not called (`mentions_of_parse`), and each is listed once, at its first
  use (`firstUses_eraseDups`).
- Evaluation reads nothing else: sources with the same columns under these names give the same (`eval_congr`).
- Evaluation reads all of them: it does not come to a value unless each is there (`eval_ok_mentions`), and complains
  about a name only if that is absent, about the first one then (`eval_faulty`).
-/

namespace NamedRows

/-! ## First uses -/

/-- The names are those that are used, each once, in the order in which they are used for the first time. -/
structure FirstUses (uses names : List String) : Prop where
  nodup : names.Nodup
  mem_iff : ∀ name, name ∈ names ↔ name ∈ uses
  ordered : names.Pairwise fun a b => uses.idxOf a < uses.idxOf b

/-- One more use at the end is listed if it is the first one of its name. -/
theorem eraseDups_snoc (uses : List String) (name : String) :
    (uses ++ [name]).eraseDups = if name ∈ uses then uses.eraseDups else uses.eraseDups ++ [name] := by
  rw [List.eraseDups_append]
  by_cases h : name ∈ uses
  · simp [List.removeAll, h]
  · simp [List.removeAll, h, List.eraseDups_cons]

theorem firstUses_eraseDups (uses : List String) : FirstUses uses uses.eraseDups := by
  induction uses using List.reverseRecOn with
  | nil => exact ⟨List.nodup_nil, fun _ => Iff.rfl, List.Pairwise.nil⟩
  | append_singleton uses name ih =>
    have hmem : ∀ n, n ∈ (uses ++ [name]).eraseDups ↔ n ∈ uses ++ [name] := fun n => List.mem_eraseDups
    -- where a name is used first does not change with a use at the end
    have hordered : uses.eraseDups.Pairwise fun a b => (uses ++ [name]).idxOf a < (uses ++ [name]).idxOf b := by
      refine ih.ordered.imp_of_mem fun {a b} ha hb hlt => ?_
      rwa [List.idxOf_append_of_mem ((ih.mem_iff a).mp ha), List.idxOf_append_of_mem ((ih.mem_iff b).mp hb)]
    rw [eraseDups_snoc] at hmem ⊢
    by_cases h : name ∈ uses
    · rw [if_pos h] at hmem ⊢
      exact ⟨ih.nodup, hmem, hordered⟩
    · rw [if_neg h] at hmem ⊢
      have hnew : ∀ a ∈ uses.eraseDups, a ≠ name := by
        rintro a ha rfl
        exact h ((ih.mem_iff a).mp ha)
      refine ⟨?_, hmem, ?_⟩
      · rw [List.nodup_append]
        exact ⟨ih.nodup, by simp, fun a ha b hb => by rw [List.mem_singleton.mp hb]; exact hnew a ha⟩
      · rw [List.pairwise_append]
        refine ⟨hordered, List.pairwise_singleton _ _, fun a ha b hb => ?_⟩
        have hused := (ih.mem_iff a).mp ha
        rw [List.mem_singleton.mp hb, List.idxOf_append_of_mem hused, List.idxOf_append_of_notMem h]
        exact Nat.lt_of_lt_of_le (List.idxOf_lt_length_iff.mpr hused) (Nat.le_add_right _ _)

/-- The first use of a name with some property is in the list of first uses the first one as well. -/
theorem find?_eraseDups (p : String → Bool) (uses : List String) : uses.eraseDups.find? p = uses.find? p := by
  induction uses using List.reverseRecOn with
  | nil => rfl
  | append_singleton uses name ih =>
    rw [eraseDups_snoc, List.find?_append]
    by_cases h : name ∈ uses
    · rw [if_pos h, ih]
      cases hfind : uses.find? p with
      | some n => rfl
      | none =>
        have hname := List.find?_eq_none.mp hfind name h
        simp [hname]
    · rw [if_neg h, List.find?_append, ih]

namespace Expr

variable {e : Expr}

/-! ## In the text -/

/-- The names that are not called. -/
def uncalled (names : List (String × Bool)) : List String := (names.filter fun p => !p.2).map Prod.fst

theorem uncalled_append (names names' : List (String × Bool)) :
    uncalled (names ++ names') = uncalled names ++ uncalled names' := by
  simp [uncalled]

mutual

/-- The columns that are mentioned are the names that are not called. -/
theorem Derivation.mentions_expr : {p : Phrase} → (d : Derivation p) → d.expr.mentions = uncalled d.names
  | _, .level first rest => by
    rw [Derivation.expr, rest.mentions_onto, first.mentions_expr, Derivation.names, uncalled_append]
  | _, .sum a => a.mentions_expr
  | _, .compare op _ a b => by
    rw [Derivation.expr, mentions, a.mentions_expr, b.mentions_expr, Derivation.names, uncalled_append]
  | _, .signed op a => a.mentions_expr
  | _, .unsigned a => a.mentions_expr
  | _, .base a => a.mentions_expr
  | _, .raised a b => by
    rw [Derivation.expr, mentions, a.mentions_expr, b.mentions_expr, Derivation.names, uncalled_append]
  | _, .number x => rfl
  | _, .text s => rfl
  | _, .column name => rfl
  | _, .call1 f a => a.mentions_expr
  | _, .call2 f a b => by
    have hargs : uncalled (Derivation.call2 f a b).names = uncalled (a.names ++ b.names) := rfl
    rw [hargs, Derivation.expr, mentions, a.mentions_expr, b.mentions_expr, uncalled_append]
  | _, .group a => a.mentions_expr

theorem Repetition.mentions_onto : {l : Level} → (d : Repetition l) → (lhs : Expr) →
    (d.onto lhs).mentions = lhs.mentions ++ uncalled d.names
  | _, .done, lhs => (List.append_nil _).symm
  | _, .step op _ a rest, lhs => by
    rw [Repetition.onto, rest.mentions_onto, mentions, a.mentions_expr, Repetition.names, uncalled_append,
      List.append_assoc]

end

/-- An expression mentions the columns in the order of its text. -/
theorem mentions_of_parse {text : String} (h : parse text = .ok e) :
    ∃ ts, Token.scan text = .ok ts ∧ e.mentions = uncalled (namesOpened (ts.map Token.kind)) := by
  obtain ⟨ts, hscan, hread⟩ := bind_eq_ok.mp h
  obtain ⟨d, htokens, rfl, -⟩ := ofTokens_iff_derives.mp hread
  exact ⟨ts, hscan, by rw [d.mentions_expr, d.names_eq, htokens]⟩

/-! ## What is read -/

section Sources

variable [Externals] {column? : String → Option Column}

/-- Columns that are not mentioned are not read. -/
theorem eval_congr {left right : String → Option Column} (e : Expr)
    (h : ∀ name ∈ e.mentions, left name = right name) : e.eval left = e.eval right := by
  induction e with
  | number x => rfl
  | text s => rfl
  | column name => rw [eval, eval, h name List.mem_cons_self]
  | unary op e ih => rw [eval, eval, ih h]
  | binary op l r ihl ihr =>
    rw [eval, eval, ihl fun name hn => h name (List.mem_append_left _ hn),
      ihr fun name hn => h name (List.mem_append_right _ hn)]
  | call1 f a ih => rw [eval, eval, ih h]
  | call2 f a b iha ihb =>
    rw [eval, eval, iha fun name hn => h name (List.mem_append_left _ hn),
      ihb fun name hn => h name (List.mem_append_right _ hn)]

/-- Every column that is mentioned is read, since all operands are evaluated. -/
theorem eval_ok_mentions {v : Value} (h : e.eval column? = .ok v) : ∀ name ∈ e.mentions, (column? name).isSome := by
  induction e generalizing v with
  | number x => simp [mentions]
  | text s => simp [mentions]
  | column name =>
    rw [eval] at h
    cases hc : column? name with
    | none => rw [hc] at h; cases h
    | some c => simp [mentions, hc]
  | unary op e ih =>
    obtain ⟨a, ha, -⟩ := bind_eq_ok.mp h
    exact ih ha
  | binary op l r ihl ihr =>
    obtain ⟨a, ha, h⟩ := bind_eq_ok.mp h
    obtain ⟨b, hb, -⟩ := bind_eq_ok.mp h
    exact List.forall_mem_append.mpr ⟨ihl ha, ihr hb⟩
  | call1 f a ih =>
    obtain ⟨v, hv, -⟩ := bind_eq_ok.mp h
    exact ih hv
  | call2 f a b iha ihb =>
    obtain ⟨v, hv, h⟩ := bind_eq_ok.mp h
    obtain ⟨w, hw, -⟩ := bind_eq_ok.mp h
    exact List.forall_mem_append.mpr ⟨iha hv, ihb hw⟩

end Sources

/-! ## What operators complain about -/

/-- A computation complains about kinds only. -/
abbrev Mistyped {α : Type} (x : Except Error α) : Prop := FailsWith (fun e => e.family = .type) x

section Operators

variable {α β γ : Type}

theorem asNumber_mistyped (v : Value) (operator : String) : Mistyped (v.asNumber operator) := by
  cases v with
  | number x => exact .ok _
  | bool b => exact .ok _
  | text s => exact .error rfl

theorem asBool_mistyped (v : Value) (operator : String) : Mistyped (v.asBool operator) := by
  cases v with
  | number x => exact .error rfl
  | bool b => exact .ok _
  | text s => exact .error rfl

theorem combine_mistyped (f : α → β → γ) (x : Operand α) (y : Operand β) : Mistyped (Operand.combine f x y) := by
  unfold Operand.combine
  split
  · exact .ok _
  · exact .ok _
  · exact .ok _
  · split
    · exact .ok _
    · exact .error rfl

/-- Operands that two computations give, combined. -/
theorem combined_mistyped {x : Except Error (Operand α)} {y : Except Error (Operand β)} (hx : Mistyped x)
    (hy : Mistyped y) (f : α → β → γ) (wrap : Operand γ → Value) :
    Mistyped (x >>= fun a => y >>= fun b => wrap <$> Operand.combine f a b) :=
  hx.bind fun a _ => hy.bind fun b _ => (combine_mistyped f a b).map

theorem evalUnary_mistyped (op : UnaryOp) (v : Value) : Mistyped (evalUnary op v) := by
  cases op with
  | neg => exact (asNumber_mistyped v "-").bind fun _ _ => .ok _
  | pos => exact (asNumber_mistyped v "+").bind fun _ _ => .ok _
  | not => exact (asBool_mistyped v "~").bind fun _ _ => .ok _

theorem compareValues_mistyped (op : BinaryOp) (l r : Value) : Mistyped (compareValues op l r) := by
  unfold compareValues
  split
  · exact (combine_mistyped _ _ _).map
  · exact .error rfl
  · exact .error rfl
  · exact combined_mistyped (asNumber_mistyped _ _) (asNumber_mistyped _ _) _ _

theorem evalBinary_mistyped (op : BinaryOp) (l r : Value) : Mistyped (evalBinary op l r) := by
  unfold evalBinary
  split
  · exact combined_mistyped (asNumber_mistyped _ _) (asNumber_mistyped _ _) _ _
  · exact combined_mistyped (asBool_mistyped _ _) (asBool_mistyped _ _) _ _
  · exact compareValues_mistyped op l r

theorem evalCall_mistyped [Externals] (f : Function) (args : List Value) : Mistyped (evalCall f args) := by
  unfold evalCall
  split
  · exact .error rfl
  · refine (asNumber_mistyped _ _).bind fun b _ => (asNumber_mistyped _ _).bind fun a _ => ?_
    cases f with
    | one f => exact .error rfl
    | two f => exact (combine_mistyped _ _ _).map
  · refine (asNumber_mistyped _ _).bind fun a _ => ?_
    cases f with
    | one f => exact .ok _
    | two f => exact .error rfl

end Operators

/-! ## What evaluation complains about -/

section Faults

variable {column? : String → Option Column} {mentions mentions' : List String} {err : Error}

/-- Why evaluation fails: kinds that do not fit, or absent columns, of which the first one in the text is named. -/
def Faulty (column? : String → Option Column) (mentions : List String) (err : Error) : Prop :=
  err.family = .type ∨ ∃ name, err = .undefined name ∧ mentions.find? (fun n => (column? n).isNone) = some name

theorem Faulty.append_left (h : Faulty column? mentions err) : Faulty column? (mentions ++ mentions') err := by
  rcases h with h | ⟨name, rfl, hfind⟩
  · exact .inl h
  · exact .inr ⟨name, rfl, by rw [List.find?_append, hfind]; rfl⟩

/-- Columns that are there do not matter. -/
theorem Faulty.append_right (hall : ∀ name ∈ mentions, (column? name).isSome) (h : Faulty column? mentions' err) :
    Faulty column? (mentions ++ mentions') err := by
  rcases h with h | ⟨name, rfl, hfind⟩
  · exact .inl h
  · have hnone : mentions.find? (fun n => (column? n).isNone) = none := by
      rw [List.find?_eq_none]
      intro n hn
      obtain ⟨c, hc⟩ := Option.isSome_iff_exists.mp (hall n hn)
      simp [hc]
    exact .inr ⟨name, rfl, by rw [List.find?_append, hnone, hfind]; rfl⟩

/-- Two operands are evaluated from left to right, the second one only if the first one has a value. -/
theorem operands_faulty [Externals] {l r : Expr} {f : Value → Value → Except Error Value}
    (hl : FailsWith (Faulty column? l.mentions) (l.eval column?))
    (hr : FailsWith (Faulty column? r.mentions) (r.eval column?)) (hf : ∀ a b, Mistyped (f a b)) :
    FailsWith (Faulty column? (l.mentions ++ r.mentions))
      (l.eval column? >>= fun a => r.eval column? >>= fun b => f a b) :=
  (hl.mono fun _ => Faulty.append_left).bind fun _ ha =>
    (hr.mono fun _ => Faulty.append_right (eval_ok_mentions ha)).bind fun _ _ => (hf _ _).mono fun _ => Or.inl

theorem eval_faulty [Externals] (column? : String → Option Column) (e : Expr) :
    FailsWith (Faulty column? e.mentions) (e.eval column?) := by
  induction e with
  | number x => exact .ok _
  | text s => exact .ok _
  | column name =>
    rw [eval]
    cases hc : column? name with
    | none => exact .error (.inr ⟨name, rfl, by simp [Expr.mentions, hc]⟩)
    | some c => exact .ok _
  | unary op e ih => exact ih.bind fun v _ => (evalUnary_mistyped op v).mono fun _ => Or.inl
  | binary op l r ihl ihr => exact operands_faulty ihl ihr (evalBinary_mistyped op)
  | call1 f a ih => exact ih.bind fun v _ => (evalCall_mistyped (.one f) [v]).mono fun _ => Or.inl
  | call2 f a b iha ihb => exact operands_faulty iha ihb fun v w => evalCall_mistyped (.two f) [v, w]

end Faults

theorem mem_columns {name : String} : name ∈ e.columns ↔ name ∈ e.mentions := List.mem_eraseDups

/-- What an expression reads is what its columns list. They are the names in its text that are not called, each once, in
the order of first use. The result depends on no other columns. If one of them is absent, evaluation fails; it names an
absent column then, if it names any, and the first one; and if all are there, it does not fail for a name. -/
theorem columns_read [Externals] {text : String} (h : parse text = .ok e) :
    (∃ ts, Token.scan text = .ok ts ∧ FirstUses (uncalled (namesOpened (ts.map Token.kind))) e.columns) ∧
      (∀ left right : String → Option Column, (∀ name ∈ e.columns, left name = right name) →
        e.compute left = e.compute right) ∧
      ∀ column? : String → Option Column,
        ((∃ name ∈ e.columns, column? name = none) → ∃ err, e.compute column? = .error err) ∧
        (∀ name, e.compute column? = .error (.undefined name) →
          e.columns.find? (fun n => (column? n).isNone) = some name) ∧
        ((∀ name ∈ e.columns, column? name ≠ none) → ∀ err, e.compute column? = .error err → err.family ≠ .name) := by
  refine ⟨?_, fun left right hagree => ?_, fun column? => ⟨?_, fun name herr => ?_, fun hall err herr => ?_⟩⟩
  · obtain ⟨ts, hscan, hmentions⟩ := mentions_of_parse h
    exact ⟨ts, hscan, hmentions ▸ firstUses_eraseDups e.mentions⟩
  · rw [compute, compute, eval_congr e fun name hn => hagree name (mem_columns.mpr hn)]
  · rintro ⟨name, hn, hnone⟩
    cases hv : e.eval column? with
    | error err => exact ⟨err, by rw [compute, hv]; rfl⟩
    | ok v =>
      have hsome := eval_ok_mentions hv name (mem_columns.mp hn)
      rw [hnone] at hsome
      cases hsome
  · rcases eval_faulty column? e _ (map_eq_error.mp herr) with htype | ⟨name', hname, hfind⟩
    · cases htype
    · cases hname
      rw [columns, find?_eraseDups, hfind]
  · rcases eval_faulty column? e _ (map_eq_error.mp herr) with htype | ⟨name, rfl, hfind⟩
    · rw [htype]
      decide
    · have hmem := mem_columns.mpr (List.mem_of_find?_eq_some hfind)
      have hnone := List.find?_some hfind
      exact absurd (Option.isNone_iff_eq_none.mp hnone) (hall name hmem)

/-- A column that is used again keeps its place, and the name of a function is not that of a column. -/
theorem columns_read_ratio :
    let e := Expr.binary .sub (.column "b") (.binary .div (.call1 .sqrt (.column "a")) (.column "b"))
    parse "b - sqrt ( a ) / b" = .ok e ∧ e.columns = ["b", "a"] ∧
      ∀ column? : String → Option Column, column? "a" = none → ∃ err, e.compute column? = .error err := by
  intro e
  have hname {s : String} (hs : Token.isName s = true) : (TokenKind.name s).Spelling s := ⟨rfl, hs⟩
  have hrenders : e.Renders "b - sqrt ( a ) / b" :=
    .cons (hname (s := "b") rfl) (.cons (k := .minus) rfl (.cons (hname (s := "sqrt") rfl) (.cons (k := .open) rfl
      (.cons (hname (s := "a") rfl) (.cons (k := .close) rfl (.cons (k := .slash) rfl
        (.last (hname (s := "b") rfl))))))))
  have hparse : parse "b - sqrt ( a ) / b" = .ok e := by
    rw [hrenders.parse_eq]
    rfl
  have hcolumns : e.columns = ["b", "a"] := by decide
  refine ⟨hparse, hcolumns, fun column? ha => ?_⟩
  exact ((columns_read hparse).2.2 column?).1 ⟨"a", by rw [hcolumns]; decide, ha⟩

end Expr

end NamedRows
