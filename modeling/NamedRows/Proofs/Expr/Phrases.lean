import NamedRows.Expr.Grammar
import NamedRows.Proofs.Expr.Reader

/-!
# Readers and phrases

Each reader of expressions reads exactly the phrases of one sort (`Exact`). What it reads is a phrase; and a phrase is
read whole, provided that what follows it could not go on with it (`Phrase.Stops`): operators bind with different
strength (`TokenKind.looseness`), and what follows has to bind more loosely than anything of the phrase that is still
open. The combinators that readers are made of carry this from one sort of phrases to the next, and an induction over
the nesting closes the circle (`operand_exact`).
-/

namespace NamedRows

/-- How loosely a token binds to what stands before it. A parenthesis makes a name before it a call. -/
def TokenKind.looseness : TokenKind → Nat
  | .open => 0
  | .power => 1
  | .star | .slash | .percent => 2
  | .plus | .minus => 3
  | .lt | .le | .gt | .ge | .eq | .ne => 4
  | .and => 5
  | .or => 6
  | _ => 7

namespace Expr

/-- The loosest tokens that a phrase of a sort goes on with. -/
def Phrase.looseness : Phrase → Nat
  | .atom => 0
  | .power => 1
  | .unary => 1
  | .level .mul => 2
  | .level .add => 3
  | .cmp => 4
  | .level .and => 5
  | .level .or => 6

/-- Tokens with which a phrase before them cannot go on. -/
def Phrase.Stops (p : Phrase) (ts : List TokenKind) : Prop := ∀ k ∈ ts.head?, p.looseness < k.looseness

theorem Phrase.stops_nil (p : Phrase) : p.Stops [] := fun _ h => nomatch h

theorem Phrase.stops_cons {p : Phrase} {k : TokenKind} {ts : List TokenKind} (h : p.looseness < k.looseness) :
    p.Stops (k :: ts) := by
  rintro _ ⟨⟩
  exact h

theorem Phrase.Stops.mono {p q : Phrase} {ts : List TokenKind} (h : p.Stops ts) (hq : q.looseness ≤ p.looseness) :
    q.Stops ts :=
  fun k hk => Nat.lt_of_le_of_lt hq (h k hk)

/-! ## Operators and their tokens -/

namespace Level

/-- The operator of a level that a token stands for. -/
def op? : Level → TokenKind → Option BinaryOp
  | or => orOp?
  | and => andOp?
  | add => addOp?
  | mul => mulOp?

theorem op?_token {l : Level} {op : BinaryOp} (h : op ∈ l.operators) : l.op? op.token = some op := by
  cases l <;> cases op <;> first | rfl | simp [operators] at h

theorem op?_eq_some {l : Level} {k : TokenKind} {op : BinaryOp} (h : l.op? k = some op) :
    op ∈ l.operators ∧ op.token = k := by
  cases l <;> cases k <;> cases h <;> exact ⟨by decide, rfl⟩

theorem looseness_token {l : Level} {op : BinaryOp} (h : op ∈ l.operators) :
    op.token.looseness = (Phrase.level l).looseness := by
  cases l <;> cases op <;> first | rfl | simp [operators] at h

theorem operand_lt (l : Level) : l.operand.looseness < (Phrase.level l).looseness := by
  cases l <;> decide

/-- A phrase of a level stops before what is no operator of the level. -/
theorem op?_of_stops {l : Level} {k : TokenKind} {ts : List TokenKind} (h : (Phrase.level l).Stops (k :: ts)) :
    l.op? k = none := by
  cases hop : l.op? k with
  | none => rfl
  | some op =>
    obtain ⟨hmem, rfl⟩ := op?_eq_some hop
    have := h _ rfl
    rw [looseness_token hmem] at this
    exact absurd this (Nat.lt_irrefl _)

end Level

theorem compareOp?_token {op : BinaryOp} (h : op ∈ comparisons) : compareOp? op.token = some op := by
  cases op <;> first | rfl | simp [comparisons] at h

theorem compareOp?_eq_some {k : TokenKind} {op : BinaryOp} (h : compareOp? k = some op) :
    op ∈ comparisons ∧ op.token = k := by
  cases k <;> cases h <;> exact ⟨by decide, rfl⟩

theorem looseness_comparison {op : BinaryOp} (h : op ∈ comparisons) :
    op.token.looseness = Phrase.cmp.looseness := by
  cases op <;> first | rfl | simp [comparisons] at h

/-- A comparison goes on with no comparing operator. -/
theorem not_stops_comparison {op : BinaryOp} (h : op ∈ comparisons) (ts : List TokenKind) :
    ¬ Phrase.cmp.Stops (op.token :: ts) := by
  intro hstops
  have := hstops _ rfl
  rw [looseness_comparison h] at this
  exact absurd this (Nat.lt_irrefl _)

/-- A sum stops before a comparing operator. -/
theorem stops_comparison {op : BinaryOp} {ts : List TokenKind} (h : op ∈ comparisons) :
    (Phrase.level .add).Stops (op.token :: ts) :=
  Phrase.stops_cons (by rw [looseness_comparison h]; decide)

theorem stops_power {ts : List TokenKind} : Phrase.atom.Stops (.power :: ts) := Phrase.stops_cons (by decide)

theorem stops_comma {ts : List TokenKind} : (Phrase.level .or).Stops (.comma :: ts) := Phrase.stops_cons (by decide)

theorem stops_close {p : Phrase} {ts : List TokenKind} : p.Stops (.close :: ts) :=
  Phrase.stops_cons (by cases p <;> first | decide | (rename_i l; cases l <;> decide))

theorem compareOp?_of_stops {ts : List TokenKind} (h : Phrase.cmp.Stops ts) : ts.head?.bind compareOp? = none := by
  cases ts with
  | nil => rfl
  | cons k ts =>
    cases hop : compareOp? k with
    | none => exact hop
    | some op =>
      obtain ⟨hmem, rfl⟩ := compareOp?_eq_some hop
      exact absurd h (not_stops_comparison hmem ts)

theorem unaryOp?_token (op : UnaryOp) : unaryOp? op.token = some op := by
  cases op <;> rfl

theorem unaryOp?_eq_some {k : TokenKind} {op : UnaryOp} (h : unaryOp? k = some op) : op.token = k := by
  cases k <;> cases h <;> rfl

theorem named?_name (f : Function) : Function.named? f.name = some f := by
  rcases f with f | f <;> cases f <;> rfl

theorem name_of_named? {s : String} {f : Function} (h : Function.named? s = some f) : f.name = s := by
  simpa using List.find?_some h

/-! ## What a phrase starts and goes on with -/

/-- No phrase is empty or starts with a closing parenthesis, and powers and atoms do not start with an operator. -/
theorem Derivation.head : {p : Phrase} → (d : Derivation p) →
    ∃ k ks, d.tokens = k :: ks ∧ k ≠ .close ∧ (p = .power ∨ p = .atom → unaryOp? k = none)
  | _, .level first rest => by
    obtain ⟨k, ks, h, hk, -⟩ := first.head
    exact ⟨k, ks ++ rest.tokens, by simp [tokens, h], hk, by simp⟩
  | _, .sum a => by
    obtain ⟨k, ks, h, hk, -⟩ := a.head
    exact ⟨k, ks, h, hk, by simp⟩
  | _, .compare op _ a b => by
    obtain ⟨k, ks, h, hk, -⟩ := a.head
    exact ⟨k, ks ++ op.token :: b.tokens, by simp [tokens, h], hk, by simp⟩
  | _, .signed op a => ⟨op.token, a.tokens, rfl, by cases op <;> simp [UnaryOp.token], by simp⟩
  | _, .unsigned a => by
    obtain ⟨k, ks, h, hk, -⟩ := a.head
    exact ⟨k, ks, h, hk, by simp⟩
  | _, .base a => by
    obtain ⟨k, ks, h, hk, hop⟩ := a.head
    exact ⟨k, ks, h, hk, fun _ => hop (.inr rfl)⟩
  | _, .raised a b => by
    obtain ⟨k, ks, h, hk, hop⟩ := a.head
    exact ⟨k, ks ++ .power :: b.tokens, by simp [tokens, h], hk, fun _ => hop (.inr rfl)⟩
  | _, .number x => ⟨.number x, [], rfl, by simp, fun _ => rfl⟩
  | _, .text s => ⟨.text s, [], rfl, by simp, fun _ => rfl⟩
  | _, .column name => ⟨.name name, [], rfl, by simp, fun _ => rfl⟩
  | _, .call1 f _ => ⟨.name f.name, _, rfl, by simp, fun _ => rfl⟩
  | _, .call2 f _ _ => ⟨.name f.name, _, rfl, by simp, fun _ => rfl⟩
  | _, .group _ => ⟨.open, _, rfl, by simp, fun _ => rfl⟩

/-- An operand stops before the operators that follow it. -/
theorem Repetition.stops {l : Level} (d : Repetition l) {r : List TokenKind} (h : (Phrase.level l).Stops r) :
    l.operand.Stops (d.tokens ++ r) := by
  cases d with
  | done => exact h.mono (Nat.le_of_lt l.operand_lt)
  | step op hop a d => exact Phrase.stops_cons (by rw [Level.looseness_token hop]; exact l.operand_lt)

/-! ## Exact readers -/

/-- The reader reads exactly the phrases of a sort whose nesting is at most `m`. -/
structure Exact (read : Reader) (p : Phrase) (m : Nat) : Prop where
  sound {ts rest : List Token} {e : Expr} : Yields (read ts) e rest →
    ∃ d : Derivation p, ts.map Token.kind = d.tokens ++ rest.map Token.kind ∧ d.expr = e ∧ d.nesting ≤ m
  complete (d : Derivation p) {ts : List Token} {r : List TokenKind} : d.nesting ≤ m →
    ts.map Token.kind = d.tokens ++ r → p.Stops r → ∃ rest, rest.map Token.kind = r ∧ Yields (read ts) d.expr rest

section Levels

variable {l : Level} {m : Nat} {operand : Reader}

/-- Reading on reads a repetition, by induction on the number of tokens. -/
theorem foldOperators_sound (h : Exact operand l.operand m) {ts rest : List Token} {lhs e : Expr}
    (hy : Yields (foldOperators l.op? operand lhs ts) e rest) :
    ∃ d : Repetition l, ts.map Token.kind = d.tokens ++ rest.map Token.kind ∧ d.onto lhs = e ∧ d.nesting ≤ m := by
  match ts with
  | [] =>
    obtain ⟨rfl, rfl⟩ := foldOperators_nil.mp hy
    exact ⟨.done, rfl, rfl, Nat.zero_le m⟩
  | t :: ts =>
    cases hop : l.op? t.kind with
    | none =>
      obtain ⟨rfl, rfl⟩ := (foldOperators_none hop).mp hy
      exact ⟨.done, rfl, rfl, Nat.zero_le m⟩
    | some op =>
      obtain ⟨hmem, htoken⟩ := Level.op?_eq_some hop
      obtain ⟨b, mid, hb, hrest⟩ := (foldOperators_some hop).mp hy
      obtain ⟨a, hts, rfl, ha⟩ := h.sound hb
      have hlt : mid.length < ts.length := hb.1
      obtain ⟨d, hmid, rfl, hd⟩ := foldOperators_sound h hrest
      refine ⟨.step op hmem a d, ?_, rfl, Nat.max_le.mpr ⟨ha, hd⟩⟩
      simp [Repetition.tokens, hts, hmid, htoken]
termination_by ts.length
decreasing_by simp only [List.length_cons]; omega

/-- A repetition is read whole, by induction on it. -/
theorem foldOperators_complete (h : Exact operand l.operand m) : (d : Repetition l) → {ts : List Token} →
    {r : List TokenKind} → (lhs : Expr) → d.nesting ≤ m → ts.map Token.kind = d.tokens ++ r → (Phrase.level l).Stops r →
    ∃ rest, rest.map Token.kind = r ∧ Yields (foldOperators l.op? operand lhs ts) (d.onto lhs) rest
  | .done, [], _, lhs, _, hts, _ => ⟨[], hts, foldOperators_nil.mpr ⟨rfl, rfl⟩⟩
  | .done, t :: ts, _, lhs, _, hts, hr => by
    refine ⟨t :: ts, hts, (foldOperators_none ?_).mpr ⟨rfl, rfl⟩⟩
    subst hts
    exact Level.op?_of_stops hr
  | .step op hop a d, [], r, lhs, _, hts, _ => by simp [Repetition.tokens] at hts
  | .step op hop a d, t :: ts, r, lhs, hm, hts, hr => by
    obtain ⟨ha, hd⟩ := Nat.max_le.mp hm
    obtain ⟨ht, hts⟩ : t.kind = op.token ∧ ts.map Token.kind = a.tokens ++ (d.tokens ++ r) := by
      simpa [Repetition.tokens] using hts
    obtain ⟨mid, hmid, hy⟩ := h.complete a ha hts (d.stops hr)
    obtain ⟨rest, hrest, hf⟩ := foldOperators_complete h d (.binary op lhs a.expr) hd hmid hr
    exact ⟨rest, hrest, (foldOperators_some (by rw [ht]; exact Level.op?_token hop)).mpr ⟨a.expr, mid, hy, hf⟩⟩

theorem leftLevel_exact (h : Exact operand l.operand m) : Exact (leftLevel l.op? operand) (.level l) m where
  sound hy := by
    obtain ⟨e, mid, he, hf⟩ := leftLevel_yields.mp hy
    obtain ⟨a, hts, rfl, ha⟩ := h.sound he
    obtain ⟨d, hmid, rfl, hd⟩ := foldOperators_sound h hf
    exact ⟨.level a d, by rw [hts, hmid, Derivation.tokens, List.append_assoc], rfl, Nat.max_le.mpr ⟨ha, hd⟩⟩
  complete d ts r hm hts hr := by
    cases d with
    | level a d =>
      obtain ⟨ha, hd⟩ := Nat.max_le.mp hm
      rw [Derivation.tokens, List.append_assoc] at hts
      obtain ⟨mid, hmid, hy⟩ := h.complete a ha hts (d.stops hr)
      obtain ⟨rest, hrest, hf⟩ := foldOperators_complete h d a.expr hd hmid hr
      exact ⟨rest, hrest, leftLevel_yields.mpr ⟨a.expr, mid, hy, hf⟩⟩

theorem comparison_exact (h : Exact operand .unary m) : Exact (comparison operand) .cmp m := by
  have hsum : Exact (leftLevel addOp? (leftLevel mulOp? operand)) (.level .add) m :=
    leftLevel_exact (l := .add) (leftLevel_exact (l := .mul) h)
  constructor
  case sound =>
    intro ts rest e hy
    obtain ⟨lhs, mid, hlhs, hy⟩ := comparison_yields.mp hy
    obtain ⟨a, hts, rfl, ha⟩ := hsum.sound hlhs
    rcases hy with ⟨-, rfl, rfl⟩ | ⟨t, ts', op, rhs, rfl, hop, hrhs, rfl⟩
    · exact ⟨.sum a, hts, rfl, ha⟩
    · obtain ⟨b, hts', rfl, hb⟩ := hsum.sound hrhs
      obtain ⟨hmem, htoken⟩ := compareOp?_eq_some hop
      refine ⟨.compare op hmem a b, ?_, rfl, Nat.max_le.mpr ⟨ha, hb⟩⟩
      simp [Derivation.tokens, hts, hts', htoken]
  case complete =>
    intro d ts r hm hts hr
    cases d with
    | sum a =>
      obtain ⟨rest, hrest, hy⟩ := hsum.complete a hm hts (hr.mono (by decide))
      refine ⟨rest, hrest, comparison_yields.mpr ⟨a.expr, rest, hy, .inl ⟨?_, rfl, rfl⟩⟩⟩
      rw [hrest]
      exact compareOp?_of_stops hr
    | compare op hop a b =>
      obtain ⟨ha, hb⟩ := Nat.max_le.mp hm
      rw [Derivation.tokens, List.append_assoc, List.cons_append] at hts
      obtain ⟨mid, hmid, hy⟩ := hsum.complete a ha hts (stops_comparison hop)
      obtain ⟨t, ts', rfl, ht, hts'⟩ := List.map_eq_cons_iff.mp hmid
      obtain ⟨rest, hrest, hy'⟩ := hsum.complete b hb hts' (hr.mono (by decide))
      refine ⟨rest, hrest, comparison_yields.mpr ⟨a.expr, _, hy, .inr ⟨t, ts', op, b.expr, rfl, ?_, hy', rfl⟩⟩⟩
      rw [ht]
      exact compareOp?_token hop

theorem disjunction_exact (h : Exact operand .unary m) : Exact (disjunction operand) (.level .or) m :=
  leftLevel_exact (l := .or) (leftLevel_exact (l := .and) (comparison_exact h))

end Levels

section Atoms

variable {m : Nat} (expression : String) {inner exponent next : Reader}

/-- The arguments of a call with one argument. -/
theorem arguments_one (h : Exact inner (.level .or) m) (a : Derivation (.level .or)) (ha : a.nesting ≤ m)
    {ts : List Token} {r : List TokenKind} (hts : ts.map Token.kind = a.tokens ++ .close :: r) :
    ∃ rest, rest.map Token.kind = r ∧ Yields (arguments expression inner ts) [a.expr] rest := by
  obtain ⟨mid, hmid, hy⟩ := h.complete a ha hts stops_close
  obtain ⟨c, rest, rfl, hc, hrest⟩ := List.map_eq_cons_iff.mp hmid
  refine ⟨rest, hrest, arguments_yields.mpr (.inr ⟨?_, a.expr, _, [], hy, ?_, rfl⟩)⟩
  · obtain ⟨k, ks, hk, hclose, -⟩ := a.head
    simpa [hts, hk] using hclose
  · exact moreArguments_yields.mpr (.inl ⟨c, rfl, hc, rfl⟩)

/-- The arguments of a call with two arguments. -/
theorem arguments_two (h : Exact inner (.level .or) m) (a b : Derivation (.level .or)) (ha : a.nesting ≤ m)
    (hb : b.nesting ≤ m) {ts : List Token} {r : List TokenKind}
    (hts : ts.map Token.kind = a.tokens ++ .comma :: (b.tokens ++ .close :: r)) :
    ∃ rest, rest.map Token.kind = r ∧ Yields (arguments expression inner ts) [a.expr, b.expr] rest := by
  obtain ⟨mid, hmid, hya⟩ := h.complete a ha hts stops_comma
  obtain ⟨c, ts', rfl, hc, hts'⟩ := List.map_eq_cons_iff.mp hmid
  obtain ⟨mid', hmid', hyb⟩ := h.complete b hb hts' stops_close
  obtain ⟨c', rest, rfl, hc', hrest⟩ := List.map_eq_cons_iff.mp hmid'
  refine ⟨rest, hrest, arguments_yields.mpr (.inr ⟨?_, a.expr, _, [b.expr], hya, ?_, rfl⟩)⟩
  · obtain ⟨k, ks, hk, hclose, -⟩ := a.head
    simpa [hts, hk] using hclose
  · refine moreArguments_yields.mpr (.inr ⟨c, ts', b.expr, _, [], rfl, hc, hyb, ?_, rfl⟩)
    exact moreArguments_yields.mpr (.inl ⟨c', rfl, hc', rfl⟩)

/-- A call that got the arguments its function takes is an atom. -/
theorem call_sound (h : Exact inner (.level .or) m) {f : Function} {as : List Expr} {e : Expr}
    {ts rest : List Token} (hy : Yields (arguments expression inner ts) as rest) (he : applied? f as = some e) :
    ∃ d : Derivation .atom,
      .name f.name :: .open :: ts.map Token.kind = d.tokens ++ rest.map Token.kind ∧ d.expr = e ∧ d.nesting ≤ m := by
  rcases arguments_yields.mp hy with ⟨c, rfl, hc, rfl⟩ | ⟨-, a, mid, as', ha, hmore, rfl⟩
  · cases f <;> cases he
  obtain ⟨da, hts, rfl, hda⟩ := h.sound ha
  rcases moreArguments_yields.mp hmore with ⟨c, rfl, hc, rfl⟩ | ⟨c, ts', b, mid', bs, rfl, hc, hb, hmore', rfl⟩
  · cases f with
    | two f => cases he
    | one f =>
      cases he
      exact ⟨.call1 f da, by simp [Derivation.tokens, hts, hc, Function.name], rfl, hda⟩
  obtain ⟨db, hts', rfl, hdb⟩ := h.sound hb
  rcases moreArguments_yields.mp hmore' with ⟨c', rfl, hc', rfl⟩ | ⟨c', ts'', b', mid'', bs', -, -, -, -, rfl⟩
  · cases f with
    | one f => cases he
    | two f =>
      cases he
      refine ⟨.call2 f da db, ?_, rfl, Nat.max_le.mpr ⟨hda, hdb⟩⟩
      simp [Derivation.tokens, hts, hts', hc, hc', Function.name]
  · cases f <;> cases he

theorem atom_sound (h : Exact inner (.level .or) m) {ts rest : List Token} {e : Expr}
    (hy : Yields (atom expression inner ts) e rest) :
    ∃ d : Derivation .atom, ts.map Token.kind = d.tokens ++ rest.map Token.kind ∧ d.expr = e ∧ d.nesting ≤ m := by
  match ts with
  | [] => exact absurd hy atom_nil
  | ⟨kind, start, stop⟩ :: ts =>
    rcases hy.atom_kind with ⟨x, hk⟩ | ⟨s, hk⟩ | ⟨s, hk⟩ | hk <;> cases hk
    · obtain ⟨rfl, rfl⟩ := atom_number.mp hy
      exact ⟨.number x, rfl, rfl, Nat.zero_le m⟩
    · obtain ⟨rfl, rfl⟩ := atom_text.mp hy
      exact ⟨.text s, rfl, rfl, Nat.zero_le m⟩
    · by_cases hopen : (ts.map Token.kind).head? = some .open
      · obtain ⟨ks, hts⟩ := List.head?_eq_some_iff.mp hopen
        obtain ⟨⟨kind, start', stop'⟩, args, rfl, rfl, -⟩ := List.map_eq_cons_iff.mp hts
        obtain ⟨f, as, hf, hargs, he⟩ := atom_call.mp hy
        cases name_of_named? hf
        exact call_sound expression h hargs he
      · obtain ⟨rfl, rfl⟩ := (atom_column hopen).mp hy
        exact ⟨.column s, rfl, rfl, Nat.zero_le m⟩
    · obtain ⟨c, hinner, hc⟩ := atom_group.mp hy
      obtain ⟨a, hts, rfl, ha⟩ := h.sound hinner
      exact ⟨.group a, by simp [Derivation.tokens, hts, hc], rfl, ha⟩

/-- An atom is read whole. Its first token says which atom it is; only a name is looked at further. -/
theorem atom_complete (h : Exact inner (.level .or) m) (d : Derivation .atom) {ts : List Token}
    {r : List TokenKind} (hm : d.nesting ≤ m) (hts : ts.map Token.kind = d.tokens ++ r) (hr : Phrase.atom.Stops r) :
    ∃ rest, rest.map Token.kind = r ∧ Yields (atom expression inner ts) d.expr rest := by
  match ts with
  | [] =>
    obtain ⟨k, ks, hk, -⟩ := d.head
    simp [hk] at hts
  | ⟨kind, start, stop⟩ :: ts =>
    cases d with
    | number x =>
      obtain ⟨rfl, htail⟩ := List.cons.inj hts
      exact ⟨ts, htail, atom_number.mpr ⟨rfl, rfl⟩⟩
    | text s =>
      obtain ⟨rfl, htail⟩ := List.cons.inj hts
      exact ⟨ts, htail, atom_text.mpr ⟨rfl, rfl⟩⟩
    | column name =>
      obtain ⟨rfl, htail⟩ : kind = .name name ∧ ts.map Token.kind = r := List.cons.inj hts
      refine ⟨ts, htail, (atom_column fun hopen => ?_).mpr ⟨rfl, rfl⟩⟩
      rw [htail] at hopen
      exact absurd (hr _ hopen) (by decide)
    | call1 f a =>
      obtain ⟨rfl, htail⟩ := List.cons.inj hts
      obtain ⟨⟨kind, start', stop'⟩, args, rfl, rfl, hargs⟩ := List.map_eq_cons_iff.mp htail
      obtain ⟨rest, hrest, hy⟩ := arguments_one expression h a hm (by simpa using hargs)
      exact ⟨rest, hrest, atom_call.mpr ⟨.one f, _, named?_name (.one f), hy, rfl⟩⟩
    | call2 f a b =>
      obtain ⟨ha, hb⟩ := Nat.max_le.mp hm
      obtain ⟨rfl, htail⟩ := List.cons.inj hts
      obtain ⟨⟨kind, start', stop'⟩, args, rfl, rfl, hargs⟩ := List.map_eq_cons_iff.mp htail
      obtain ⟨rest, hrest, hy⟩ := arguments_two expression h a b ha hb (by simpa using hargs)
      exact ⟨rest, hrest, atom_call.mpr ⟨.two f, _, named?_name (.two f), hy, rfl⟩⟩
    | group a =>
      obtain ⟨rfl, htail⟩ : kind = .open ∧ ts.map Token.kind = a.tokens ++ .close :: r := by
        simpa [Derivation.tokens] using hts
      obtain ⟨mid, hmid, hy⟩ := h.complete a hm htail stops_close
      obtain ⟨c, rest, rfl, hc, hrest⟩ := List.map_eq_cons_iff.mp hmid
      exact ⟨rest, hrest, atom_group.mpr ⟨c, hy, hc⟩⟩

theorem atom_exact (h : Exact inner (.level .or) m) : Exact (atom expression inner) .atom m :=
  ⟨atom_sound expression h, atom_complete expression h⟩

theorem power_exact (hi : Exact inner (.level .or) m) (he : Exact exponent .unary m) :
    Exact (power expression inner exponent) .power m := by
  have hatom : Exact (atom expression inner) .atom m := atom_exact expression hi
  constructor
  case sound =>
    intro ts rest e hy
    obtain ⟨base, mid, hbase, hy⟩ := power_yields.mp hy
    obtain ⟨a, hts, rfl, ha⟩ := hatom.sound hbase
    rcases hy with ⟨-, rfl, rfl⟩ | ⟨t, ts', b, rfl, ht, hb, rfl⟩
    · exact ⟨.base a, hts, rfl, ha⟩
    · obtain ⟨db, hts', rfl, hdb⟩ := he.sound hb
      exact ⟨.raised a db, by simp [Derivation.tokens, hts, hts', ht], rfl, Nat.max_le.mpr ⟨ha, hdb⟩⟩
  case complete =>
    intro d ts r hm hts hr
    cases d with
    | base a =>
      obtain ⟨rest, hrest, hy⟩ := hatom.complete a hm hts (hr.mono (by decide))
      refine ⟨rest, hrest, power_yields.mpr ⟨a.expr, rest, hy, .inl ⟨fun hpower => ?_, rfl, rfl⟩⟩⟩
      rw [hrest] at hpower
      exact absurd (hr _ hpower) (by decide)
    | raised a b =>
      obtain ⟨ha, hb⟩ := Nat.max_le.mp hm
      rw [Derivation.tokens, List.append_assoc, List.cons_append] at hts
      obtain ⟨mid, hmid, hya⟩ := hatom.complete a ha hts stops_power
      obtain ⟨t, ts', rfl, ht, hts'⟩ := List.map_eq_cons_iff.mp hmid
      obtain ⟨rest, hrest, hyb⟩ := he.complete b hb hts' (hr.mono (by decide))
      exact ⟨rest, hrest, power_yields.mpr ⟨a.expr, _, hya, .inr ⟨t, ts', b.expr, rfl, ht, hyb, rfl⟩⟩⟩

theorem prefixed_exact (h : Exact next .unary m) : Exact (prefixed expression next) .unary (m + 1) := by
  have hpower : Exact (power expression (disjunction next) next) .power m :=
    power_exact expression (disjunction_exact h) h
  constructor
  case sound =>
    intro ts rest e hy
    match ts with
    | [] => exact absurd hy prefixed_nil
    | t :: ts =>
      cases hop : unaryOp? t.kind with
      | none =>
        rw [prefixed_none hop] at hy
        obtain ⟨a, hts, he, ha⟩ := hpower.sound hy
        exact ⟨.unsigned a, hts, he, Nat.succ_le_succ ha⟩
      | some op =>
        obtain ⟨b, hb, rfl⟩ := (prefixed_some hop).mp hy
        obtain ⟨a, hts, rfl, ha⟩ := h.sound hb
        exact ⟨.signed op a, by simp [Derivation.tokens, hts, unaryOp?_eq_some hop], rfl, Nat.succ_le_succ ha⟩
  case complete =>
    intro d ts r hm hts hr
    match ts with
    | [] =>
      obtain ⟨k, ks, hk, -⟩ := d.head
      simp [hk] at hts
    | t :: ts =>
      cases d with
      | signed op a =>
        obtain ⟨ht, hts⟩ := List.cons.inj hts
        obtain ⟨rest, hrest, hy⟩ := h.complete a (Nat.le_of_succ_le_succ hm) hts hr
        exact ⟨rest, hrest, (prefixed_some (by rw [ht]; exact unaryOp?_token op)).mpr ⟨a.expr, hy, rfl⟩⟩
      | unsigned a =>
        obtain ⟨rest, hrest, hy⟩ := hpower.complete a (Nat.le_of_succ_le_succ hm) hts (hr.mono (by decide))
        refine ⟨rest, hrest, ?_⟩
        rw [prefixed_none]
        · exact hy
        · obtain ⟨k, ks, hk, -, hop⟩ := a.head
          simp only [Derivation.tokens, hk, List.map_cons, List.cons_append, List.cons.injEq] at hts
          rw [hts.1]
          exact hop (.inl rfl)

end Atoms

/-- Operands, by induction on how deep they may nest. With no depth left none is read, and there is none to read. -/
theorem operand_exact (expression : String) : ∀ m, Exact (operand expression m) .unary m
  | 0 => ⟨fun hy => absurd hy yields_error, fun d _ _ hm => by cases d <;> exact absurd hm (Nat.not_succ_le_zero _)⟩
  | m + 1 => prefixed_exact expression (operand_exact expression m)

end Expr

end NamedRows
