import Mathlib.Order.MinMax
import NamedRows.Proofs.Expr.Depth
import NamedRows.Proofs.Expr.Spelling

/-!
# Rendering and reading

The tokens of an expression derive it, as a phrase of its own sort and so as one of every looser sort (`Stands`,
`Expr.stands`). Of all the derivations of the expression theirs has the fewest parentheses and nests least
(`Derivation.within`). So a rendering reads as what it was made from, or else nests too deeply (`parse_renders`); and
what can be read at all is what has a rendering and does not nest too deeply (`exists_parse_iff`).
-/

namespace NamedRows

namespace Expr

/-! ## Sorts of phrases -/

namespace Phrase

/-- The sort that stands for a sort as it is. -/
def tighter : Phrase → Phrase
  | .atom => .atom
  | .power => .atom
  | .unary => .power
  | .level l => l.operand
  | .cmp => .level .add

theorem rank_tighter (p : Phrase) : p.tighter.rank = p.rank - 1 := by
  rcases p with (_ | _ | _ | _) | _ | _ | _ <;> rfl

theorem rank_injective {p q : Phrase} (h : p.rank = q.rank) : p = q := by
  rcases p with (_ | _ | _ | _) | _ | _ | _ <;> rcases q with (_ | _ | _ | _) | _ | _ | _ <;>
    first | rfl | exact absurd h (by decide)

theorem rank_le_or (p : Phrase) : p.rank ≤ (Phrase.level .or).rank := by
  rcases p with (_ | _ | _ | _) | _ | _ | _ <;> decide

/-- Atoms and powers stand inside a unary phrase that they do not count themselves. -/
def around : Phrase → Nat
  | .atom => 1
  | .power => 1
  | _ => 0

end Phrase

theorem rank_operand_le (l : Level) : l.operand.rank ≤ (Phrase.level l).rank := by
  cases l <;> decide

theorem around_operand (l : Level) : l.operand.around = 0 := by
  cases l <;> rfl

/-! ## Sorts of operators -/

section Operators

variable {op : BinaryOp}

theorem sorts_comparison (h : op ∈ comparisons) :
    op.phrase = .cmp ∧ op.left = .level .add ∧ op.right = .level .add ∧ op ≠ .pow := by
  cases op <;> first | exact ⟨rfl, rfl, rfl, by decide⟩ | simp [comparisons] at h

theorem sorts_operator {l : Level} (h : op ∈ l.operators) :
    op.phrase = .level l ∧ op.left = .level l ∧ op.right = l.operand ∧ op ≠ .pow := by
  cases l <;> cases op <;> first | exact ⟨rfl, rfl, rfl, by decide⟩ | simp [Level.operators] at h

/-- An operator raises to a power, compares, or is repeated on a level. -/
theorem operator_cases (op : BinaryOp) : op = .pow ∨ op ∈ comparisons ∨ ∃ l : Level, op ∈ l.operators := by
  cases op with
  | pow => exact .inl rfl
  | mul | div | rem => exact .inr (.inr ⟨.mul, by decide⟩)
  | add | sub => exact .inr (.inr ⟨.add, by decide⟩)
  | lt | le | gt | ge | eq | ne => exact .inr (.inl (by decide))
  | and => exact .inr (.inr ⟨.and, by decide⟩)
  | or => exact .inr (.inr ⟨.or, by decide⟩)

end Operators

/-! ## Repetitions that go on -/

namespace Repetition

variable {l : Level} {op : BinaryOp}

/-- A repetition with one more operator and operand at its end. -/
def snoc : {l : Level} → Repetition l → (op : BinaryOp) → op ∈ l.operators → Derivation l.operand → Repetition l
  | _, .done, op, h, a => .step op h a .done
  | _, .step op' hop b rest, op, h, a => .step op' hop b (rest.snoc op h a)

theorem tokens_snoc (h : op ∈ l.operators) (a : Derivation l.operand) :
    (d : Repetition l) → (d.snoc op h a).tokens = d.tokens ++ op.token :: a.tokens
  | .done => by simp [snoc, tokens]
  | .step _ _ _ rest => by simp [snoc, tokens, tokens_snoc h a rest]

theorem onto_snoc (h : op ∈ l.operators) (a : Derivation l.operand) :
    (d : Repetition l) → (lhs : Expr) → (d.snoc op h a).onto lhs = .binary op (d.onto lhs) a.expr
  | .done, _ => rfl
  | .step op' _ b rest, lhs => onto_snoc h a rest (.binary op' lhs b.expr)

theorem nesting_snoc (h : op ∈ l.operators) (a : Derivation l.operand) :
    (d : Repetition l) → (d.snoc op h a).nesting = max d.nesting a.nesting
  | .done => by simp [snoc, nesting]
  | .step _ _ _ rest => by simp [snoc, nesting, nesting_snoc h a rest, Nat.max_assoc]

end Repetition

/-! ## The tokens of an expression derive it -/

/-- Tokens derive an expression as a phrase of a sort, with as many unary phrases open at once, among them the one that
stands around an atom or a power. -/
def Stands (p : Phrase) (ts : List TokenKind) (e : Expr) (n : Nat) : Prop :=
  ∃ d : Derivation p, d.tokens = ts ∧ d.expr = e ∧ d.nesting + p.around = n

section Stands

variable {p q : Phrase} {ts us : List TokenKind} {e e' : Expr} {m n : Nat}

theorem Stands.of_tighter (h : Stands p.tighter ts e n) : Stands p ts e n := by
  obtain ⟨d, rfl, rfl, rfl⟩ := h
  cases p with
  | atom => exact ⟨d, rfl, rfl, rfl⟩
  | power => exact ⟨.base d, rfl, rfl, rfl⟩
  | unary => exact ⟨.unsigned d, rfl, rfl, rfl⟩
  | cmp => exact ⟨.sum d, rfl, rfl, rfl⟩
  | level l =>
    refine ⟨.level d .done, List.append_nil _, rfl, ?_⟩
    cases l <;> exact Nat.max_zero _

/-- A phrase of one sort is one of every looser sort, by induction on how loose that one is. -/
theorem Stands.loosen {q : Phrase} (h : p.rank ≤ q.rank) (hs : Stands p ts e n) : Stands q ts e n := by
  by_cases heq : p.rank = q.rank
  · rwa [← Phrase.rank_injective heq]
  · have hrank := q.rank_tighter
    have htighter : Stands q.tighter ts e n := hs.loosen (by omega)
    exact htighter.of_tighter
termination_by q.rank

/-- A phrase in parentheses is an atom, and has one more unary phrase around it. -/
theorem Stands.group (hs : Stands (.level .or) ts e n) : Stands .atom (.open :: (ts ++ [.close])) e (n + 1) := by
  obtain ⟨d, rfl, rfl, rfl⟩ := hs
  exact ⟨.group d, rfl, rfl, rfl⟩

/-- Any phrase stands where one of a sort is expected, in parentheses if need be. -/
theorem Stands.enclosed (p : Phrase) (hs : Stands q ts e n) : Stands p (enclosed p q ts) e (opened p q n) := by
  unfold Expr.enclosed opened
  split
  case isTrue h => exact hs.loosen h
  case isFalse => exact (hs.loosen q.rank_le_or).group.loosen (Nat.zero_le _)

theorem Stands.signed (op : UnaryOp) (hs : Stands .unary ts e n) :
    Stands .unary (op.token :: ts) (.unary op e) (n + 1) := by
  obtain ⟨d, rfl, rfl, rfl⟩ := hs
  exact ⟨.signed op d, rfl, rfl, rfl⟩

/-- Two phrases of the sorts that an operator expects make one of the sort that it makes. -/
theorem Stands.binary (op : BinaryOp) (hl : Stands op.left ts e m) (hr : Stands op.right us e' n) :
    Stands op.phrase (ts ++ op.token :: us) (.binary op e e') (max m (n + if op = .pow then 1 else 0)) := by
  rcases operator_cases op with rfl | hop | ⟨l, hop⟩
  · obtain ⟨a, rfl, rfl, rfl⟩ := hl
    obtain ⟨b, rfl, rfl, rfl⟩ := hr
    exact ⟨.raised a b, rfl, rfl, (Nat.add_max_add_right ..).symm⟩
  · obtain ⟨hphrase, hleft, hright, hpow⟩ := sorts_comparison hop
    rw [hleft] at hl
    rw [hright] at hr
    rw [hphrase, if_neg hpow]
    obtain ⟨a, rfl, rfl, rfl⟩ := hl
    obtain ⟨b, rfl, rfl, rfl⟩ := hr
    exact ⟨.compare op hop a b, rfl, rfl, rfl⟩
  · obtain ⟨hphrase, hleft, hright, hpow⟩ := sorts_operator hop
    rw [hleft] at hl
    rw [hright] at hr
    rw [hphrase, if_neg hpow]
    obtain ⟨⟨first, rest⟩, rfl, rfl, rfl⟩ := hl
    obtain ⟨b, rfl, rfl, rfl⟩ := hr
    refine ⟨.level first (rest.snoc op hop b), ?_, rest.onto_snoc hop b _, ?_⟩
    · rw [Derivation.tokens, rest.tokens_snoc, Derivation.tokens, List.append_assoc]
    · rw [Derivation.nesting, rest.nesting_snoc, Derivation.nesting, around_operand]
      exact (Nat.max_assoc ..).symm

theorem Stands.call1 (f : Function1) (hs : Stands (.level .or) ts e n) :
    Stands .atom (.name f.name :: .open :: (ts ++ [.close])) (.call1 f e) (n + 1) := by
  obtain ⟨d, rfl, rfl, rfl⟩ := hs
  exact ⟨.call1 f d, rfl, rfl, rfl⟩

theorem Stands.call2 (f : Function2) (hs : Stands (.level .or) ts e m) (hs' : Stands (.level .or) us e' n) :
    Stands .atom (.name f.name :: .open :: (ts ++ .comma :: (us ++ [.close]))) (.call2 f e e') (max m n + 1) := by
  obtain ⟨d, rfl, rfl, rfl⟩ := hs
  obtain ⟨d', rfl, rfl, rfl⟩ := hs'
  exact ⟨.call2 f d d', rfl, rfl, rfl⟩

end Stands

/-- The tokens of an expression derive it, as a phrase of its own sort. -/
theorem stands : (e : Expr) → Stands e.phrase e.tokens e e.levels
  | .number x => ⟨.number x, rfl, rfl, rfl⟩
  | .text s => ⟨.text s, rfl, rfl, rfl⟩
  | .column name => ⟨.column name, rfl, rfl, rfl⟩
  | .unary op e => (e.stands.enclosed .unary).signed op
  | .binary op l r => .binary op (l.stands.enclosed op.left) (r.stands.enclosed op.right)
  | .call1 f a => (a.stands.loosen a.phrase.rank_le_or).call1 f
  | .call2 f a b => .call2 f (a.stands.loosen a.phrase.rank_le_or) (b.stands.loosen b.phrase.rank_le_or)

/-- The tokens of an expression are derived from the loosest sort of phrases, and nest as its levels say. -/
theorem exists_derivation (e : Expr) :
    ∃ d : Derivation (.level .or), d.tokens = e.tokens ∧ d.expr = e ∧ d.nesting = e.levels :=
  e.stands.loosen e.phrase.rank_le_or

/-! ## No derivation has fewer -/

/-- Where a phrase of the sort `p` is expected, tokens that nest as deep as `n` hold those of the expression, and the
expression does not nest deeper. -/
structure Within (p : Phrase) (e : Expr) (ts : List TokenKind) (n : Nat) : Prop where
  tokens : (enclosed p e.phrase e.tokens).Sublist ts
  levels : opened p e.phrase e.levels ≤ n

section Within

variable {p q : Phrase} {ts us : List TokenKind} {e e' : Expr} {m n : Nat}

theorem enclosed_sublist_group (p q : Phrase) (ts : List TokenKind) :
    (enclosed p q ts).Sublist (.open :: (ts ++ [.close])) := by
  unfold enclosed
  split
  · exact (List.sublist_append_left ts [.close]).cons _
  · exact List.Sublist.refl _

theorem opened_le_succ (p q : Phrase) (n : Nat) : opened p q n ≤ n + 1 := by
  unfold opened
  split <;> omega

theorem Within.of_rank_le (h : e.phrase.rank ≤ p.rank) (hts : e.tokens.Sublist ts) (hn : e.levels ≤ n) :
    Within p e ts n where
  tokens := by rwa [enclosed, if_pos h]
  levels := by rwa [opened, if_pos h]

/-- Where a looser phrase is expected, there is no more need for parentheses. -/
theorem Within.loosen (h : p.rank ≤ q.rank) (hw : Within p e ts n) : Within q e ts n := by
  obtain ⟨hts, hn⟩ := hw
  by_cases hp : e.phrase.rank ≤ p.rank
  · rw [enclosed, if_pos hp] at hts
    rw [opened, if_pos hp] at hn
    exact .of_rank_le (Nat.le_trans hp h) hts hn
  · rw [enclosed, if_neg hp] at hts
    rw [opened, if_neg hp] at hn
    exact ⟨(enclosed_sublist_group q e.phrase e.tokens).trans hts,
      Nat.le_trans (opened_le_succ q e.phrase e.levels) hn⟩

/-- Nothing needs parentheses where the loosest phrase is expected. -/
theorem Within.of_or (hw : Within (.level .or) e ts n) : e.tokens.Sublist ts ∧ e.levels ≤ n := by
  obtain ⟨hts, hn⟩ := hw
  rw [enclosed, if_pos e.phrase.rank_le_or] at hts
  rw [opened, if_pos e.phrase.rank_le_or] at hn
  exact ⟨hts, hn⟩

theorem Within.group (hw : Within (.level .or) e ts n) : Within p e (.open :: (ts ++ [.close])) (n + 1) := by
  obtain ⟨hts, hn⟩ := hw.of_or
  exact ⟨(enclosed_sublist_group p e.phrase e.tokens).trans ((hts.append_right _).cons_cons _),
    Nat.le_trans (opened_le_succ p e.phrase e.levels) (Nat.succ_le_succ hn)⟩

theorem Within.binary (op : BinaryOp) (hl : Within op.left e ts m) (hr : Within op.right e' us n) :
    Within op.phrase (.binary op e e') (ts ++ op.token :: us) (max m (n + if op = .pow then 1 else 0)) := by
  refine .of_rank_le (Nat.le_refl _) (hl.tokens.append (hr.tokens.cons_cons _)) ?_
  exact max_le_max hl.levels (Nat.add_le_add_right hr.levels _)

end Within

mutual

/-- A phrase that derives an expression holds the tokens of the expression and nests as deep. -/
theorem Derivation.within : {p : Phrase} → (d : Derivation p) → Within p d.expr d.tokens (d.nesting + p.around)
  | _, .level (l := l) a d => by
    have ha := a.within.loosen (rank_operand_le l)
    rw [around_operand] at ha
    exact d.within ha
  | _, .sum a => a.within.loosen (by decide)
  | _, .compare op hop a b => by
    obtain ⟨hphrase, hleft, hright, hpow⟩ := sorts_comparison hop
    have hl : Within op.left a.expr a.tokens a.nesting := by
      rw [hleft]
      exact a.within
    have hr : Within op.right b.expr b.tokens b.nesting := by
      rw [hright]
      exact b.within
    have hw := hl.binary op hr
    rwa [hphrase, if_neg hpow] at hw
  | _, .signed op a => .of_rank_le (Nat.le_refl _) (a.within.tokens.cons_cons _) (Nat.succ_le_succ a.within.levels)
  | _, .unsigned a => a.within.loosen (by decide)
  | _, .base a => a.within.loosen (by decide)
  | _, .raised a b => by
    have hw := Within.binary .pow a.within b.within
    have hnesting : max (a.nesting + 1) (b.nesting + 1) = max a.nesting b.nesting + 1 := Nat.add_max_add_right ..
    exact ⟨hw.tokens, Nat.le_trans hw.levels (Nat.le_of_eq hnesting)⟩
  | _, .number x => .of_rank_le (Nat.le_refl _) (List.Sublist.refl _) (Nat.le_refl _)
  | _, .text s => .of_rank_le (Nat.le_refl _) (List.Sublist.refl _) (Nat.le_refl _)
  | _, .column name => .of_rank_le (Nat.le_refl _) (List.Sublist.refl _) (Nat.le_refl _)
  | _, .call1 f a => by
    obtain ⟨hts, hn⟩ := a.within.of_or
    exact .of_rank_le (Nat.le_refl _) (((hts.append_right _).cons_cons _).cons_cons _) (Nat.succ_le_succ hn)
  | _, .call2 f a b => by
    obtain ⟨hts, hn⟩ := a.within.of_or
    obtain ⟨hts', hn'⟩ := b.within.of_or
    have harguments := hts.append ((hts'.append_right [.close]).cons_cons .comma)
    exact .of_rank_le (Nat.le_refl _) ((harguments.cons_cons _).cons_cons _) (Nat.succ_le_succ (max_le_max hn hn'))
  | _, .group a => a.within.group

/-- What stands before a repetition is its first left operand, and with each operator becomes the next one. -/
theorem Repetition.within : {l : Level} → (d : Repetition l) → {lhs : Expr} → {ts : List TokenKind} → {n : Nat} →
    Within (.level l) lhs ts n → Within (.level l) (d.onto lhs) (ts ++ d.tokens) (max n d.nesting)
  | _, .done, _, _, _, hw => by simpa [Repetition.tokens, Repetition.nesting, Repetition.onto] using hw
  | l, .step op hop a d, lhs, ts, n, hw => by
    obtain ⟨hphrase, hleft, hright, hpow⟩ := sorts_operator hop
    have hl : Within op.left lhs ts n := by rwa [hleft]
    have hr : Within op.right a.expr a.tokens a.nesting := by
      have ha := a.within
      rw [around_operand] at ha
      rwa [hright]
    have hstep := hl.binary op hr
    rw [hphrase, if_neg hpow] at hstep
    simpa [Repetition.tokens, Repetition.nesting, Repetition.onto, Nat.max_assoc] using d.within hstep

end

/-! ## Reading what is rendered -/

variable {e : Expr} {text : String}

/-- A rendering is read as the expression, unless that has too many levels. -/
theorem Renders.parse_eq (h : e.Renders text) :
    parse text = if e.levels ≤ 100 then .ok e else .error (.malformed text .nestedTooDeeply) := by
  obtain ⟨ts, hscan, hts⟩ : ∃ ts, Token.scan text = .ok ts ∧ ts.map Token.kind = e.tokens :=
    Token.cuts_of_spaced h text 0
  obtain ⟨d, hd, hexpr, hnesting⟩ := e.exists_derivation
  have hread := ofTokens_eq text d (hts.trans hd.symm)
  rw [hexpr, hnesting] at hread
  rw [parse, hscan]
  exact hread

/-- What a text is read as has its tokens among those of the text, so they have spellings, and nests as deep at most. -/
theorem writable_of_parse (h : parse text = .ok e) : e.Writable ∧ e.levels ≤ 100 := by
  obtain ⟨ts, hscan, hread⟩ := bind_eq_ok.mp h
  obtain ⟨d, hd, rfl, hnesting⟩ := ofTokens_iff_derives.mp hread
  obtain ⟨htokens, hlevels⟩ := d.within.of_or
  refine ⟨.of_spelling fun k hk => ?_, Nat.le_trans hlevels hnesting⟩
  have hmem := htokens.subset hk
  rw [hd] at hmem
  obtain ⟨t, ht, rfl⟩ := List.mem_map.mp hmem
  exact Token.spelling_of_scan hscan t ht

/-- The expressions that some text is read as. -/
theorem exists_parse_iff : (∃ text, parse text = .ok e) ↔ e.Writable ∧ e.levels ≤ 100 := by
  constructor
  · rintro ⟨text, h⟩
    exact writable_of_parse h
  · rintro ⟨he, hlevels⟩
    obtain ⟨text, htext⟩ := he.exists_renders
    exact ⟨text, htext.parse_eq.trans (if_pos hlevels)⟩

/-- Rendering and reading are inverse. A writable expression has a rendering. Its tokens derive it, with as many unary
phrases open at once as the expression has levels; they are among the tokens of every derivation of the expression, none
of which nests less. Whatever the spelling, a rendering is read as the expression if that has 100 levels at most, and is
rejected for its nesting otherwise. -/
theorem parse_renders (he : e.Writable) :
    (∃ text, e.Renders text) ∧
      (∃ d : Derivation (.level .or), d.tokens = e.tokens ∧ d.expr = e ∧ d.nesting = e.levels) ∧
      (∀ d : Derivation (.level .or), d.expr = e → e.tokens.Sublist d.tokens ∧ e.levels ≤ d.nesting) ∧
      ∀ text, e.Renders text →
        parse text = if e.levels ≤ 100 then .ok e else .error (.malformed text .nestedTooDeeply) := by
  refine ⟨he.exists_renders, e.exists_derivation, ?_, fun text => Renders.parse_eq⟩
  rintro d rfl
  exact d.within.of_or

/-- A difference needs parentheses after a minus and before a power; an exponent with a sign needs none. -/
theorem parse_renders_difference :
    let e := Expr.binary .lt
      (.binary .pow (.binary .sub (.column "a") (.binary .sub (.column "b") (.number (.ofBits 0x3FF8000000000000))))
        (.unary .neg (.column "c")))
      (.text "it's")
    e.Writable ∧ e.Renders "( a - ( b - 1.5 ) ) ** - c < \"it's\"" ∧
      parse "( a - ( b - 1.5 ) ) ** - c < \"it's\"" = .ok e := by
  intro e
  have hnumber : (TokenKind.number (.ofBits 0x3FF8000000000000)).Spelling "1.5" :=
    ⟨'1', ['.', '5'], rfl, .inl rfl, rfl, by rfl⟩
  have hname {s : String} (hs : Token.isName s = true) : (TokenKind.name s).Spelling s := ⟨rfl, hs⟩
  have htext : (TokenKind.text "it's").Spelling "\"it's\"" := ⟨'"', .inr rfl, by decide, rfl⟩
  have hwritable : e.Writable := ⟨⟨⟨rfl, rfl, _, hnumber⟩, rfl⟩, .inr (by decide)⟩
  have hinner := TokenKind.Spaced.cons (k := .open) rfl (.cons (hname (s := "b") rfl) (.cons (k := .minus) rfl
    (.cons hnumber (.cons (k := .close) rfl (.cons (k := .close) rfl (.cons (k := .power) rfl (.cons (k := .minus) rfl
      (.cons (hname (s := "c") rfl) (.cons (k := .lt) rfl (.last htext))))))))))
  have hrenders : e.Renders "( a - ( b - 1.5 ) ) ** - c < \"it's\"" :=
    .cons (k := .open) rfl (.cons (hname (s := "a") rfl) (.cons (k := .minus) rfl hinner))
  refine ⟨hwritable, hrenders, ?_⟩
  rw [(parse_renders hwritable).2.2.2 _ hrenders]
  rfl

end Expr

end NamedRows
