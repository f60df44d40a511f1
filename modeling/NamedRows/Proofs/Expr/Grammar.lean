import NamedRows.Proofs.Expr.Phrases

/-!
# Expressions and their grammar

The reader of expressions accepts exactly what the grammar derives (`ofTokens_iff_derives`). Because readers are
functions, where a phrase ends is determined (`Derivation.tokens_unique`), and so, phrase by phrase, is the whole
derivation (`Derivation.unique`). Where phrases end also settles which names are called (`Derivation.names_eq`) and
that two comparing operators never have just a sum between them (`not_chained`).
-/

namespace NamedRows

theorem UnaryOp.token_injective {op op' : UnaryOp} (h : op.token = op'.token) : op = op' := by
  cases op <;> cases op' <;> first | rfl | cases h

theorem BinaryOp.token_injective {op op' : BinaryOp} (h : op.token = op'.token) : op = op' := by
  cases op <;> cases op' <;> first | rfl | cases h

theorem Function.name_injective {f g : Function} (h : f.name = g.name) : f = g := by
  have hfg : Function.named? f.name = Function.named? g.name := congrArg Function.named? h
  rw [Expr.named?_name, Expr.named?_name] at hfg
  exact Option.some.inj hfg

namespace Expr

/-- There is a reader for each sort of phrases. -/
theorem exists_exact (p : Phrase) (m : Nat) : ∃ read, Exact read p m := by
  have hunary : Exact (operand "" m) .unary m := operand_exact "" m
  have hmul := leftLevel_exact (l := .mul) hunary
  have hcmp := comparison_exact hunary
  have hor := disjunction_exact hunary
  match p with
  | .atom => exact ⟨_, atom_exact "" hor⟩
  | .power => exact ⟨_, power_exact "" hor hunary⟩
  | .unary => exact ⟨_, hunary⟩
  | .level .mul => exact ⟨_, hmul⟩
  | .level .add => exact ⟨_, leftLevel_exact (l := .add) hmul⟩
  | .cmp => exact ⟨_, hcmp⟩
  | .level .and => exact ⟨_, leftLevel_exact (l := .and) hcmp⟩
  | .level .or => exact ⟨_, hor⟩

/-- Where a phrase ends is determined, if it cannot go on with what follows. -/
theorem Derivation.tokens_unique {p : Phrase} (d d' : Derivation p) {r r' : List TokenKind} (hr : p.Stops r)
    (hr' : p.Stops r') (h : d.tokens ++ r = d'.tokens ++ r') : d.tokens = d'.tokens ∧ r = r' := by
  obtain ⟨read, hread⟩ := exists_exact p (max d.nesting d'.nesting)
  have hts : ((d.tokens ++ r).map fun k => (⟨k, 0, 0⟩ : Token)).map Token.kind = d.tokens ++ r := by
    simp [Function.comp_def]
  obtain ⟨rest, rfl, hy⟩ := hread.complete d (Nat.le_max_left ..) hts hr
  obtain ⟨rest', rfl, hy'⟩ := hread.complete d' (Nat.le_max_right ..) (hts.trans h) hr'
  obtain ⟨-, rfl⟩ := hy.unique hy'
  exact ⟨List.append_cancel_right h, rfl⟩

/-- A power does not start with an operator. -/
theorem Derivation.tokens_ne_signed (d : Derivation .power) (op : UnaryOp) (ts : List TokenKind) :
    d.tokens ≠ op.token :: ts := by
  obtain ⟨k, ks, hk, -, hop⟩ := d.head
  rw [hk]
  rintro ⟨⟩
  cases (hop (.inl rfl)).symm.trans (unaryOp?_token op)

mutual

/-- Tokens have one derivation of each sort. In each case where the first parts end is determined, so they have the same
tokens, and so have the parts after them. -/
theorem Derivation.unique : {p : Phrase} → (d d' : Derivation p) → d.tokens = d'.tokens → d = d'
  | _, .level a d, .level a' d', h => by
    obtain ⟨ha, hd⟩ := a.tokens_unique a' (by simpa using d.stops (Phrase.stops_nil _))
      (by simpa using d'.stops (Phrase.stops_nil _)) h
    rw [a.unique a' ha, d.unique d' hd]
  | _, .sum a, .sum a', h => by rw [a.unique a' h]
  | _, .sum a, .compare op hop b c, h => by
    have := (a.tokens_unique b (Phrase.stops_nil _) (stops_comparison hop) ((List.append_nil _).trans h)).2
    cases this
  | _, .compare op hop b c, .sum a, h => by
    have := (b.tokens_unique a (stops_comparison hop) (Phrase.stops_nil _) (h.trans (List.append_nil _).symm)).2
    cases this
  | _, .compare op hop a b, .compare op' hop' a' b', h => by
    obtain ⟨ha, hopb⟩ := a.tokens_unique a' (stops_comparison hop) (stops_comparison hop') h
    obtain ⟨hops, hb⟩ := List.cons.inj hopb
    cases BinaryOp.token_injective hops
    rw [a.unique a' ha, b.unique b' hb]
  | _, .signed op a, .signed op' a', h => by
    obtain ⟨hops, ha⟩ := List.cons.inj h
    cases UnaryOp.token_injective hops
    rw [a.unique a' ha]
  | _, .signed op a, .unsigned b, h => absurd h.symm (b.tokens_ne_signed op a.tokens)
  | _, .unsigned b, .signed op a, h => absurd h (b.tokens_ne_signed op a.tokens)
  | _, .unsigned a, .unsigned a', h => by rw [a.unique a' h]
  | _, .base a, .base a', h => by rw [a.unique a' h]
  | _, .base a, .raised b c, h => by
    have := (a.tokens_unique b (Phrase.stops_nil _) stops_power ((List.append_nil _).trans h)).2
    cases this
  | _, .raised b c, .base a, h => by
    have := (b.tokens_unique a stops_power (Phrase.stops_nil _) (h.trans (List.append_nil _).symm)).2
    cases this
  | _, .raised a b, .raised a' b', h => by
    obtain ⟨ha, hb⟩ := a.tokens_unique a' stops_power stops_power h
    rw [a.unique a' ha, b.unique b' (List.cons.inj hb).2]
  | _, .number x, d', h => by
    cases d' <;> simp [Derivation.tokens] at h
    rw [h]
  | _, .text s, d', h => by
    cases d' <;> simp [Derivation.tokens] at h
    rw [h]
  | _, .column name, d', h => by
    cases d' <;> simp [Derivation.tokens] at h
    rw [h]
  | _, .call1 f a, d', h => by
    cases d' <;> simp [Derivation.tokens] at h
    case call1 g b =>
      cases Function.name_injective (f := .one f) (g := .one g) h.1
      rw [a.unique b h.2]
    case call2 g b c => cases Function.name_injective (f := .one f) (g := .two g) h.1
  | _, .call2 f a b, d', h => by
    cases d' <;> simp [Derivation.tokens] at h
    case call1 g c => cases Function.name_injective (f := .two f) (g := .one g) h.1
    case call2 g a' b' =>
      cases Function.name_injective (f := .two f) (g := .two g) h.1
      obtain ⟨ha, hb⟩ := a.tokens_unique a' stops_comma stops_comma h.2
      have hb := List.append_cancel_right (List.cons.inj hb).2
      rw [a.unique a' ha, b.unique b' hb]
  | _, .group a, d', h => by
    cases d' <;> simp [Derivation.tokens] at h
    rw [a.unique _ h]

theorem Repetition.unique : {l : Level} → (d d' : Repetition l) → d.tokens = d'.tokens → d = d'
  | _, .done, .done, _ => rfl
  | _, .done, .step .., h => nomatch h
  | _, .step .., .done, h => nomatch h
  | _, .step op hop a d, .step op' hop' a' d', h => by
    obtain ⟨hops, had⟩ := List.cons.inj h
    obtain ⟨ha, hd⟩ := a.tokens_unique a' (by simpa using d.stops (Phrase.stops_nil _))
      (by simpa using d'.stops (Phrase.stops_nil _)) had
    cases BinaryOp.token_injective hops
    rw [a.unique a' ha, d.unique d' hd]

end

/-- The reader accepts exactly what the grammar derives. -/
theorem ofTokens_iff_derives {expression : String} {ts : List Token} {e : Expr} :
    ofTokens expression ts = .ok e ↔ Derives (ts.map Token.kind) e := by
  have hread := disjunction_exact (operand_exact expression maxDepth)
  rw [ofTokens_eq_ok]
  constructor
  · intro hy
    obtain ⟨d, hts, he, hm⟩ := hread.sound hy
    exact ⟨d, by simpa using hts.symm, he, hm⟩
  · rintro ⟨d, hts, rfl, hm⟩
    have hkinds : ts.map Token.kind = d.tokens ++ [] := by rw [hts, List.append_nil]
    obtain ⟨rest, hrest, hy⟩ := hread.complete d hm hkinds (Phrase.stops_nil _)
    cases List.map_eq_nil_iff.mp hrest
    exact hy

/-! ## Called names -/

theorem namesOpened_token (op : BinaryOp) (ts : List TokenKind) :
    namesOpened (op.token :: ts) = namesOpened ts := by
  cases op <;> rfl

theorem namesOpened_sign (op : UnaryOp) (ts : List TokenKind) : namesOpened (op.token :: ts) = namesOpened ts := by
  cases op <;> rfl

mutual

/-- The names in a phrase are those among its tokens, called where a parenthesis opens after them. What follows the phrase
has to be kept in sight, since it may decide about the last name. -/
theorem Derivation.namesOpened_append : {p : Phrase} → (d : Derivation p) → {r : List TokenKind} → p.Stops r →
    namesOpened (d.tokens ++ r) = d.names ++ namesOpened r
  | _, .level a d, r, hr => by
    rw [Derivation.tokens, List.append_assoc, a.namesOpened_append (d.stops hr), d.namesOpened_append hr,
      Derivation.names, List.append_assoc]
  | _, .sum a, r, hr => a.namesOpened_append (hr.mono (by decide))
  | _, .compare op hop a b, r, hr => by
    rw [Derivation.tokens, List.append_assoc, List.cons_append, a.namesOpened_append (stops_comparison hop),
      namesOpened_token, b.namesOpened_append (hr.mono (by decide)), Derivation.names, List.append_assoc]
  | _, .signed op a, r, hr => by
    rw [Derivation.tokens, List.cons_append, namesOpened_sign, a.namesOpened_append hr, Derivation.names]
  | _, .unsigned a, r, hr => a.namesOpened_append (hr.mono (by decide))
  | _, .base a, r, hr => a.namesOpened_append (hr.mono (by decide))
  | _, .raised a b, r, hr => by
    rw [Derivation.tokens, List.append_assoc, List.cons_append, a.namesOpened_append stops_power, namesOpened,
      b.namesOpened_append (hr.mono (by decide)), Derivation.names, List.append_assoc]
    simp
  | _, .number x, r, _ => rfl
  | _, .text s, r, _ => rfl
  | _, .column name, r, hr => by
    have hopen : r.head? ≠ some .open := fun h => absurd (hr _ h) (by decide)
    simp [Derivation.tokens, Derivation.names, namesOpened, hopen]
  | _, .call1 f a, r, _ => by
    have ha := a.namesOpened_append (r := .close :: r) stops_close
    simpa [Derivation.tokens, Derivation.names, namesOpened] using ha
  | _, .call2 f a b, r, _ => by
    have ha := a.namesOpened_append (r := .comma :: (b.tokens ++ .close :: r)) stops_comma
    have hb := b.namesOpened_append (r := .close :: r) stops_close
    simp [Derivation.tokens, Derivation.names, namesOpened, ha, hb]
  | _, .group a, r, _ => by
    have ha := a.namesOpened_append (r := .close :: r) stops_close
    simpa [Derivation.tokens, Derivation.names, namesOpened] using ha

theorem Repetition.namesOpened_append : {l : Level} → (d : Repetition l) → {r : List TokenKind} →
    (Phrase.level l).Stops r → namesOpened (d.tokens ++ r) = d.names ++ namesOpened r
  | _, .done, r, _ => rfl
  | _, .step op hop a d, r, hr => by
    rw [Repetition.tokens, List.cons_append, List.append_assoc, namesOpened_token, a.namesOpened_append (d.stops hr),
      d.namesOpened_append hr, Repetition.names, List.append_assoc]

end

theorem Derivation.names_eq {p : Phrase} (d : Derivation p) : d.names = namesOpened d.tokens := by
  have h := d.namesOpened_append (Phrase.stops_nil p)
  rw [List.append_nil, namesOpened, List.append_nil] at h
  exact h.symm

/-! ## Chained comparisons -/

section Splits

variable {k l : TokenKind} {xs ys zs ts : List TokenKind}

/-- A token of two lists put together is in the first or in the second. -/
theorem append_split (h : xs ++ ys = zs ++ k :: ts) :
    (∃ us, xs = zs ++ k :: us ∧ ts = us ++ ys) ∨ ∃ vs, ys = vs ++ k :: ts := by
  rcases List.append_eq_append_iff.mp h with ⟨vs, rfl, hys⟩ | ⟨us, rfl, hts⟩
  · exact .inr ⟨vs, hys⟩
  · cases us with
    | nil => exact .inr ⟨[], hts.symm⟩
    | cons u us =>
      obtain ⟨rfl, rfl⟩ := List.cons.inj hts
      exact .inl ⟨us, rfl, rfl⟩

/-- A comparing token is not at the head of a list that starts with another token. -/
theorem cons_split (hl : compareOp? l = none) (hk : compareOp? k ≠ none) (h : l :: ys = zs ++ k :: ts) :
    ∃ vs, ys = vs ++ k :: ts := by
  cases zs with
  | nil => exact absurd ((List.cons.inj h).1 ▸ hl) hk
  | cons z zs => exact ⟨zs, (List.cons.inj h).2⟩

theorem singleton_split (hl : compareOp? l = none) (hk : compareOp? k ≠ none) : [l] ≠ zs ++ k :: ts := by
  intro h
  obtain ⟨vs, hvs⟩ := cons_split hl hk h
  cases vs <;> cases hvs

end Splits

theorem compareOp?_sign (op : UnaryOp) : compareOp? op.token = none := by
  cases op <;> rfl

theorem compareOp?_operator {l : Level} {op : BinaryOp} (h : op ∈ l.operators) : compareOp? op.token = none := by
  cases l <;> cases op <;> first | rfl | simp [Level.operators] at h

/-- The tokens start with a sum, and then comes no comparing token. -/
def Compared (ts : List TokenKind) : Prop :=
  ∃ (b : Derivation (.level .add)) (r : List TokenKind), ts = b.tokens ++ r ∧ Phrase.cmp.Stops r

mutual

/-- After a comparing token in a phrase comes a sum and then no comparing token, neither in the phrase nor among the
tokens that follow it. The token is that of a comparison somewhere in the phrase; all other cases look for it in the
parts. -/
theorem Derivation.compared {k : TokenKind} (hk : compareOp? k ≠ none) : {p : Phrase} → (d : Derivation p) →
    {zs ts r : List TokenKind} → p.Stops r → d.tokens = zs ++ k :: ts → Compared (ts ++ r)
  | _, .level a d, zs, ts, r, hr, h => by
    rcases append_split h with ⟨us, ha, rfl⟩ | ⟨vs, hd⟩
    · rw [List.append_assoc]
      exact a.compared hk (d.stops hr) ha
    · exact d.compared hk hr hd
  | _, .sum a, _, _, _, hr, h => a.compared hk (hr.mono (by decide)) h
  | _, .compare op hop a b, zs, ts, r, hr, h => by
    rcases append_split h with ⟨us, ha, rfl⟩ | ⟨vs, hb⟩
    · rw [List.append_assoc, List.cons_append]
      exact a.compared hk (stops_comparison hop) ha
    · cases vs with
      | nil => exact ⟨b, r, by rw [(List.cons.inj hb).2], hr⟩
      | cons v vs => exact b.compared hk (hr.mono (by decide)) (List.cons.inj hb).2
  | _, .signed op a, zs, ts, r, hr, h => by
    obtain ⟨vs, ha⟩ := cons_split (compareOp?_sign op) hk h
    exact a.compared hk hr ha
  | _, .unsigned a, _, _, _, hr, h => a.compared hk (hr.mono (by decide)) h
  | _, .base a, _, _, _, hr, h => a.compared hk (hr.mono (by decide)) h
  | _, .raised a b, zs, ts, r, hr, h => by
    rcases append_split h with ⟨us, ha, rfl⟩ | ⟨vs, hb⟩
    · rw [List.append_assoc, List.cons_append]
      exact a.compared hk stops_power ha
    · obtain ⟨vs, hb⟩ := cons_split rfl hk hb
      exact b.compared hk (hr.mono (by decide)) hb
  | _, .number x, _, _, _, _, h => absurd h (singleton_split rfl hk)
  | _, .text s, _, _, _, _, h => absurd h (singleton_split rfl hk)
  | _, .column name, _, _, _, _, h => absurd h (singleton_split rfl hk)
  | _, .call1 f a, zs, ts, r, _, h => by
    obtain ⟨vs, hopen⟩ := cons_split rfl hk h
    obtain ⟨vs, hargs⟩ := cons_split rfl hk hopen
    rcases append_split hargs with ⟨us, ha, rfl⟩ | ⟨vs, hclose⟩
    · rw [List.append_assoc]
      exact a.compared hk stops_close ha
    · exact absurd hclose (singleton_split rfl hk)
  | _, .call2 f a b, zs, ts, r, _, h => by
    obtain ⟨vs, hopen⟩ := cons_split rfl hk h
    obtain ⟨vs, hargs⟩ := cons_split rfl hk hopen
    rcases append_split hargs with ⟨us, ha, rfl⟩ | ⟨vs, hcomma⟩
    · rw [List.append_assoc]
      exact a.compared hk stops_comma ha
    · obtain ⟨vs, hrest⟩ := cons_split rfl hk hcomma
      rcases append_split hrest with ⟨us, hb, rfl⟩ | ⟨vs, hclose⟩
      · rw [List.append_assoc]
        exact b.compared hk stops_close hb
      · exact absurd hclose (singleton_split rfl hk)
  | _, .group a, zs, ts, r, _, h => by
    obtain ⟨vs, hopen⟩ := cons_split rfl hk h
    rcases append_split hopen with ⟨us, ha, rfl⟩ | ⟨vs, hclose⟩
    · rw [List.append_assoc]
      exact a.compared hk stops_close ha
    · exact absurd hclose (singleton_split rfl hk)

theorem Repetition.compared {k : TokenKind} (hk : compareOp? k ≠ none) : {l : Level} → (d : Repetition l) →
    {zs ts r : List TokenKind} → (Phrase.level l).Stops r → d.tokens = zs ++ k :: ts → Compared (ts ++ r)
  | _, .done, zs, _, _, _, h => by cases zs <;> cases h
  | _, .step op hop a d, zs, ts, r, hr, h => by
    obtain ⟨vs, had⟩ := cons_split (compareOp?_operator hop) hk h
    rcases append_split had with ⟨us, ha, rfl⟩ | ⟨vs, hd⟩
    · rw [List.append_assoc]
      exact a.compared hk (d.stops hr) ha
    · exact d.compared hk hr hd

end

/-- Nowhere in an expression do two comparing operators have just a sum between them. -/
theorem not_chained (d : Derivation (.level .or)) {b : Derivation (.level .add)} {op op' : BinaryOp}
    (hop : op ∈ comparisons) (hop' : op' ∈ comparisons) (xs ys : List TokenKind) :
    d.tokens ≠ xs ++ op.token :: (b.tokens ++ op'.token :: ys) := by
  intro h
  have hk : compareOp? op.token ≠ none := by rw [compareOp?_token hop]; simp
  obtain ⟨b', r, hts, hr⟩ := d.compared hk (Phrase.stops_nil _) h
  rw [List.append_nil] at hts
  obtain ⟨-, rfl⟩ := b.tokens_unique b' (stops_comparison hop') (hr.mono (by decide)) hts
  exact not_stops_comparison hop' ys hr

/-- Reading expressions is what their grammar says. The reader gives an expression exactly when the tokens derive it,
which they do in one way only; a name is called exactly when a parenthesis opens right after it; and comparisons do not
chain, wherever in the expression. -/
theorem reader_matches_grammar :
    (∀ (expression : String) (ts : List Token) (e : Expr),
        ofTokens expression ts = .ok e ↔ Derives (ts.map Token.kind) e) ∧
      (∀ (p : Phrase) (d d' : Derivation p), d.tokens = d'.tokens → d = d') ∧
      (∀ (p : Phrase) (d : Derivation p), d.names = namesOpened d.tokens) ∧
      ∀ (b : Derivation (.level .add)), ∀ op ∈ comparisons, ∀ op' ∈ comparisons, ∀ xs ys e,
        ¬ Derives (xs ++ op.token :: (b.tokens ++ op'.token :: ys)) e :=
  ⟨fun _ _ _ => ofTokens_iff_derives, fun _ => Derivation.unique, fun _ => Derivation.names_eq,
    fun _ _ hop _ hop' xs ys _ ⟨d, hts, _⟩ => not_chained d hop hop' xs ys hts⟩

end Expr

end NamedRows
