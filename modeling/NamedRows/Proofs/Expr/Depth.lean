import NamedRows.Proofs.Expr.Grammar

/-!
# Expressions that nest too deeply

A reader gives up where more operands are open at once than it allows. One that allows more returns the same wherever
that one has not given up (`Deepens`, `operand_deepens`). So what the grammar derives is read, or else rejected for its
nesting and for nothing else (`ofTokens_of_derivation`), and the nesting of its derivation tells which (`ofTokens_eq`).
-/

namespace NamedRows.Expr

/-- The second result is the first one, unless that is a rejection for too deep nesting. -/
def Deepens {α : Type} (expression : String) (x x' : Except Error α) : Prop :=
  x = .error (.malformed expression .nestedTooDeeply) ∨ x' = x

section Readers

variable {expression : String} {r r' : Reader}

theorem foldOperators_deepens (op? : TokenKind → Option BinaryOp) (h : ∀ ts, Deepens expression (r ts) (r' ts))
    (lhs : Expr) (ts : List Token) :
    Deepens expression (foldOperators op? r lhs ts) (foldOperators op? r' lhs ts) := by
  match ts with
  | [] => exact .inr (by rw [foldOperators, foldOperators])
  | t :: rest =>
    rw [foldOperators, foldOperators]
    cases op? t.kind with
    | none => exact .inr rfl
    | some op =>
      rcases h rest with hd | hr
      · exact .inl (by simp only [hd])
      · rw [hr]
        cases r rest with
        | error e => exact .inr rfl
        | ok a =>
          obtain ⟨rhs, rest', hlt⟩ := a
          rcases foldOperators_deepens op? h (.binary op lhs rhs) rest' with hd | hr'
          · exact .inl (by simp only [hd])
          · exact .inr (by simp only [hr'])
termination_by ts.length
decreasing_by simp only [List.length_cons]; omega

theorem leftLevel_deepens (op? : TokenKind → Option BinaryOp) (h : ∀ ts, Deepens expression (r ts) (r' ts))
    (ts : List Token) :
    Deepens expression (leftLevel op? r ts) (leftLevel op? r' ts) := by
  unfold leftLevel
  rcases h ts with hd | hr
  · exact .inl (by rw [hd])
  · rw [hr]
    cases r ts with
    | error e => exact .inr rfl
    | ok a =>
      obtain ⟨lhs, rest, hlt⟩ := a
      rcases foldOperators_deepens op? h lhs rest with hd | hr'
      · exact .inl (by simp only [hd])
      · exact .inr (by simp only [hr'])

theorem comparison_deepens (h : ∀ ts, Deepens expression (r ts) (r' ts)) (ts : List Token) :
    Deepens expression (comparison r ts) (comparison r' ts) := by
  have hsum (ts : List Token) : Deepens expression (leftLevel addOp? (leftLevel mulOp? r) ts)
      (leftLevel addOp? (leftLevel mulOp? r') ts) :=
    leftLevel_deepens addOp? (leftLevel_deepens mulOp? h) ts
  unfold comparison
  dsimp only
  rcases hsum ts with hd | hr
  · exact .inl (by rw [hd])
  · rw [hr]
    cases leftLevel addOp? (leftLevel mulOp? r) ts with
    | error e => exact .inr rfl
    | ok a =>
      obtain ⟨lhs, rest, hlt⟩ := a
      cases rest with
      | nil => exact .inr rfl
      | cons t rest =>
        dsimp only
        cases compareOp? t.kind with
        | none => exact .inr rfl
        | some op =>
          rcases hsum rest with hd | hr'
          · exact .inl (by simp only [hd])
          · exact .inr (by simp only [hr'])

theorem disjunction_deepens (h : ∀ ts, Deepens expression (r ts) (r' ts)) (ts : List Token) :
    Deepens expression (disjunction r ts) (disjunction r' ts) :=
  leftLevel_deepens orOp? (leftLevel_deepens andOp? (comparison_deepens h)) ts

theorem moreArguments_deepens (h : ∀ ts, Deepens expression (r ts) (r' ts)) (ts : List Token) :
    Deepens expression (moreArguments expression r ts) (moreArguments expression r' ts) := by
  match ts with
  | [] => exact .inr (by rw [moreArguments, moreArguments])
  | t :: rest =>
    rw [moreArguments, moreArguments]
    split
    · rcases h rest with hd | hr
      · exact .inl (by simp only [hd])
      · rw [hr]
        cases r rest with
        | error e => exact .inr rfl
        | ok a =>
          obtain ⟨a, rest', hlt⟩ := a
          rcases moreArguments_deepens h rest' with hd | hr'
          · exact .inl (by simp only [hd])
          · exact .inr (by simp only [hr'])
    · exact .inr rfl
termination_by ts.length
decreasing_by simp only [List.length_cons]; omega

theorem arguments_deepens (h : ∀ ts, Deepens expression (r ts) (r' ts)) (ts : List Token) :
    Deepens expression (arguments expression r ts) (arguments expression r' ts) := by
  unfold arguments
  split
  · exact .inr rfl
  · rcases h ts with hd | hr
    · exact .inl (by rw [hd])
    · rw [hr]
      cases r ts with
      | error e => exact .inr rfl
      | ok a =>
        obtain ⟨a, rest, hlt⟩ := a
        rcases moreArguments_deepens h rest with hd | hr'
        · exact .inl (by simp only [hd])
        · exact .inr (by simp only [hr'])

theorem atom_deepens (h : ∀ ts, Deepens expression (r ts) (r' ts)) (ts : List Token) :
    Deepens expression (atom expression r ts) (atom expression r' ts) := by
  match ts with
  | [] => exact .inr rfl
  | ⟨kind, start, stop⟩ :: rest =>
    cases kind with
    | «open» =>
      simp only [atom]
      rcases h rest with hd | hr
      · exact .inl (by rw [hd])
      · exact .inr (by rw [hr])
    | name s =>
      simp only [atom]
      split
      · rename_i args
        cases Function.named? s with
        | none => exact .inr rfl
        | some f =>
          rcases arguments_deepens h args with hd | hr
          · exact .inl (by simp only [hd])
          · exact .inr (by simp only [hr])
      · exact .inr rfl
    | _ => exact .inr rfl

theorem power_deepens {i i' : Reader} (hi : ∀ ts, Deepens expression (i ts) (i' ts))
    (h : ∀ ts, Deepens expression (r ts) (r' ts)) (ts : List Token) :
    Deepens expression (power expression i r ts) (power expression i' r' ts) := by
  unfold power
  rcases atom_deepens hi ts with hd | hr
  · exact .inl (by rw [hd])
  · rw [hr]
    cases atom expression i ts with
    | error e => exact .inr rfl
    | ok a =>
      obtain ⟨base, rest, hlt⟩ := a
      cases rest with
      | nil => exact .inr rfl
      | cons t rest =>
        dsimp only
        split
        · rcases h rest with hd | hr'
          · exact .inl (by simp only [hd])
          · exact .inr (by simp only [hr'])
        · exact .inr rfl

theorem prefixed_deepens (h : ∀ ts, Deepens expression (r ts) (r' ts)) (ts : List Token) :
    Deepens expression (prefixed expression r ts) (prefixed expression r' ts) := by
  match ts with
  | [] => exact .inr rfl
  | t :: rest =>
    simp only [prefixed]
    cases unaryOp? t.kind with
    | none => exact power_deepens (disjunction_deepens h) h (t :: rest)
    | some op =>
      rcases h rest with hd | hr
      · exact .inl (by simp only [hd])
      · exact .inr (by simp only [hr])

end Readers

/-- A greater depth changes a result only where the lesser one has given up, by induction on the lesser one. -/
theorem operand_deepens (expression : String) {m n : Nat} (h : m ≤ n) (ts : List Token) :
    Deepens expression (operand expression m ts) (operand expression n ts) := by
  induction m generalizing n ts with
  | zero => exact .inl rfl
  | succ m ih =>
    obtain ⟨n, rfl⟩ : ∃ k, n = k + 1 := ⟨n - 1, by omega⟩
    exact prefixed_deepens (fun ts => ih (Nat.le_of_succ_le_succ h) ts) ts

/-- Tokens that are derived are read, unless the expression nests too deeply. -/
theorem ofTokens_of_derivation (expression : String) {ts : List Token} (d : Derivation (.level .or))
    (hts : ts.map Token.kind = d.tokens) :
    ofTokens expression ts = .ok d.expr ∨ ofTokens expression ts = .error (.malformed expression .nestedTooDeeply) := by
  -- the phrase is read whole where operands may nest as deep as they do in it
  have hexact := disjunction_exact (operand_exact expression (max maxDepth d.nesting))
  obtain ⟨rest, hrest, hy⟩ :=
    hexact.complete d (Nat.le_max_right _ _) (by rw [hts, List.append_nil]) (Phrase.stops_nil _)
  cases List.map_eq_nil_iff.mp hrest
  have hdeeper := disjunction_deepens (operand_deepens expression (Nat.le_max_left maxDepth d.nesting)) ts
  rcases hdeeper with hd | hr
  · right
    unfold ofTokens
    rw [hd]
  · left
    rw [hr] at hy
    exact ofTokens_eq_ok.mpr hy

/-- Whether tokens that are derived are read depends on their nesting alone. -/
theorem ofTokens_eq (expression : String) {ts : List Token} (d : Derivation (.level .or))
    (hts : ts.map Token.kind = d.tokens) :
    ofTokens expression ts =
      if d.nesting ≤ 100 then .ok d.expr else .error (.malformed expression .nestedTooDeeply) := by
  split
  case isTrue hnesting => exact ofTokens_iff_derives.mpr ⟨d, hts.symm, rfl, hnesting⟩
  case isFalse hnesting =>
    refine (ofTokens_of_derivation expression d hts).resolve_left fun hok => hnesting ?_
    obtain ⟨d', hts', -, hm⟩ := ofTokens_iff_derives.mp hok
    rwa [d.unique d' (hts.symm.trans hts'.symm)]

end NamedRows.Expr
