import NamedRows.Expr.Reader

/-!
# What the readers of expressions return

A reader returns an expression and the tokens it leaves, with a proof that these are fewer. `Yields` says what is
returned and drops the proof; each reader then has one lemma that says when it yields what, in terms of the readers it
calls, and no later proof opens a reader.
-/

namespace NamedRows.Expr

/-- A successful result is `a` and leaves the tokens `rest`. -/
def Yields {α : Type} {P : List Token → Prop} (result : Except Error (α × { rest : List Token // P rest })) (a : α)
    (rest : List Token) : Prop :=
  ∃ h, result = .ok (a, ⟨rest, h⟩)

section Yields

variable {α β : Type} {P : List Token → Prop} {result : Except Error (α × { rest : List Token // P rest })}
  {a b : α} {rest rest' : List Token}

theorem yields_error {e : Error} : ¬ Yields (.error e : Except Error (α × { rest : List Token // P rest })) a rest :=
  fun ⟨_, h⟩ => nomatch h

theorem yields_ok {r : α × { rest : List Token // P rest }} :
    Yields (.ok r : Except Error (α × { rest : List Token // P rest })) a rest ↔ a = r.1 ∧ rest = r.2.1 := by
  constructor
  · rintro ⟨h, heq⟩
    cases heq
    exact ⟨rfl, rfl⟩
  · rintro ⟨rfl, rfl⟩
    exact ⟨r.2.2, rfl⟩

/-- What a result yields is determined. -/
theorem Yields.unique (h : Yields result a rest) (h' : Yields result b rest') : a = b ∧ rest = rest' := by
  obtain ⟨_, h⟩ := h
  obtain ⟨_, h'⟩ := h'
  cases h.symm.trans h'
  exact ⟨rfl, rfl⟩

end Yields

attribute [simp] yields_error yields_ok

variable {expression : String} {inner operand : Reader} {op? : TokenKind → Option BinaryOp} {t : Token}
  {start stop : Nat} {ts rest : List Token} {e lhs : Expr}

theorem foldOperators_nil : Yields (foldOperators op? operand lhs []) e rest ↔ e = lhs ∧ rest = [] := by
  simp [foldOperators]

/-- Without an operator of the level in front nothing more is read. -/
theorem foldOperators_none (h : op? t.kind = none) :
    Yields (foldOperators op? operand lhs (t :: ts)) e rest ↔ e = lhs ∧ rest = t :: ts := by
  rw [foldOperators]
  split
  · simp
  · rename_i op hop
    rw [h] at hop
    cases hop

/-- An operator of the level is read with the operand after it. -/
theorem foldOperators_some {op : BinaryOp} (h : op? t.kind = some op) :
    Yields (foldOperators op? operand lhs (t :: ts)) e rest ↔
      ∃ a mid, Yields (operand ts) a mid ∧ Yields (foldOperators op? operand (.binary op lhs a) mid) e rest := by
  rw [foldOperators]
  split
  · rename_i hop
    rw [h] at hop
    cases hop
  · rename_i op' hop
    cases h.symm.trans hop
    cases ha : operand ts with
    | error e => simp
    | ok r =>
      obtain ⟨a, mid, hmid⟩ := r
      simp only [yields_ok, and_assoc, exists_and_left, exists_eq_left]
      cases hf : foldOperators op? operand (.binary op lhs a) mid with
      | error e => simp
      | ok r => simp

theorem leftLevel_yields :
    Yields (leftLevel op? operand ts) e rest ↔
      ∃ a mid, Yields (operand ts) a mid ∧ Yields (foldOperators op? operand a mid) e rest := by
  unfold leftLevel
  cases operand ts with
  | error e => simp
  | ok r =>
    obtain ⟨a, mid, hmid⟩ := r
    simp only [yields_ok, and_assoc, exists_and_left, exists_eq_left]
    cases foldOperators op? operand a mid with
    | error e => simp
    | ok r => simp

/-- A comparison is a sum with no comparing operator after it, or two sums with one in between. -/
theorem comparison_yields :
    Yields (comparison operand ts) e rest ↔
      ∃ lhs mid, Yields (leftLevel addOp? (leftLevel mulOp? operand) ts) lhs mid ∧
        (((mid.map Token.kind).head?.bind compareOp? = none ∧ e = lhs ∧ rest = mid) ∨
          ∃ t ts' op rhs, mid = t :: ts' ∧ compareOp? t.kind = some op ∧
            Yields (leftLevel addOp? (leftLevel mulOp? operand) ts') rhs rest ∧ e = .binary op lhs rhs) := by
  unfold comparison
  dsimp only
  generalize leftLevel addOp? (leftLevel mulOp? operand) = sum
  cases hsum : sum ts with
  | error e => simp
  | ok r =>
    obtain ⟨lhs, mid, hmid⟩ := r
    simp only [yields_ok, and_assoc, exists_and_left, exists_eq_left]
    cases mid with
    | nil => simp
    | cons t ts' =>
      cases hop : compareOp? t.kind with
      | none => simp [hop]
      | some op =>
        cases hs : sum ts' with
        | error e => simp [hop, hs]
        | ok r => simp [hop, hs, and_assoc, and_comm]

theorem closing_eq_ok {r : Rest ts} :
    closing expression ts = .ok r ↔ ∃ t, ts = t :: r.1 ∧ t.kind = .close := by
  cases ts with
  | nil => simp [closing, ended]
  | cons t rest =>
    by_cases h : t.kind = .close
    · simp [closing, h, Subtype.ext_iff, and_assoc]
    · simp [closing, h, unexpected]

theorem moreArguments_yields {as : List Expr} :
    Yields (moreArguments expression inner ts) as rest ↔
      (∃ t, ts = t :: rest ∧ t.kind = .close ∧ as = []) ∨
        ∃ t ts' a mid as', ts = t :: ts' ∧ t.kind = .comma ∧ Yields (inner ts') a mid ∧
          Yields (moreArguments expression inner mid) as' rest ∧ as = a :: as' := by
  rw [moreArguments.eq_def]
  cases ts with
  | nil => simp [ended]
  | cons t ts' =>
    by_cases hcomma : t.kind = .comma
    · simp only [hcomma]
      cases ha : inner ts' with
      | error e => simp [hcomma, ha]
      | ok r =>
        obtain ⟨a, mid, hmid⟩ := r
        cases hm : moreArguments expression inner mid with
        | error e => simp [hcomma, ha, hm]
        | ok r => simp [hcomma, ha, hm, and_assoc, and_comm]
    · by_cases hclose : t.kind = .close
      · simp [hclose, and_assoc, and_comm, eq_comm]
      · simp [hcomma, hclose, unexpected]

theorem arguments_yields {as : List Expr} :
    Yields (arguments expression inner ts) as rest ↔
      (∃ t, ts = t :: rest ∧ t.kind = .close ∧ as = []) ∨
        (ts.map Token.kind).head? ≠ some .close ∧ ∃ a mid as', Yields (inner ts) a mid ∧
          Yields (moreArguments expression inner mid) as' rest ∧ as = a :: as' := by
  unfold arguments
  split
  · simp [and_comm, eq_comm]
  · rename_i hclose
    have hhead : (ts.map Token.kind).head? ≠ some .close := by
      cases ts with
      | nil => simp
      | cons t ts' => exact fun h => hclose t.start t.stop ts' (by simp at h; rw [← h])
    have hnot : ¬ ∃ t, ts = t :: rest ∧ t.kind = .close ∧ as = [] := by
      rintro ⟨t, rfl, h, -⟩
      exact hhead (by simp [h])
    rw [or_iff_right hnot]
    cases ha : inner ts with
    | error e => simp
    | ok r =>
      obtain ⟨a, mid, hmid⟩ := r
      simp only [yields_ok, and_assoc, exists_and_left, exists_eq_left, ne_eq, hhead, not_false_eq_true, true_and]
      cases hm : moreArguments expression inner mid with
      | error e => simp
      | ok r => simp [and_assoc, and_comm]

/-! ### Atoms, by their first token -/

theorem atom_nil : ¬ Yields (atom expression inner []) e rest := by
  simp [atom, ended]

theorem atom_number {x : Float} :
    Yields (atom expression inner (⟨.number x, start, stop⟩ :: ts)) e rest ↔ e = .number x ∧ rest = ts := by
  simp [atom]

theorem atom_text {s : String} :
    Yields (atom expression inner (⟨.text s, start, stop⟩ :: ts)) e rest ↔ e = .text s ∧ rest = ts := by
  simp [atom]

theorem atom_group :
    Yields (atom expression inner (⟨.open, start, stop⟩ :: ts)) e rest ↔
      ∃ t, Yields (inner ts) e (t :: rest) ∧ t.kind = .close := by
  simp only [atom]
  cases inner ts with
  | error err => simp
  | ok r =>
    obtain ⟨a, mid, hmid⟩ := r
    dsimp only
    cases hc : closing expression mid with
    | error err =>
      refine ⟨fun h => absurd h yields_error, ?_⟩
      rintro ⟨t, ⟨hlt, heq⟩, ht⟩
      cases heq
      have hclosed : closing expression (t :: rest) = .ok ⟨rest, Nat.lt_succ_self _⟩ := closing_eq_ok.mpr ⟨t, rfl, ht⟩
      cases hc.symm.trans hclosed
    | ok r =>
      obtain ⟨t, hmid, ht⟩ := closing_eq_ok.mp hc
      constructor
      · intro h
        obtain ⟨rfl, rfl⟩ := yields_ok.mp h
        exact ⟨t, yields_ok.mpr ⟨rfl, hmid.symm⟩, ht⟩
      · rintro ⟨t', h, -⟩
        obtain ⟨rfl, hrest⟩ := yields_ok.mp h
        exact yields_ok.mpr ⟨rfl, (List.cons.inj (hrest.trans hmid)).2⟩

theorem atom_column {s : String} (h : (ts.map Token.kind).head? ≠ some .open) :
    Yields (atom expression inner (⟨.name s, start, stop⟩ :: ts)) e rest ↔ e = .column s ∧ rest = ts := by
  simp only [atom]
  split
  · simp at h
  · simp

theorem atom_call {s : String} {start' stop' : Nat} :
    Yields (atom expression inner (⟨.name s, start, stop⟩ :: ⟨.open, start', stop'⟩ :: ts)) e rest ↔
      ∃ f as, Function.named? s = some f ∧ Yields (arguments expression inner ts) as rest ∧ applied? f as = some e := by
  simp only [atom]
  cases Function.named? s with
  | none => simp
  | some f =>
    simp only [Option.some.injEq, exists_and_left, exists_eq_left']
    cases arguments expression inner ts with
    | error e => simp
    | ok r =>
      obtain ⟨as, mid, hmid⟩ := r
      cases ha : applied? f as with
      | none => simp [unexpected, and_assoc, ha]
      | some e' => simp [and_assoc, ha, and_comm, eq_comm]

/-- Any other token starts no atom. -/
theorem Yields.atom_kind (h : Yields (atom expression inner (t :: ts)) e rest) :
    (∃ x, t.kind = .number x) ∨ (∃ s, t.kind = .text s) ∨ (∃ s, t.kind = .name s) ∨ t.kind = .open := by
  obtain ⟨kind, start, stop⟩ := t
  cases kind <;> simp_all [atom, unexpected]

/-! ### Powers, operators before an operand, and whole expressions -/

variable {exponent next : Reader}

theorem power_yields :
    Yields (power expression inner exponent ts) e rest ↔
      ∃ base mid, Yields (atom expression inner ts) base mid ∧
        (((mid.map Token.kind).head? ≠ some .power ∧ e = base ∧ rest = mid) ∨
          ∃ t ts' b, mid = t :: ts' ∧ t.kind = .power ∧ Yields (exponent ts') b rest ∧ e = .binary .pow base b) := by
  unfold power
  cases ha : atom expression inner ts with
  | error e => simp
  | ok r =>
    obtain ⟨base, mid, hmid⟩ := r
    simp only [yields_ok, and_assoc, exists_and_left, exists_eq_left]
    cases mid with
    | nil => simp
    | cons t ts' =>
      by_cases ht : t.kind = .power
      · cases hb : exponent ts' with
        | error e => simp [ht, hb]
        | ok r => simp [ht, hb, and_assoc, and_comm]
      · simp [ht]

theorem prefixed_nil : ¬ Yields (prefixed expression next []) e rest := by
  simp [prefixed, ended]

theorem prefixed_none (h : unaryOp? t.kind = none) :
    prefixed expression next (t :: ts) = power expression (disjunction next) next (t :: ts) := by
  simp only [prefixed]
  split
  · rfl
  · rename_i op hop
    cases h.symm.trans hop

theorem prefixed_some {op : UnaryOp} (h : unaryOp? t.kind = some op) :
    Yields (prefixed expression next (t :: ts)) e rest ↔ ∃ a, Yields (next ts) a rest ∧ e = .unary op a := by
  simp only [prefixed]
  split
  · rename_i hop
    cases h.symm.trans hop
  · rename_i op' hop
    cases h.symm.trans hop
    cases next ts with
    | error e => simp
    | ok r => simp [and_assoc, and_comm]

/-- A whole list of tokens is read when nothing is left over. -/
theorem ofTokens_eq_ok :
    ofTokens expression ts = .ok e ↔ Yields (disjunction (Expr.operand expression maxDepth) ts) e [] := by
  unfold ofTokens
  cases disjunction (Expr.operand expression maxDepth) ts with
  | error e => simp
  | ok r =>
    obtain ⟨a, mid, hmid⟩ := r
    cases mid with
    | nil => simp [eq_comm]
    | cons t mid => simp [unexpected]

end NamedRows.Expr
