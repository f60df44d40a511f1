import NamedRows.Proofs.Expr.Bytes
import NamedRows.Proofs.Outcome

/-!
# Where tokens stand in an expression

The tokens of an expression and the blanks between them make up its text, from left to right (`Covers`). So every token
spans whole characters, spans come one after the other, and no byte outside of them is anything but a blank
(`Spanned`). When an expression cannot be cut into tokens, the error quotes a part of it (`Quotes`). Both hold of every
expression, and the scan of its bytes never halts (`scan_spanned`).
-/

namespace NamedRows.Token

open Text

variable {expression : String}

/-! ## Tokens and blanks -/

/-- The characters from the position `i` on are the given tokens with blanks between them. -/
inductive Covers : Nat → List Char → List Token → Prop
  | nil (i : Nat) : Covers i [] []
  | blank {i : Nat} {c : Char} {cs : List Char} {tokens : List Token} (hc : isSeparator c = true)
      (h : Covers (i + c.utf8Size) cs tokens) : Covers i (c :: cs) tokens
  | token (kind : TokenKind) {i : Nat} {lexeme cs : List Char} {tokens : List Token} (hlexeme : lexeme ≠ [])
      (h : Covers (i + byteLength lexeme) cs tokens) :
      Covers i (lexeme ++ cs) (⟨kind, i, i + byteLength lexeme⟩ :: tokens)

/-- The scan takes blanks and tokens off the front of what is left, by induction on its length. -/
theorem scanFrom_covers {i : Nat} {cs : List Char} {tokens : List Token} (h : scanFrom expression i cs = .ok tokens) :
    Covers i cs tokens := by
  match cs with
  | [] =>
    rw [scanFrom] at h
    cases h
    exact .nil i
  | c :: rest =>
    rw [scanFrom] at h
    split at h
    · rename_i hc
      exact .blank hc (scanFrom_covers h)
    · obtain ⟨⟨kind, tail⟩, -, h⟩ := bind_eq_ok.mp h
      obtain ⟨tokens, hscan, h⟩ := bind_eq_ok.mp h
      cases h
      have hcover := Covers.token kind (List.cons_ne_nil c (rest.take tail)) (scanFrom_covers hscan)
      rwa [List.cons_append, List.take_append_drop] at hcover
termination_by cs.length
decreasing_by
  · simp only [List.length_drop, List.length_cons]; omega
  · simp only [List.length_cons]; omega

namespace Covers

variable {i : Nat} {cs : List Char} {tokens : List Token}

/-- Every token spans whole characters, at least one. -/
theorem exists_lexeme {pre : List Char} (h : Covers (byteLength pre) cs tokens) :
    ∀ t ∈ tokens, ∃ a b d,
      pre ++ cs = a ++ b ++ d ∧ b ≠ [] ∧ t.start = byteLength a ∧ t.stop = byteLength (a ++ b) := by
  generalize hi : byteLength pre = i at h
  induction h generalizing pre with
  | nil => intro t ht; cases ht
  | @blank i c cs tokens hc h ih =>
    have hstep : byteLength (pre ++ [c]) = i + c.utf8Size := by rw [byteLength_append, hi]; rfl
    simpa using ih hstep
  | @token kind i lexeme cs tokens hlexeme h ih =>
    intro t ht
    rcases List.mem_cons.mp ht with rfl | ht
    · exact ⟨pre, lexeme, cs, by rw [List.append_assoc], hlexeme, hi.symm, by rw [byteLength_append, hi]⟩
    · have hstep : byteLength (pre ++ lexeme) = i + byteLength lexeme := by rw [byteLength_append, hi]
      have := ih hstep t ht
      rwa [List.append_assoc] at this

theorem le_start (h : Covers i cs tokens) : ∀ t ∈ tokens, i ≤ t.start := by
  induction h with
  | nil => intro t ht; cases ht
  | blank hc h ih => exact fun t ht => Nat.le_trans (Nat.le_add_right _ _) (ih t ht)
  | token kind hlexeme h ih =>
    intro t ht
    rcases List.mem_cons.mp ht with rfl | ht
    · exact Nat.le_refl _
    · exact Nat.le_trans (Nat.le_add_right _ _) (ih t ht)

/-- A token ends before the next one starts. -/
theorem pairwise (h : Covers i cs tokens) : tokens.Pairwise fun t u => t.stop ≤ u.start := by
  induction h with
  | nil => exact .nil
  | blank hc h ih => exact ih
  | token kind hlexeme h ih => exact .cons h.le_start ih

/-- A byte that no token spans is a blank. -/
theorem blank_outside (h : Covers i cs tokens) {j : Nat} {y : UInt8} (hy : (encode cs)[j]? = some y)
    (hout : ∀ t ∈ tokens, ¬ (t.start ≤ i + j ∧ i + j < t.stop)) : isSeparator (Char.ofUInt8 y) = true := by
  induction h generalizing j with
  | nil => cases hy
  | @blank i c cs tokens hc h ih =>
    have hascii := isSeparator_ascii hc
    rw [encode, List.flatMap_cons, utf8EncodeChar_of_ascii hascii, List.singleton_append] at hy
    cases j with
    | zero =>
      obtain rfl : UInt8.ofNat c.toNat = y := Option.some.inj hy
      rwa [ofUInt8_of_ascii hascii]
    | succ j =>
      refine ih hy ?_
      rw [utf8Size_of_ascii hascii, Nat.add_assoc, Nat.add_comm 1 j]
      exact hout
  | @token kind i lexeme cs tokens hlexeme h ih =>
    have hj : byteLength lexeme ≤ j := by
      have := hout _ List.mem_cons_self
      dsimp only at this
      omega
    rw [encode_append, List.getElem?_append_right (by rwa [length_encode]), length_encode] at hy
    refine ih hy fun t ht => ?_
    rw [Nat.add_assoc, Nat.add_sub_cancel' hj]
    exact hout t (List.mem_cons_of_mem _ ht)

end Covers

/-! ## Errors -/

/-- An error that quotes a part of the expression. -/
def Quotes (expression : String) (e : Error) : Prop :=
  ∃ culprit cause, e = .malformed culprit cause ∧ culprit ≠ "" ∧ culprit.toList <:+: expression.toList

theorem quotes_of_split {pre lexeme rest : List Char} (h : expression.toList = pre ++ lexeme ++ rest)
    (hlexeme : lexeme ≠ []) (cause : Error.Malformed) :
    Quotes expression (.malformed (String.ofList lexeme) cause) := by
  refine ⟨_, cause, rfl, fun hempty => hlexeme ?_, pre, rest, by rw [String.toList_ofList, h]⟩
  rw [← String.toList_ofList (l := lexeme), hempty]
  rfl

/-- What starts with a character fails with an error that quotes that character and possibly some after it. -/
theorem read_quotes {pre rest : List Char} {c : Char} (h : expression.toList = pre ++ c :: rest) :
    FailsWith (Quotes expression) (read expression c rest) := by
  have hquotes (n : Nat) (cause : Error.Malformed) :
      Quotes expression (.malformed (String.ofList (c :: rest.take n)) cause) :=
    quotes_of_split (split_after h n) (List.cons_ne_nil _ _) cause
  rw [read]
  split
  · exact .ok _
  split
  · -- a text that does not end is quoted up to the end of the expression
    dsimp only
    split
    · exact .ok _
    · exact .error (by simpa using hquotes rest.length .unterminatedText)
  split
  · dsimp only
    split
    · exact .ok _
    · exact .error (hquotes _ _)
  split
  · exact .ok _
  · exact .error (hquotes 0 _)

theorem scanFrom_quotes {pre cs : List Char} (h : expression.toList = pre ++ cs) (i : Nat) :
    FailsWith (Quotes expression) (scanFrom expression i cs) := by
  match cs with
  | [] =>
    rw [scanFrom]
    exact .ok _
  | c :: rest =>
    rw [scanFrom]
    split
    · exact scanFrom_quotes (h.trans (append_cons_eq pre c rest)) _
    · refine (read_quotes h).bind fun token _ => ?_
      exact (scanFrom_quotes (split_after h token.2) _).bind fun tokens _ => .ok _
termination_by cs.length
decreasing_by
  · simp only [List.length_drop, List.length_cons]; omega
  · simp only [List.length_cons]; omega

/-! ## Every expression -/

/-- The tokens of an expression lie in it, one after the other, and leave out nothing but blanks. -/
structure Spanned (expression : String) (tokens : List Token) : Prop where
  nonempty : ∀ t ∈ tokens, t.start < t.stop
  within : ∀ t ∈ tokens, t.stop ≤ (Bytewise.bytes expression).length
  boundaries : ∀ t ∈ tokens, String.Pos.Raw.IsValid expression ⟨t.start⟩ ∧ String.Pos.Raw.IsValid expression ⟨t.stop⟩
  lexemes : ∀ t ∈ tokens, Bytewise.span expression t.start t.stop = Bytewise.plain (.ok (t.lexeme expression))
  ordered : tokens.Pairwise fun t u => t.stop ≤ u.start
  /-- A byte outside of all spans is a tabulator, a line feed, a form feed, a carriage return or a space. -/
  blanks : ∀ i y, (Bytewise.bytes expression)[i]? = some y → (∀ t ∈ tokens, ¬ (t.start ≤ i ∧ i < t.stop)) →
    y ∈ [9, 10, 12, 13, 32]

theorem eq_of_ofUInt8_eq {y : UInt8} {z : Char} (h : Char.ofUInt8 y = z) : y = UInt8.ofNat z.toNat := by
  rw [← h, toNat_ofUInt8, UInt8.ofNat_toNat]

theorem mem_blanks {y : UInt8} (h : isSeparator (Char.ofUInt8 y) = true) : y ∈ [9, 10, 12, 13, 32] := by
  simp only [isSeparator, Bool.or_eq_true, decide_eq_true_eq] at h
  rcases h with (((h | h) | h) | h) | h <;> rw [eq_of_ofUInt8_eq h] <;> decide

theorem Covers.spanned {tokens : List Token} (h : Covers 0 expression.toList tokens) : Spanned expression tokens := by
  have hlexeme := Covers.exists_lexeme (show Covers (byteLength []) expression.toList tokens from h)
  rw [List.nil_append] at hlexeme
  refine ⟨?_, ?_, ?_, ?_, h.pairwise, ?_⟩
  · intro t ht
    obtain ⟨a, b, d, -, hb, hstart, hstop⟩ := hlexeme t ht
    rw [hstart, hstop]
    exact byteLength_lt_append a hb
  · intro t ht
    obtain ⟨a, b, d, hsplit, -, -, hstop⟩ := hlexeme t ht
    rw [Bytewise.bytes_eq_encode, length_encode, hsplit, hstop, byteLength_append (a ++ b)]
    exact Nat.le_add_right _ _
  · intro t ht
    obtain ⟨a, b, d, hsplit, -, hstart, hstop⟩ := hlexeme t ht
    rw [hstart, hstop]
    exact ⟨isValid_byteLength (b := b ++ d) (by rw [hsplit, List.append_assoc]), isValid_byteLength hsplit⟩
  · intro t ht
    obtain ⟨a, b, d, hsplit, -, hstart, hstop⟩ := hlexeme t ht
    rw [lexeme, hstart, hstop, Bytewise.span_encode hsplit, hsplit, byteLength_append, slice?_append]
    rfl
  · intro i y hy hout
    rw [Bytewise.bytes_eq_encode] at hy
    exact mem_blanks (h.blank_outside hy (by simpa using hout))

/-- Cutting an expression into tokens never reads past its end or inside a character, and always comes to an end. It
gives tokens that lie in the expression one after the other, or an error of the parse family that quotes a part of
it. -/
theorem scan_spanned (expression : String) :
    Bytewise.scan expression = Bytewise.plain (scan expression) ∧
      match scan expression with
      | .ok tokens => Spanned expression tokens
      | .error e => e.family = .parse ∧ Quotes expression e := by
  refine ⟨Bytewise.scan_eq expression, ?_⟩
  cases hscan : scan expression with
  | ok tokens => exact (scanFrom_covers hscan).spanned
  | error e =>
    obtain ⟨culprit, cause, rfl, hquote⟩ :=
      scanFrom_quotes (show expression.toList = [] ++ expression.toList from rfl) 0 e hscan
    exact ⟨rfl, culprit, cause, rfl, hquote⟩

end NamedRows.Token
