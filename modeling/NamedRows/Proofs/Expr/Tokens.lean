import NamedRows.Expr.Token
import NamedRows.Proofs.Outcome

/-!
# Texts cut into tokens

A closing parenthesis and a blank end whatever token stands before them (`Ends`). So a text that can be cut into tokens
is cut into the same ones where one of the two comes after it (`Cuts.append_end`), and what the rest of the text is
makes no difference.
-/

namespace NamedRows.Token

/-- The characters that end whatever token stands before them. -/
def Ends (z : Char) : Prop := z = ')' ∨ z = ' '

variable {expression : String} {c z : Char} {rest more : List Char} {kind : TokenKind} {tail : Nat}
  {kinds kinds' : List TokenKind}

/-! ## One token -/

/-- No symbol goes on with a character that ends tokens. -/
theorem symbol?_append_end (hz : Ends z) (c : Char) (rest more : List Char) :
    symbol? c (rest ++ z :: more).head? = symbol? c rest.head? := by
  cases rest with
  | cons d rest => rfl
  | nil =>
    simp only [List.nil_append, List.head?_cons, List.head?_nil]
    unfold symbol?
    rcases hz with rfl | rfl <;> split <;> simp

theorem le_length_of_symbol? (h : symbol? c rest.head? = some (kind, tail)) : tail ≤ rest.length := by
  cases rest with
  | nil =>
    simp only [List.head?_nil] at h
    unfold symbol? at h
    split at h <;> simp_all
  | cons d rest =>
    unfold symbol? at h
    split at h <;> simp at h <;> simp only [List.length_cons] <;> (first | omega | (split at h <;> simp at h <;> omega))

/-- A number does not go on with a character that ends tokens. -/
theorem numberTail_append_end (hz : Ends z) (last : Char) (rest more : List Char) :
    numberTail last (rest ++ z :: more) = numberTail last rest := by
  induction rest generalizing last with
  | nil => rcases hz with rfl | rfl <;> simp [numberTail, isExponentMark, Char.isDigit]
  | cons d rest ih => simp only [List.cons_append, numberTail, ih]

theorem numberTail_le (last : Char) (rest : List Char) : numberTail last rest ≤ rest.length := by
  induction rest generalizing last with
  | nil => exact Nat.le_refl 0
  | cons d rest ih =>
    unfold numberTail
    split
    · exact Nat.succ_le_succ (ih d)
    · exact Nat.zero_le _

/-- Characters of one class go on to a character of another one at most. -/
theorem takeWhile_append_end {p : Char → Bool} (hp : p z = false) (rest more : List Char) :
    (rest ++ z :: more).takeWhile p = rest.takeWhile p := by
  rw [List.takeWhile_append]
  split
  · rename_i hall
    rw [List.takeWhile_cons_of_neg (by simp [hp]), List.append_nil]
    exact (List.takeWhile_prefix p).eq_of_length hall |>.symm
  · rfl

/-- A token before a character that ends it is the one that stands there at the end of a text, whatever expression it is
a part of. -/
theorem read_append_end (hz : Ends z) (h : read expression c rest = .ok (kind, tail)) :
    tail ≤ rest.length ∧ ∀ expression' more, read expression' c (rest ++ z :: more) = .ok (kind, tail) := by
  unfold read at h ⊢
  simp only [symbol?_append_end hz]
  cases hsymbol : symbol? c rest.head? with
  | some token =>
    rw [hsymbol] at h
    cases h
    exact ⟨le_length_of_symbol? hsymbol, fun _ _ => rfl⟩
  | none =>
    rw [hsymbol] at h
    dsimp only at h ⊢
    by_cases hquote : c = '\'' ∨ c = '"'
    · simp only [if_pos hquote] at h ⊢
      -- the quote that ends the text stands before that character
      split at h
      · rename_i hclosed
        cases h
        refine ⟨hclosed, fun _ more => ?_⟩
        have hbody : (rest ++ z :: more).takeWhile (· ≠ c) = rest.takeWhile (· ≠ c) := by
          rw [List.takeWhile_append, if_neg (Nat.ne_of_lt hclosed)]
        rw [hbody, if_pos (by rw [List.length_append]; omega)]
      · cases h
    · simp only [if_neg hquote] at h ⊢
      by_cases hdigit : c.isDigit ∨ c = '.'
      · simp only [if_pos hdigit, numberTail_append_end hz, List.take_append_of_le_length (numberTail_le c rest)] at h ⊢
        cases hx : Decimal.toFloat? (c :: rest.take (numberTail c rest)) with
        | none => rw [hx] at h; cases h
        | some x =>
          rw [hx] at h
          cases h
          exact ⟨numberTail_le c rest, fun _ _ => rfl⟩
      · have hname : isNameChar z = false := by rcases hz with rfl | rfl <;> decide
        simp only [if_neg hdigit, takeWhile_append_end hname] at h ⊢
        split at h
        · rename_i hname
          cases h
          exact ⟨(List.takeWhile_prefix _).length_le, fun _ _ => if_pos hname⟩
        · cases h

/-! ## Many tokens -/

/-- A text is cut into tokens of these kinds, wherever it stands and whatever expression it is a part of. -/
def Cuts (cs : List Char) (kinds : List TokenKind) : Prop :=
  ∀ expression position, ∃ ts, scanFrom expression position cs = .ok ts ∧ ts.map Token.kind = kinds

theorem cuts_nil : Cuts [] [] := fun _ _ => ⟨[], by rw [scanFrom], rfl⟩

theorem Cuts.separator (hc : isSeparator c = true) (h : Cuts rest kinds) : Cuts (c :: rest) kinds := by
  intro expression position
  rw [scanFrom, if_pos hc]
  exact h expression _

theorem Cuts.token (hc : isSeparator c = false) (hread : ∀ expression, read expression c rest = .ok (kind, tail))
    (h : Cuts (rest.drop tail) kinds) : Cuts (c :: rest) (kind :: kinds) := by
  intro expression position
  obtain ⟨ts, hts, hkinds⟩ := h expression (position + Text.byteLength (c :: rest.take tail))
  refine ⟨⟨kind, position, position + Text.byteLength (c :: rest.take tail)⟩ :: ts, ?_, congrArg (kind :: ·) hkinds⟩
  rw [scanFrom, if_neg (by simp [hc]), hread, ok_bind]
  dsimp only
  rw [hts]
  rfl

/-- A symbol of one character is a token, whatever follows it. -/
theorem Cuts.symbol (hc : isSeparator c = false) (hsymbol : symbol? c rest.head? = some (kind, 0))
    (h : Cuts rest kinds) : Cuts (c :: rest) (kind :: kinds) :=
  Cuts.token hc (fun _ => by simp only [read, hsymbol]) (show Cuts (rest.drop 0) kinds from h)

/-- Before a character that ends tokens stand the tokens of the text that ends there, by induction on its length. -/
theorem Cuts.append_end (hz : Ends z) {cs : List Char} {position : Nat} {ts : List Token}
    (hscan : scanFrom expression position cs = .ok ts) (h : Cuts (z :: more) kinds) :
    Cuts (cs ++ z :: more) (ts.map Token.kind ++ kinds) := by
  match cs with
  | [] =>
    rw [scanFrom] at hscan
    cases hscan
    exact h
  | c :: rest =>
    rw [scanFrom] at hscan
    split at hscan
    · rename_i hc
      exact Cuts.separator hc (append_end hz hscan h)
    · rename_i hc
      obtain ⟨⟨kind, tail⟩, hread, hscan⟩ := bind_eq_ok.mp hscan
      obtain ⟨ts', hts, hscan⟩ := bind_eq_ok.mp hscan
      cases hscan
      obtain ⟨hle, hread⟩ := read_append_end hz hread
      refine Cuts.token (by simpa using hc) (fun expression' => hread expression' more) ?_
      show Cuts ((rest ++ z :: more).drop tail) (ts'.map Token.kind ++ kinds)
      rw [List.drop_append_of_le_length hle]
      exact append_end hz hts h
termination_by cs.length
decreasing_by
  · simp only [List.length_drop, List.length_cons]; omega
  · simp only [List.length_cons]; omega

/-- Two texts in parentheses with an operator between them are cut where the texts by themselves are. -/
theorem scan_conjunction {a b : String} {ts us : List Token} (ha : scan a = .ok ts) (hb : scan b = .ok us) :
    ∃ vs, scan ("(" ++ a ++ ") & (" ++ b ++ ")") = .ok vs ∧
      vs.map Token.kind =
        .open :: (ts.map Token.kind ++ .close :: .and :: .open :: (us.map Token.kind ++ [.close])) := by
  have hlast : Cuts [')'] [.close] := cuts_nil.symbol rfl rfl
  have hsecond : Cuts ('(' :: (b.toList ++ [')'])) (.open :: (us.map Token.kind ++ [.close])) :=
    (Cuts.append_end (.inl rfl) hb hlast).symbol rfl rfl
  have hmiddle := ((((hsecond.separator (c := ' ') rfl).symbol (c := '&') rfl rfl).separator (c := ' ') rfl).symbol
    (c := ')') rfl rfl)
  have hall := (Cuts.append_end (.inl rfl) ha hmiddle).symbol (c := '(') rfl rfl
  obtain ⟨vs, hvs, hkinds⟩ := hall ("(" ++ a ++ ") & (" ++ b ++ ")") 0
  refine ⟨vs, ?_, hkinds⟩
  have htext : ("(" ++ a ++ ") & (" ++ b ++ ")").toList =
      '(' :: (a.toList ++ ')' :: ' ' :: '&' :: ' ' :: '(' :: (b.toList ++ [')'])) := by
    simp [String.toList_append]
  rw [scan, htext]
  exact hvs

end NamedRows.Token
