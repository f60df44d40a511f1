import NamedRows.Expr.Rendering
import NamedRows.Proofs.Expr.Tokens

/-!
# Spelt tokens

A token is read back from each of its spellings (`cuts_of_spelling`), and since a blank ends whatever token stands
before it, tokens are read back from a text in which they stand with a blank between two of them (`cuts_of_spaced`). The
other way round, whatever is read has a spelling (`spelling_of_scan`). The writable expressions are those whose tokens
all have spellings (`Writable.spelling`, `Writable.of_spelling`), and so they have a rendering
(`Writable.exists_renders`).
-/

namespace NamedRows.Token

variable {c : Char} {rest : List Char} {k : TokenKind} {w : String}

/-! ## Reading what is spelt -/

/-- The characters that numbers, texts and names start with. -/
def startsWord (c : Char) : Bool := c.isAlpha || c.isDigit || ['\'', '"', '.', '_'].contains c

theorem symbol?_of_startsWord (hc : startsWord c = true) (next : Option Char) : symbol? c next = none := by
  unfold symbol?
  split <;> first | rfl | exact absurd hc (by decide)

theorem isSeparator_of_startsWord (hc : startsWord c = true) : isSeparator c = false := by
  cases hsep : isSeparator c with
  | false => rfl
  | true =>
    simp only [isSeparator, Bool.or_eq_true, decide_eq_true_eq] at hsep
    rcases hsep with (((rfl | rfl) | rfl) | rfl) | rfl <;> exact absurd hc (by decide)

theorem not_isDigit_of_isAlpha (hc : c.isAlpha = true) : ¬ c.isDigit = true := by
  intro hd
  have hletter : (decide ('A'.val ≤ c.val ∧ c.val ≤ 'Z'.val) || ('a'.val ≤ c.val && c.val ≤ 'z'.val)) = true := hc
  have hdigit : ('0'.val ≤ c.val && c.val ≤ '9'.val) = true := hd
  simp only [Bool.or_eq_true, Bool.and_eq_true, decide_eq_true_eq, UInt32.le_iff_toNat_le] at hletter hdigit
  have hA : 'A'.val.toNat = 65 := rfl
  have ha : 'a'.val.toNat = 97 := rfl
  have h9 : '9'.val.toNat = 57 := rfl
  omega

/-- A text is one token if it is read as one from its first character on. -/
theorem cuts_of_read (hsep : isSeparator c = false)
    (hread : ∀ expression, read expression c rest = .ok (k, rest.length)) : Cuts (c :: rest) [k] := by
  refine Cuts.token hsep hread ?_
  rw [List.drop_length]
  exact cuts_nil

theorem cuts_symbol (hw : w.toList = c :: rest) (hsep : isSeparator c = false)
    (hsymbol : symbol? c rest.head? = some (k, rest.length)) : Cuts w.toList [k] := by
  rw [hw]
  exact cuts_of_read hsep fun _ => by simp only [read, hsymbol]

theorem cuts_number {x : Float} (hc : c.isDigit ∨ c = '.') (hrest : numberTail c rest = rest.length)
    (hx : Decimal.toFloat? (c :: rest) = some x) : Cuts (c :: rest) [.number x] := by
  have hclass : startsWord c = true := by
    rcases hc with hc | rfl
    · simp [startsWord, hc]
    · decide
  have hquote : ¬ (c = '\'' ∨ c = '"') := by
    rintro (rfl | rfl) <;> exact absurd hc (by decide)
  refine cuts_of_read (isSeparator_of_startsWord hclass) fun expression => ?_
  unfold read
  simp only [symbol?_of_startsWord hclass, if_neg hquote, if_pos hc, hrest, List.take_length, hx]

theorem cuts_text {s : String} (hc : c = '\'' ∨ c = '"') (hs : c ∉ s.toList) :
    Cuts (c :: (s.toList ++ [c])) [.text s] := by
  have hclass : startsWord c = true := by rcases hc with rfl | rfl <;> decide
  have hbody : (s.toList ++ [c]).takeWhile (· ≠ c) = s.toList := by
    rw [List.takeWhile_append_of_pos fun d hd => ?_]
    · simp
    · simp only [ne_eq, decide_not, Bool.not_eq_true', decide_eq_false_iff_not]
      rintro rfl
      exact hs hd
  refine cuts_of_read (isSeparator_of_startsWord hclass) fun expression => ?_
  unfold read
  simp only [symbol?_of_startsWord hclass, if_pos hc, hbody, List.length_append, List.length_singleton,
    Nat.lt_succ_self, if_true, String.ofList_toList]

theorem cuts_name (hw : isName w = true) : Cuts w.toList [.name w] := by
  unfold isName at hw
  cases hcs : w.toList with
  | nil => simp [hcs] at hw
  | cons c rest =>
    rw [hcs] at hw
    simp only [Bool.and_eq_true, Bool.or_eq_true, decide_eq_true_eq] at hw
    obtain ⟨hc, hrest⟩ := hw
    have hclass : startsWord c = true := by
      rcases hc with hc | rfl
      · simp [startsWord, hc]
      · decide
    have hquote : ¬ (c = '\'' ∨ c = '"') := by
      rintro (rfl | rfl) <;> exact absurd hc (by decide)
    have hdigit : ¬ (c.isDigit ∨ c = '.') := by
      rintro (hd | rfl)
      · rcases hc with hc | rfl
        · exact not_isDigit_of_isAlpha hc hd
        · exact absurd hd (by decide)
      · exact absurd hc (by decide)
    have hall : (rest ++ []).takeWhile isNameChar = rest ++ [].takeWhile isNameChar :=
      List.takeWhile_append_of_pos (List.all_eq_true.mp hrest)
    rw [List.append_nil, List.takeWhile_nil, List.append_nil] at hall
    refine cuts_of_read (isSeparator_of_startsWord hclass) fun expression => ?_
    unfold read
    simp only [symbol?_of_startsWord hclass, if_neg hquote, if_neg hdigit, if_pos hc, hall, ← hcs, String.ofList_toList]

/-- A token is read back from each of its spellings. -/
theorem cuts_of_spelling (h : k.Spelling w) : Cuts w.toList [k] := by
  cases k with
  | number x =>
    obtain ⟨c, rest, hw, hc, hrest, hx⟩ := h
    rw [hw]
    exact cuts_number hc hrest hx
  | text s =>
    obtain ⟨quote, hquote, hs, hw⟩ := h
    rw [hw]
    exact cuts_text hquote hs
  | name s =>
    obtain ⟨rfl, hname⟩ := h
    exact cuts_name hname
  | _ =>
    cases h
    exact cuts_symbol rfl rfl rfl

/-- Tokens are read back from a text in which a blank stands between two of them. -/
theorem cuts_of_spaced {ks : List TokenKind} {cs : List Char} (h : TokenKind.Spaced ks cs) : Cuts cs ks := by
  induction h with
  | last hw => exact cuts_of_spelling hw
  | cons hw _ ih =>
    obtain ⟨ts, hts, hkinds⟩ := cuts_of_spelling hw "" 0
    have hall := Cuts.append_end (.inr rfl) hts (Cuts.separator rfl ih)
    rwa [hkinds] at hall

/-! ## What is read is spelt -/

/-- What a number takes in does not depend on what follows it. -/
theorem numberTail_take (last : Char) (rest : List Char) :
    numberTail last (rest.take (numberTail last rest)) = (rest.take (numberTail last rest)).length := by
  induction rest generalizing last with
  | nil => rfl
  | cons d rest ih =>
    by_cases hd : d.isDigit || d = '.' || isExponentMark d || ((d = '+' || d = '-') && isExponentMark last)
    · have hlonger : numberTail last (d :: rest) = numberTail d rest + 1 := if_pos hd
      rw [hlonger, List.take_succ_cons, List.length_cons, ← ih d]
      exact if_pos hd
    · have hend : numberTail last (d :: rest) = 0 := if_neg hd
      rw [hend]
      rfl

theorem spelling_of_symbol? {next : Option Char} {tail : Nat} (h : symbol? c next = some (k, tail)) :
    ∃ w, k.Spelling w := by
  unfold symbol? at h
  split at h <;> first | (cases h; exact ⟨_, rfl⟩) | (split at h <;> cases h <;> exact ⟨_, rfl⟩) | cases h

/-- A token that is read has a spelling: what it is read from, without what follows. -/
theorem spelling_of_read {expression : String} {tail : Nat} (h : read expression c rest = .ok (k, tail)) :
    ∃ w, k.Spelling w := by
  unfold read at h
  cases hsymbol : symbol? c rest.head? with
  | some token =>
    rw [hsymbol] at h
    cases h
    exact spelling_of_symbol? hsymbol
  | none =>
    rw [hsymbol] at h
    dsimp only at h
    by_cases hquote : c = '\'' ∨ c = '"'
    · rw [if_pos hquote] at h
      split at h
      · cases h
        refine ⟨String.ofList (c :: (rest.takeWhile (· ≠ c) ++ [c])), c, hquote, fun hmem => ?_, ?_⟩
        · rw [String.toList_ofList] at hmem
          simpa using List.all_eq_true.mp List.all_takeWhile c hmem
        · rw [String.toList_ofList, String.toList_ofList]
      · cases h
    · rw [if_neg hquote] at h
      by_cases hdigit : c.isDigit ∨ c = '.'
      · rw [if_pos hdigit] at h
        cases hx : Decimal.toFloat? (c :: rest.take (numberTail c rest)) with
        | none =>
          rw [hx] at h
          cases h
        | some x =>
          rw [hx] at h
          cases h
          exact ⟨String.ofList (c :: rest.take (numberTail c rest)), c, rest.take (numberTail c rest),
            String.toList_ofList, hdigit, numberTail_take c rest, hx⟩
      · rw [if_neg hdigit] at h
        split at h
        case isTrue hletter =>
          cases h
          refine ⟨_, rfl, ?_⟩
          unfold isName
          rw [String.toList_ofList]
          simp only [Bool.and_eq_true, Bool.or_eq_true, decide_eq_true_eq]
          exact ⟨hletter, List.all_takeWhile⟩
        case isFalse => cases h

/-- All tokens of a text have spellings, by induction on its length. -/
theorem spelling_of_scan {expression : String} {position : Nat} {cs : List Char} {ts : List Token}
    (h : scanFrom expression position cs = .ok ts) : ∀ t ∈ ts, ∃ w, t.kind.Spelling w := by
  match cs with
  | [] =>
    rw [scanFrom] at h
    cases h
    exact fun t ht => absurd ht List.not_mem_nil
  | c :: rest =>
    rw [scanFrom] at h
    split at h
    · exact spelling_of_scan h
    · obtain ⟨⟨kind, tail⟩, hread, h⟩ := bind_eq_ok.mp h
      obtain ⟨ts', hts, h⟩ := bind_eq_ok.mp h
      cases h
      intro t ht
      rcases List.mem_cons.mp ht with rfl | ht
      · exact spelling_of_read hread
      · exact spelling_of_scan hts t ht
termination_by cs.length
decreasing_by
  · simp only [List.length_drop, List.length_cons]; omega
  · simp only [List.length_cons]; omega

end NamedRows.Token

namespace NamedRows

/-! ## Spelling -/

/-- Tokens that have spellings each can be spelt one after another. -/
theorem TokenKind.exists_spaced (k : TokenKind) (ks : List TokenKind) (h : ∀ k' ∈ k :: ks, ∃ w, k'.Spelling w) :
    ∃ cs, Spaced (k :: ks) cs := by
  induction ks generalizing k with
  | nil =>
    obtain ⟨w, hw⟩ := h k List.mem_cons_self
    exact ⟨_, .last hw⟩
  | cons next ks ih =>
    obtain ⟨w, hw⟩ := h k List.mem_cons_self
    obtain ⟨cs, hcs⟩ := ih next fun k' hk' => h k' (List.mem_cons_of_mem _ hk')
    exact ⟨_, .cons hw hcs⟩

/-- Two spellings are a spelling of all their tokens, if one stands after the other. -/
theorem TokenKind.Spaced.append {ks ls : List TokenKind} {cs ds : List Char} (h : Spaced ks cs) (h' : Spaced ls ds) :
    Spaced (ks ++ ls) (cs ++ ' ' :: ds) := by
  induction h with
  | last hw => exact .cons hw h'
  | cons hw _ ih =>
    rw [List.append_assoc]
    exact .cons hw ih

namespace Expr

theorem spelling_unary (op : UnaryOp) : op.token.Spelling op.symbol := by
  cases op <;> rfl

theorem spelling_binary (op : BinaryOp) : op.token.Spelling op.symbol := by
  cases op <;> rfl

/-- Two operands that need no parentheses are rendered with the operator between them. -/
theorem Renders.binary {op : BinaryOp} {l r : Expr} {a b : String} (hl : l.Renders a) (hr : r.Renders b)
    (hleft : l.phrase.rank ≤ op.left.rank) (hright : r.phrase.rank ≤ op.right.rank) :
    (Expr.binary op l r).Renders (a ++ " " ++ op.symbol ++ " " ++ b) := by
  have htokens : (Expr.binary op l r).tokens = l.tokens ++ op.token :: r.tokens := by
    rw [tokens, enclosed, enclosed, if_pos hleft, if_pos hright]
  have htext : (a ++ " " ++ op.symbol ++ " " ++ b).toList =
      a.toList ++ ' ' :: (op.symbol.toList ++ ' ' :: b.toList) := by
    simp [String.toList_append]
  unfold Renders
  rw [htokens, htext]
  exact TokenKind.Spaced.append hl (.cons (spelling_binary op) hr)

theorem isName_function1 (f : Function1) : Token.isName f.name = true := by
  cases f <;> decide

theorem isName_function2 (f : Function2) : Token.isName f.name = true := by
  cases f <;> decide

/-- Parentheses can be spelt. -/
theorem spelling_of_mem_enclosed {p q : Phrase} {ts : List TokenKind} (h : ∀ k ∈ ts, ∃ w, k.Spelling w) :
    ∀ k ∈ enclosed p q ts, ∃ w, k.Spelling w := by
  intro k hk
  unfold enclosed at hk
  split at hk
  · exact h k hk
  · simp only [List.mem_cons, List.mem_append, List.not_mem_nil, or_false] at hk
    rcases hk with rfl | hk | rfl
    · exact ⟨"(", rfl⟩
    · exact h k hk
    · exact ⟨")", rfl⟩

/-- All tokens of a writable expression have spellings. -/
theorem Writable.spelling {e : Expr} (he : e.Writable) : ∀ k ∈ e.tokens, ∃ w, k.Spelling w := by
  induction e with
  | number x =>
    intro k hk
    rw [List.mem_singleton.mp hk]
    exact he
  | text s =>
    intro k hk
    rw [List.mem_singleton.mp hk]
    rcases he with hs | hs
    · exact ⟨String.ofList ('\'' :: (s.toList ++ ['\''])), '\'', .inl rfl, hs, String.toList_ofList⟩
    · exact ⟨String.ofList ('"' :: (s.toList ++ ['"'])), '"', .inr rfl, hs, String.toList_ofList⟩
  | column name =>
    intro k hk
    rw [List.mem_singleton.mp hk]
    exact ⟨name, rfl, he⟩
  | unary op e ih =>
    intro k hk
    rcases List.mem_cons.mp hk with rfl | hk
    · exact ⟨_, spelling_unary op⟩
    · exact spelling_of_mem_enclosed (ih he) k hk
  | binary op l r ihl ihr =>
    intro k hk
    rcases List.mem_append.mp hk with hk | hk
    · exact spelling_of_mem_enclosed (ihl he.1) k hk
    rcases List.mem_cons.mp hk with rfl | hk
    · exact ⟨_, spelling_binary op⟩
    · exact spelling_of_mem_enclosed (ihr he.2) k hk
  | call1 f a ih =>
    intro k hk
    simp only [tokens, List.mem_cons, List.mem_append, List.not_mem_nil, or_false] at hk
    rcases hk with rfl | rfl | hk | rfl
    · exact ⟨f.name, rfl, isName_function1 f⟩
    · exact ⟨"(", rfl⟩
    · exact ih he k hk
    · exact ⟨")", rfl⟩
  | call2 f a b iha ihb =>
    intro k hk
    simp only [tokens, List.mem_cons, List.mem_append, List.not_mem_nil, or_false] at hk
    rcases hk with rfl | rfl | hk | rfl | hk | rfl
    · exact ⟨f.name, rfl, isName_function2 f⟩
    · exact ⟨"(", rfl⟩
    · exact iha he.1 k hk
    · exact ⟨",", rfl⟩
    · exact ihb he.2 k hk
    · exact ⟨")", rfl⟩

theorem mem_enclosed {p q : Phrase} {ts : List TokenKind} {k : TokenKind} (h : k ∈ ts) : k ∈ enclosed p q ts := by
  unfold enclosed
  split
  · exact h
  · exact List.mem_cons_of_mem _ (List.mem_append_left _ h)

/-- An expression is writable if all its tokens have spellings. -/
theorem Writable.of_spelling {e : Expr} (h : ∀ k ∈ e.tokens, ∃ w, k.Spelling w) : e.Writable := by
  induction e with
  | number x => exact h _ (List.mem_singleton_self _)
  | text s =>
    obtain ⟨w, quote, hquote, hs, -⟩ := h _ (List.mem_singleton_self _)
    rcases hquote with rfl | rfl
    · exact .inl hs
    · exact .inr hs
  | column name =>
    obtain ⟨w, -, hname⟩ := h _ (List.mem_singleton_self _)
    exact hname
  | unary op e ih => exact ih fun k hk => h k (List.mem_cons_of_mem _ (mem_enclosed hk))
  | binary op l r ihl ihr =>
    refine ⟨ihl fun k hk => h k ?_, ihr fun k hk => h k ?_⟩
    · exact List.mem_append_left _ (mem_enclosed hk)
    · exact List.mem_append_right _ (List.mem_cons_of_mem _ (mem_enclosed hk))
  | call1 f a ih => exact ih fun k hk => h k (by simp [tokens, hk])
  | call2 f a b iha ihb =>
    exact ⟨iha fun k hk => h k (by simp [tokens, hk]), ihb fun k hk => h k (by simp [tokens, hk])⟩

theorem tokens_ne_nil (e : Expr) : e.tokens ≠ [] := by
  cases e <;> simp [tokens]

/-- A writable expression has a rendering. -/
theorem Writable.exists_renders {e : Expr} (he : e.Writable) : ∃ text, e.Renders text := by
  have hspelling := he.spelling
  unfold Renders
  cases hts : e.tokens with
  | nil => exact absurd hts e.tokens_ne_nil
  | cons k ks =>
    rw [hts] at hspelling
    obtain ⟨cs, hcs⟩ := TokenKind.exists_spaced k ks hspelling
    exact ⟨String.ofList cs, by rwa [String.toList_ofList]⟩

end Expr

end NamedRows
