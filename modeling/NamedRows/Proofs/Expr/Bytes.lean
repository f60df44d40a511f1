import NamedRows.Expr.Bytes
import NamedRows.Proofs.Expr.Tokens
import NamedRows.Proofs.Text.Span

/-!
# Tokens read byte by byte are the tokens of the characters

The scan of the bytes never halts, and it gives what the scan of the characters gives (`scan_eq`): the same tokens with
the same spans, or the same error. The invariant is that every position of the scan stands behind whole characters, as
`byteLength pre` for the characters `pre` that have been read. A step keeps it because the scan only ever stops at ASCII
characters: it passes a quote, an operator or a blank as one byte, and it passes names, numbers and the insides of texts
as far as a class of bytes holds that spells a class of characters (`skipWhile_encode`, `numberEnd_encode`). The look
back at the exponent mark of a number finds a byte because a number starts with a digit or a point.
-/

namespace NamedRows.Token

variable {c : Char}

/-! ## Characters of ASCII -/

theorem isDigit_ascii (h : c.isDigit = true) : c.toNat < 128 := by
  exact Nat.lt_of_le_of_lt (Char.isDigit_iff_toNat.mp h).2 (by decide)

theorem isAlpha_ascii (h : c.isAlpha = true) : c.toNat < 128 := by
  have h : (decide ('A'.val ≤ c.val ∧ c.val ≤ 'Z'.val) || ('a'.val ≤ c.val && c.val ≤ 'z'.val)) = true := h
  simp only [Bool.or_eq_true, Bool.and_eq_true, decide_eq_true_eq, UInt32.le_iff_toNat_le] at h
  rcases h with h | h <;> exact Nat.lt_of_le_of_lt h.2 (by decide)

theorem isExponentMark_ascii (h : isExponentMark c = true) : c.toNat < 128 := by
  simp only [isExponentMark, Bool.or_eq_true, decide_eq_true_eq] at h
  rcases h with rfl | rfl <;> decide

theorem isSeparator_ascii (h : isSeparator c = true) : c.toNat < 128 := by
  simp only [isSeparator, Bool.or_eq_true, decide_eq_true_eq] at h
  rcases h with (((rfl | rfl) | rfl) | rfl) | rfl <;> decide

theorem isNameChar_ascii (h : isNameChar c = true) : c.toNat < 128 := by
  simp only [isNameChar, Char.isAlphanum, Bool.or_eq_true, decide_eq_true_eq] at h
  obtain ((h | h) | rfl) | rfl := h
  · exact isAlpha_ascii h
  · exact isDigit_ascii h
  all_goals decide

/-- A digit, a point or an exponent mark. -/
def isNumberChar (c : Char) : Bool := c.isDigit || c = '.' || isExponentMark c

/-- A sign. -/
def isSign (c : Char) : Bool := c = '+' || c = '-'

theorem isNumberChar_ascii (h : isNumberChar c = true) : c.toNat < 128 := by
  simp only [isNumberChar, Bool.or_eq_true, decide_eq_true_eq] at h
  obtain (h | rfl) | h := h
  · exact isDigit_ascii h
  · decide
  · exact isExponentMark_ascii h

theorem isSign_ascii (h : isSign c = true) : c.toNat < 128 := by
  simp only [isSign, Bool.or_eq_true, decide_eq_true_eq] at h
  rcases h with rfl | rfl <;> decide

theorem numberTail_cons (last d : Char) (cs : List Char) :
    numberTail last (d :: cs) =
      if isNumberChar d || (isSign d && isExponentMark last) then numberTail d cs + 1 else 0 := by
  rw [numberTail, isNumberChar, isSign]

theorem symbol?_congr {next next' : Option Char} (h : ∀ z : Char, z.toNat < 128 → (next' = some z ↔ next = some z))
    (c : Char) : symbol? c next' = symbol? c next := by
  unfold symbol?
  simp only [h '*' (by decide), h '=' (by decide)]

theorem symbol?_ascii {next : Option Char} {token : TokenKind × Nat} (h : symbol? c next = some token) :
    c.toNat < 128 := by
  unfold symbol? at h
  split at h <;> first | decide | cases h

theorem symbol?_of_not_ascii (h : ¬ c.toNat < 128) (next : Option Char) : symbol? c next = none := by
  cases hs : symbol? c next with
  | none => rfl
  | some token => exact absurd (symbol?_ascii hs) h

end NamedRows.Token

namespace NamedRows.Bytewise

open Token Text

variable {α β : Type} {expression : String} {pre rest : List Char} {c : Char}

/-! ## Computations in which nothing halts -/

theorem pure_eq_plain (a : α) : (pure a : Bytewise α) = plain (.ok a) := rfl

theorem plain_ok_bind (a : α) (f : α → Bytewise β) : plain (.ok a) >>= f = f a := rfl

/-! ## Accesses -/

theorem bytes_eq_encode (expression : String) : bytes expression = encode expression.toList :=
  toByteArray_eq_encode expression

theorem drop_encode (pre cs : List Char) : (encode (pre ++ cs)).drop (byteLength pre) = encode cs := by
  rw [encode_append, ← length_encode, List.drop_left]

/-- Behind whole characters stands a byte of the next one. -/
theorem byte_encode (pre : List Char) (c : Char) (rest : List Char) :
    ∃ y ∈ String.utf8EncodeChar c, byte (encode (pre ++ c :: rest)) (byteLength pre) = plain (.ok y) := by
  obtain ⟨y, ys, hys⟩ := utf8EncodeChar_eq_cons c
  refine ⟨y, by rw [hys]; exact List.mem_cons_self, ?_⟩
  have hget : (encode (pre ++ c :: rest))[byteLength pre]? = some y := by
    rw [← List.head?_drop, drop_encode, encode, List.flatMap_cons, hys]
    rfl
  rw [byte, hget]
  rfl

theorem span_encode {a b d : List Char} (h : expression.toList = a ++ b ++ d) :
    span expression (byteLength a) (byteLength (a ++ b)) = plain (.ok (String.ofList b)) := by
  rw [span, h, byteLength_append, slice?_append]
  rfl

/-! ## Runs of a class -/

theorem skipWhile_eq (p : UInt8 → Bool) (bs : List UInt8) (i : Nat) :
    skipWhile p bs i = plain (.ok (i + ((bs.drop i).takeWhile p).length)) := by
  induction hn : bs.length - i generalizing i with
  | zero =>
    rw [skipWhile, if_neg (by omega), List.drop_eq_nil_of_le (by omega)]
    rfl
  | succ n ih =>
    have hi : i < bs.length := by omega
    have hbyte : byte bs i = plain (.ok bs[i]) := by rw [byte, List.getElem?_eq_getElem hi]; rfl
    rw [skipWhile, if_pos hi, hbyte, plain_ok_bind, List.drop_eq_getElem_cons hi]
    cases hp : p bs[i] with
    | true =>
      rw [if_pos rfl, ih (i + 1) (by omega), List.takeWhile_cons_of_pos hp, List.length_cons, Nat.add_right_comm]
      rfl
    | false =>
      rw [if_neg (by simp), List.takeWhile_cons_of_neg (by simp [hp])]
      rfl

/-- A run of bytes of a class ends behind whole characters. -/
theorem skipWhile_encode {p : UInt8 → Bool} {q : Char → Bool} (h : Spells p q) (pre cs : List Char) :
    skipWhile p (encode (pre ++ cs)) (byteLength pre) = plain (.ok (byteLength (pre ++ cs.takeWhile q))) := by
  rw [skipWhile_eq, drop_encode, takeWhile_encode h, length_encode, byteLength_append]

/-! ## Numbers -/

theorem numberEnd_step {bs : List UInt8} {i : Nat} {y z : UInt8} (hi : i < bs.length) (hy : byte bs i = plain (.ok y))
    (hz : (before i >>= fun j => byte bs j) = plain (.ok z)) :
    numberEnd bs i =
      if isNumberChar (Char.ofUInt8 y) || (isSign (Char.ofUInt8 y) && isExponentMark (Char.ofUInt8 z)) then
        numberEnd bs (i + 1)
      else plain (.ok i) := by
  rw [numberEnd, if_pos hi, hy, plain_ok_bind]
  change (if isNumberChar (Char.ofUInt8 y) then _ else if isSign (Char.ofUInt8 y) then _ else _) = _
  cases hnumber : isNumberChar (Char.ofUInt8 y) with
  | true => rfl
  | false =>
    cases hsign : isSign (Char.ofUInt8 y) with
    | false => rfl
    | true =>
      rw [if_neg (by decide), if_pos rfl, ← bind_assoc, hz, plain_ok_bind, Bool.false_or, Bool.true_and]
      rfl

/-- A number ends behind whole characters, once it has got behind an ASCII character. -/
theorem numberEnd_encode {last : Char} (hlast : last.toNat < 128) (pre cs : List Char) :
    numberEnd (encode (pre ++ last :: cs)) (byteLength (pre ++ [last])) =
      plain (.ok (byteLength (pre ++ last :: cs.take (numberTail last cs)))) := by
  induction cs generalizing pre last with
  | nil =>
    rw [numberEnd, if_neg (by rw [length_encode]; exact Nat.lt_irrefl _)]
    rfl
  | cons d cs ih =>
    have hsplit : pre ++ last :: d :: cs = pre ++ [last] ++ d :: cs := append_cons_eq pre last (d :: cs)
    have hlt : byteLength (pre ++ [last]) < (encode (pre ++ last :: d :: cs)).length := by
      rw [length_encode, hsplit]
      exact byteLength_lt_append _ (List.cons_ne_nil _ _)
    obtain ⟨y, hy, hbyte⟩ := byte_encode (pre ++ [last]) d cs
    rw [← hsplit] at hbyte
    obtain ⟨z, hz, hback⟩ := byte_encode pre last (d :: cs)
    have hbefore : before (byteLength (pre ++ [last])) = plain (.ok (byteLength pre)) := by
      rw [byteLength_snoc hlast]
      rfl
    rw [numberEnd_step hlt hbyte (by rw [hbefore, plain_ok_bind, hback]), numberTail_cons,
      show isNumberChar (Char.ofUInt8 y) = isNumberChar d from spells_of_ascii (fun _ => isNumberChar_ascii) d y hy,
      show isSign (Char.ofUInt8 y) = isSign d from spells_of_ascii (fun _ => isSign_ascii) d y hy,
      show isExponentMark (Char.ofUInt8 z) = isExponentMark last from
        spells_of_ascii (fun _ => isExponentMark_ascii) last z hz]
    split
    · rename_i hgo
      have hd : d.toNat < 128 := by
        simp only [Bool.or_eq_true, Bool.and_eq_true] at hgo
        exact hgo.elim isNumberChar_ascii fun h => isSign_ascii h.1
      have hnext := ih hd (pre ++ [last])
      rw [← hsplit, byteLength_snoc hd, ← append_cons_eq pre last] at hnext
      rw [List.take_succ_cons, hnext]
    · rw [List.take_zero]

/-! ## Symbols -/

/-- A byte of a character reads as an ASCII character exactly if the character is that one. -/
theorem ofUInt8_eq_iff {d z : Char} {y : UInt8} (hz : z.toNat < 128) (hy : y ∈ String.utf8EncodeChar d) :
    Char.ofUInt8 y = z ↔ d = z :=
  decide_eq_decide.mp (spells_of_ascii (q := (· = z)) (fun _ h => of_decide_eq_true h ▸ hz) d y hy)

theorem head?_encode {cs : List Char} {z : Char} (hz : z.toNat < 128) :
    (encode cs).head?.map Char.ofUInt8 = some z ↔ cs.head? = some z := by
  cases cs with
  | nil => simp [encode]
  | cons d cs =>
    obtain ⟨y, ys, hys⟩ := utf8EncodeChar_eq_cons d
    rw [encode, List.flatMap_cons, hys]
    simp only [List.cons_append, List.head?_cons, Option.map_some, Option.some.injEq]
    exact ofUInt8_eq_iff hz (by rw [hys]; exact List.mem_cons_self)

/-- Two bytes tell a symbol as two characters do. -/
theorem symbol?_encode {y : UInt8} (hy : y ∈ String.utf8EncodeChar c) :
    symbol? (Char.ofUInt8 y) ((encode (pre ++ c :: rest))[byteLength pre + 1]?.map Char.ofUInt8) =
      symbol? c rest.head? := by
  by_cases hc : c.toNat < 128
  · rw [utf8EncodeChar_of_ascii hc, List.mem_singleton] at hy
    have hget : (encode (pre ++ c :: rest))[byteLength pre + 1]? = (encode rest).head? := by
      rw [append_cons_eq, ← byteLength_snoc hc, ← List.head?_drop, drop_encode]
    rw [hy, ofUInt8_of_ascii hc, hget]
    exact symbol?_congr (fun _ hz => head?_encode hz) c
  · rw [symbol?_of_not_ascii hc, symbol?_of_not_ascii]
    rw [toNat_ofUInt8]
    exact Nat.not_lt.mpr (le_of_mem_utf8EncodeChar (Nat.not_lt.mp hc) hy)

/-- Symbols are made of ASCII characters. -/
theorem byteLength_symbol {kind : TokenKind} {more : Nat} (h : symbol? c rest.head? = some (kind, more)) :
    byteLength (c :: rest.take more) = 1 + more := by
  rw [byteLength, utf8Size_of_ascii (symbol?_ascii h)]
  congr 1
  have htail : more = 0 ∨ more = 1 ∧ (rest.head? = some '*' ∨ rest.head? = some '=') := by
    unfold symbol? at h
    split at h <;> (try split at h) <;> simp_all
  obtain rfl | ⟨rfl, hhead⟩ := htail
  · rw [List.take_zero, byteLength]
  · obtain ⟨z, hz, hsize⟩ : ∃ z, rest.head? = some z ∧ z.utf8Size = 1 := by
      rcases hhead with hz | hz <;> exact ⟨_, hz, by decide⟩
    obtain ⟨cs, rfl⟩ := List.head?_eq_some_iff.mp hz
    simp [byteLength, hsize]

/-! ## Tokens -/

/-- A text goes up to the next quote of its sort, and lacks it at the end of the expression. -/
theorem readText_encode (hc : c.toNat < 128) (h : expression.toList = pre ++ c :: rest) :
    readText expression (byteLength pre) (UInt8.ofNat c.toNat) =
      plain (
        if (rest.takeWhile (· ≠ c)).length < rest.length then
          .ok (.text (String.ofList (rest.takeWhile (· ≠ c))),
            byteLength (pre ++ c :: rest.take ((rest.takeWhile (· ≠ c)).length + 1)))
        else .error (.malformed (String.ofList (c :: rest)) .unterminatedText)) := by
  have hbytes : bytes expression = encode (pre ++ [c] ++ rest) := by rw [bytes_eq_encode, h, append_cons_eq]
  rw [readText, hbytes, ← byteLength_snoc hc, skipWhile_encode (spells_ne hc), plain_ok_bind, length_encode]
  have hsplit : rest = rest.takeWhile (· ≠ c) ++ rest.dropWhile (· ≠ c) := List.takeWhile_append_dropWhile.symm
  have hhead := List.head?_dropWhile_not (· ≠ c) rest
  revert hsplit hhead
  generalize rest.takeWhile (· ≠ c) = body
  rcases rest.dropWhile (· ≠ c) with _ | ⟨d, more⟩ <;> rintro rfl hhead
  · have hspan : expression.toList = pre ++ c :: body ++ [] := by rw [h, List.append_nil, List.append_nil]
    rw [List.append_nil, if_neg (Nat.lt_irrefl _), if_neg (Nat.lt_irrefl _), ← append_cons_eq, span_encode hspan]
    rfl
  · obtain rfl : d = c := by simpa using hhead
    have hlength : body.length < (body ++ d :: more).length := by rw [List.length_append, List.length_cons]; omega
    have hsize : byteLength (pre ++ [d] ++ body) < byteLength (pre ++ [d] ++ (body ++ d :: more)) := by
      rw [← List.append_assoc]
      exact byteLength_lt_append _ (List.cons_ne_nil _ _)
    have hbefore (i : Nat) : before (i + 1) = plain (.ok i) := rfl
    have hspan : expression.toList = pre ++ [d] ++ body ++ d :: more := by rw [h]; simp
    have hstop : byteLength (pre ++ [d] ++ body) + 1 =
        byteLength (pre ++ d :: (body ++ d :: more).take (body.length + 1)) := by
      rw [← byteLength_snoc hc]
      simp [List.take_append, List.take_of_length_le]
    rw [if_pos hlength, if_pos hsize, hbefore, plain_ok_bind, span_encode hspan, plain_ok_bind, hstop, pure_eq_plain]

/-- A number goes as far as it can, and has to read as a decimal literal. -/
theorem readNumber_encode (hc : c.toNat < 128) (h : expression.toList = pre ++ c :: rest) :
    readNumber expression (byteLength pre) =
      plain (
        match Decimal.toFloat? (c :: rest.take (numberTail c rest)) with
        | some x => .ok (.number x, byteLength (pre ++ c :: rest.take (numberTail c rest)))
        | none => .error (.malformed (String.ofList (c :: rest.take (numberTail c rest))) .badNumber)) := by
  have hspan := split_after h (numberTail c rest)
  rw [readNumber, bytes_eq_encode, h, ← byteLength_snoc hc, numberEnd_encode hc, plain_ok_bind, span_encode hspan,
    plain_ok_bind, String.toList_ofList]
  cases Decimal.toFloat? (c :: rest.take (numberTail c rest)) <;> rfl

/-- A name goes as far as characters of names do. -/
theorem readName_encode (hc : c.toNat < 128) (h : expression.toList = pre ++ c :: rest) :
    readName expression (byteLength pre) =
      plain (.ok (.name (String.ofList (c :: rest.takeWhile isNameChar)),
        byteLength (pre ++ c :: rest.take (rest.takeWhile isNameChar).length))) := by
  have htake : rest.take (rest.takeWhile isNameChar).length = rest.takeWhile isNameChar :=
    List.prefix_iff_eq_take.mp (List.takeWhile_prefix _) |>.symm
  have hspan : expression.toList = pre ++ c :: rest.takeWhile isNameChar ++ rest.dropWhile isNameChar := by
    rw [h, List.append_assoc, List.cons_append, List.takeWhile_append_dropWhile]
  rw [readName, bytes_eq_encode, h, append_cons_eq, ← byteLength_snoc hc,
    skipWhile_encode (spells_of_ascii fun _ => isNameChar_ascii), plain_ok_bind, ← append_cons_eq, span_encode hspan,
    htake]
  rfl

theorem stray_encode (h : expression.toList = pre ++ c :: rest) :
    stray expression (byteLength pre) =
      plain (.error (.malformed (String.singleton c) (.strayCharacter expression))) := by
  have hspan : expression.toList = pre ++ c :: rest ++ [] := by rw [h, List.append_nil]
  rw [stray, bytes_eq_encode, length_encode, h, span_encode hspan, plain_ok_bind, String.toList_ofList]
  rfl

/-- A token that starts behind whole characters is the one that is read from the next characters, and it ends behind
the last of them. -/
theorem read_encode (h : expression.toList = pre ++ c :: rest) :
    read expression (byteLength pre) =
      plain ((Token.read expression c rest).map fun t => (t.1, byteLength (pre ++ c :: rest.take t.2))) := by
  obtain ⟨y, hy, hbyte⟩ := byte_encode pre c rest
  have hbytes : bytes expression = encode (pre ++ c :: rest) := by rw [bytes_eq_encode, h]
  rw [Bytewise.read, hbytes, hbyte, plain_ok_bind, Token.read]
  dsimp only
  have hquote : (Char.ofUInt8 y = '\'' ∨ Char.ofUInt8 y = '"') ↔ (c = '\'' ∨ c = '"') := by
    rw [ofUInt8_eq_iff (by decide) hy, ofUInt8_eq_iff (by decide) hy]
  have hdigit : ((Char.ofUInt8 y).isDigit ∨ Char.ofUInt8 y = '.') ↔ (c.isDigit ∨ c = '.') := by
    rw [ofUInt8_eq_iff (by decide) hy, show (Char.ofUInt8 y).isDigit = c.isDigit from
      spells_of_ascii (fun _ => isDigit_ascii) c y hy]
  have halpha : ((Char.ofUInt8 y).isAlpha ∨ Char.ofUInt8 y = '_') ↔ (c.isAlpha ∨ c = '_') := by
    rw [ofUInt8_eq_iff (by decide) hy, show (Char.ofUInt8 y).isAlpha = c.isAlpha from
      spells_of_ascii (fun _ => isAlpha_ascii) c y hy]
  rw [symbol?_encode hy]
  cases hs : symbol? c rest.head? with
  | some token =>
    obtain ⟨kind, more⟩ := token
    have hstop : byteLength pre + 1 + more = byteLength (pre ++ c :: rest.take more) := by
      rw [byteLength_append, byteLength_symbol hs, Nat.add_assoc]
    dsimp only
    rw [hstop]
    rfl
  | none =>
    simp only [hquote, hdigit, halpha]
    by_cases hq : c = '\'' ∨ c = '"'
    · have hc : c.toNat < 128 := by rcases hq with rfl | rfl <;> decide
      rw [utf8EncodeChar_of_ascii hc, List.mem_singleton] at hy
      rw [if_pos hq, if_pos hq, hy, readText_encode hc h]
      split <;> rfl
    rw [if_neg hq, if_neg hq]
    by_cases hd : c.isDigit ∨ c = '.'
    · have hc : c.toNat < 128 := by
        rcases hd with hd | rfl
        · exact isDigit_ascii hd
        · decide
      rw [if_pos hd, if_pos hd, readNumber_encode hc h]
      cases Decimal.toFloat? (c :: rest.take (numberTail c rest)) <;> rfl
    rw [if_neg hd, if_neg hd]
    by_cases ha : c.isAlpha ∨ c = '_'
    · have hc : c.toNat < 128 := by
        rcases ha with ha | rfl
        · exact isAlpha_ascii ha
        · decide
      rw [if_pos ha, if_pos ha, readName_encode hc h]
      rfl
    rw [if_neg ha, if_neg ha, stray_encode h]
    rfl

/-! ## The scan -/

/-- From behind whole characters on, the scan of the bytes is the one of the characters. -/
theorem scanFrom_encode {cs : List Char} (h : expression.toList = pre ++ cs) :
    scanFrom expression (byteLength pre) = plain (Token.scanFrom expression (byteLength pre) cs) := by
  induction hn : cs.length using Nat.strongRecOn generalizing pre cs with
  | ind n ih =>
  subst hn
  rw [scanFrom, Token.scanFrom.eq_def, bytes_eq_encode, h, length_encode]
  cases cs with
  | nil =>
    rw [List.append_nil, if_neg (Nat.lt_irrefl _)]
    rfl
  | cons c rest =>
    have hlt : byteLength pre < byteLength (pre ++ c :: rest) := byteLength_lt_append _ (List.cons_ne_nil _ _)
    obtain ⟨y, hy, hbyte⟩ := byte_encode pre c rest
    rw [if_pos hlt, hbyte, plain_ok_bind, show isSeparator (Char.ofUInt8 y) = isSeparator c from
      spells_of_ascii (fun _ => isSeparator_ascii) c y hy]
    dsimp only
    cases hsep : isSeparator c with
    | true =>
      rw [if_pos rfl, if_pos rfl, utf8Size_of_ascii (isSeparator_ascii hsep),
        ← byteLength_snoc (isSeparator_ascii hsep)]
      exact ih rest.length (Nat.lt_succ_self _) (by rw [h, append_cons_eq]) rfl
    | false =>
      rw [if_neg (by decide), if_neg (by decide), read_encode h]
      cases Token.read expression c rest with
      | error e => rfl
      | ok token =>
        obtain ⟨kind, tail⟩ := token
        have hnext :=
          ih (rest.drop tail).length (by rw [List.length_drop, List.length_cons]; omega) (split_after h tail) rfl
        have hlt : byteLength pre < byteLength (pre ++ c :: rest.take tail) :=
          byteLength_lt_append _ (List.cons_ne_nil _ _)
        change (if byteLength pre < byteLength (pre ++ c :: rest.take tail) then _ else _) = _
        rw [if_pos hlt, hnext]
        change _ = plain (do
          let tokens ← Token.scanFrom expression (byteLength pre + byteLength (c :: rest.take tail)) (rest.drop tail)
          return ⟨kind, byteLength pre, byteLength pre + byteLength (c :: rest.take tail)⟩ :: tokens)
        rw [← byteLength_append]
        cases Token.scanFrom expression (byteLength (pre ++ c :: rest.take tail)) (rest.drop tail) <;> rfl

/-- The scan of the bytes does not halt, and is the scan of the characters. -/
theorem scan_eq (expression : String) : scan expression = plain (Token.scan expression) :=
  scanFrom_encode (show expression.toList = [] ++ expression.toList from rfl)

example : scan "'é€'\t< b.1" = plain (.ok [⟨.text "é€", 0, 7⟩, ⟨.lt, 8, 9⟩, ⟨.name "b.1", 10, 13⟩]) := by
  rw [scan_eq]
  cbv

end NamedRows.Bytewise
