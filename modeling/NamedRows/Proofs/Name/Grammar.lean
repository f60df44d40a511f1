import NamedRows.Proofs.Name.Address

/-!
# The grammar of addresses

    NAME [ "::" COUNT ] [ ("<<" | ">>") OFFSET ]

What an address is written as, apart from how it is read (`Address.Written`). Each clause opens at the last mark of its
sort, and where a clause is missing there is no such mark at all (`ShiftClause`, `CountClause`); behind the mark comes
the numeral of an integer of 64 bits, with blanks around it or not (`Text.Literal`).

- Exactly what is written so is read, and all other texts are parse errors; and a shift backward is the opposite shift
  forward, whatever stands before it (`parse_grammar`).
- An address is read from its own text exactly if it has a name, if its shift is not the least one, and if each sort of
  marks in the name is followed by a clause of that sort (`parse_render_iff`).
-/

namespace NamedRows

namespace Address

variable {text head literal : List Char}

/-! ## What is written -/

/-- The occurrence clause that a text ends in. It opens at the last occurrence mark: behind the first character of that
no other one starts. -/
inductive CountClause (text : List Char) : List Char → Option Int64 → Prop
  | none (h : ¬ Doubled isCountMark text) : CountClause text [] none
  | some {literal : List Char} {k : Int64} (hlast : ¬ Doubled isCountMark (':' :: literal))
    (hk : Text.Literal literal k) : CountClause text (':' :: ':' :: literal) (some k)

/-- The shift clause that a text ends in. It opens at the last shift mark, of either direction, and a shift backward is
the opposite of what its literal says, as far as 64 bits hold that. -/
inductive ShiftClause (text : List Char) : List Char → Int64 → Prop
  | none (h : ¬ Doubled isShiftMark text) : ShiftClause text [] 0
  | forward {literal : List Char} {n : Int64} (hlast : ¬ Doubled isShiftMark ('>' :: literal))
    (hn : Text.Literal literal n) : ShiftClause text ('>' :: '>' :: literal) n
  | backward {literal : List Char} {n shift : Int64} (hlast : ¬ Doubled isShiftMark ('<' :: literal))
    (hn : Text.Literal literal n) (hshift : shift.toInt = -n.toInt) : ShiftClause text ('<' :: '<' :: literal) shift

/-- A text is that of an address: a name, an occurrence clause and a shift clause. -/
def Written (text : List Char) (a : Address) : Prop :=
  a.name ≠ "" ∧ ∃ count shift, text = a.name.toList ++ count ++ shift ∧
    CountClause (a.name.toList ++ count) count a.occurrence ∧ ShiftClause text shift a.shift

/-! ## Reading what is written -/

/-- The opposites that 64 bits hold are those of all integers but the least one. -/
theorem eq_neg_iff {m n : Int64} : m.toInt = -n.toInt ↔ n ≠ Int64.minValue ∧ m = -n := by
  constructor
  · intro h
    have hne : n ≠ Int64.minValue := by
      rintro rfl
      have hmin : Int64.minValue.toInt = -2 ^ 63 := by decide
      have hlt := Int64.toInt_lt m
      omega
    refine ⟨hne, Int64.toInt_inj.mp ?_⟩
    rw [h, toInt_neg_of_ne hne]
  · rintro ⟨hne, rfl⟩
    exact toInt_neg_of_ne hne

theorem splitShift_iff {n : Int64} :
    splitShift text = .ok (head, n) ↔ ∃ shift, text = head ++ shift ∧ ShiftClause text shift n := by
  rw [splitShift_eq_ok]
  constructor
  · rintro (⟨hnone, rfl, rfl⟩ | ⟨c, literal, m, htext, hlast, hm, hc⟩)
    · exact ⟨[], (List.append_nil _).symm, .none hnone⟩
    · rw [Text.toInt64?_trim_eq_some] at hm
      rcases hc with ⟨rfl, rfl⟩ | ⟨rfl, hmin, rfl⟩
      · exact ⟨_, htext, .forward hlast hm⟩
      · exact ⟨_, htext, .backward hlast hm (toInt_neg_of_ne hmin)⟩
  · rintro ⟨shift, htext, h⟩
    cases h with
    | none hnone => exact .inl ⟨hnone, by rw [htext, List.append_nil], rfl⟩
    | forward hlast hn => exact .inr ⟨'>', _, n, htext, hlast, Text.toInt64?_trim_eq_some.mpr hn, .inl ⟨rfl, rfl⟩⟩
    | backward hlast hn hshift =>
      exact .inr ⟨'<', _, _, htext, hlast, Text.toInt64?_trim_eq_some.mpr hn, .inr ⟨rfl, eq_neg_iff.mp hshift⟩⟩

theorem splitCount_iff {name : List Char} {occurrence : Option Int64} :
    splitCount text head = .ok (name, occurrence) ↔
      ∃ count, head = name ++ count ∧ CountClause (name ++ count) count occurrence := by
  rw [splitCount_eq_ok]
  constructor
  · rintro (⟨hnone, rfl, rfl⟩ | ⟨literal, k, hhead, hlast, hk, rfl⟩)
    · exact ⟨[], (List.append_nil _).symm, .none (by rwa [List.append_nil])⟩
    · exact ⟨_, hhead, .some hlast (Text.toInt64?_trim_eq_some.mp hk)⟩
  · rintro ⟨count, rfl, h⟩
    cases h with
    | none hnone => exact .inl ⟨hnone, (List.append_nil _).symm, rfl⟩
    | some hlast hk => exact .inr ⟨_, _, rfl, hlast, Text.toInt64?_trim_eq_some.mpr hk, rfl⟩

/-- Exactly what is written is read. -/
theorem parse_iff_written {text : String} {a : Address} : parse text = .ok a ↔ Written text.toList a := by
  rw [parse_eq_ok]
  simp only [splitShift_iff, splitCount_iff, Written]
  refine and_congr_right fun _ => ?_
  constructor
  · rintro ⟨head, ⟨shift, htext, hshift⟩, count, rfl, hcount⟩
    exact ⟨count, shift, htext, hcount, hshift⟩
  · rintro ⟨count, shift, htext, hcount, hshift⟩
    exact ⟨_, ⟨shift, htext, hshift⟩, count, rfl, hcount⟩

/-! ## Directions -/

/-- There is no mark in a literal. -/
theorem not_mark_of_mem_literal {n : Int64} (h : Text.Literal literal n) {c : Char} (hc : c ∈ literal) :
    isShiftMark c = false ∧ isCountMark c = false := by
  obtain ⟨left, numeral, right, rfl, hl, hr, hn⟩ := h
  rcases List.mem_append.mp hc with hc | hc
  · rcases List.mem_append.mp hc with hc | hc
    · exact not_mark (.inl (hl c hc))
    · exact not_mark (.inr (hn.mem hc))
  · exact not_mark (.inl (hr c hc))

/-- A shift mark and a literal after any text make a shift clause, since no mark starts behind. -/
theorem splitShift_append {c : Char} (hc : isShiftMark c = true) {n : Int64} (hn : Text.Literal literal n) :
    splitShift (head ++ c :: c :: literal) =
      if c = '>' then .ok (head, n)
      else if n = Int64.minValue then .error (.malformed (String.ofList literal) .shiftOverflow)
      else .ok (head, -n) := by
  have hlast : ¬ Doubled isShiftMark (c :: literal) := not_doubled_cons fun x hx => (not_mark_of_mem_literal hn hx).1
  have hsplit : splitLast? isShiftMark (head ++ c :: c :: literal) = some (head, c, literal) :=
    splitLast?_eq_some.mpr ⟨hc, rfl, hlast⟩
  have hread : readClause literal (.badShift (String.ofList (head ++ c :: c :: literal))) = .ok n :=
    readClause_eq_ok.mpr (Text.toInt64?_trim_eq_some.mpr hn)
  rw [splitShift, hsplit]
  simp only [hread]
  rfl

/-- A shift backward is the opposite shift forward. -/
theorem parse_backward_iff {before back forth : String} {n m : Int64} (hn : Text.Literal back.toList n)
    (hm : Text.Literal forth.toList m) (hnm : m.toInt = -n.toInt) (a : Address) :
    parse (before ++ "<<" ++ back) = .ok a ↔ parse (before ++ ">>" ++ forth) = .ok a := by
  obtain ⟨hmin, rfl⟩ := eq_neg_iff.mp hnm
  have hback : splitShift (before ++ "<<" ++ back).toList = .ok (before.toList, -n) := by
    have htext : (before ++ "<<" ++ back).toList = before.toList ++ '<' :: '<' :: back.toList := by
      simp [String.toList_append]
    rw [htext, splitShift_append rfl hn, if_neg (by decide), if_neg hmin]
  have hforth : splitShift (before ++ ">>" ++ forth).toList = .ok (before.toList, -n) := by
    have htext : (before ++ ">>" ++ forth).toList = before.toList ++ '>' :: '>' :: forth.toList := by
      simp [String.toList_append]
    rw [htext, splitShift_append rfl hm, if_pos rfl]
  -- the texts differ, but they only show in errors
  rw [parse_eq_ok, parse_eq_ok]
  simp only [hback, hforth, splitCount_iff]

/-- The grammar of addresses. Reading gives an address exactly for the texts that are written as one, and which address
is settled by the text; every other text is a parse error. And after any text a shift backward by `n` means what a shift
forward by `-n` means, if both are integers of 64 bits: either text is that of the same address, or neither is one. -/
theorem parse_grammar :
    (∀ (text : String) (a : Address), parse text = .ok a ↔ Written text.toList a) ∧
      (∀ text : String, (∀ a, ¬ Written text.toList a) → ∃ e, parse text = .error e ∧ e.family = .parse) ∧
      ∀ (before : String) (n m : Int64), m.toInt = -n.toInt → ∀ a,
        parse (before ++ "<<" ++ toString n) = .ok a ↔ parse (before ++ ">>" ++ toString m) = .ok a := by
  refine ⟨fun text a => parse_iff_written, fun text hnone => ?_, fun before n m hnm => ?_⟩
  · cases h : parse text with
    | error e => exact ⟨e, rfl, family_of_parse h⟩
    | ok a => exact absurd (parse_iff_written.mp h) (hnone a)
  · exact parse_backward_iff (Text.literal_toString n) (Text.literal_toString m) hnm

/-- Of three colons the last two are the mark, and earlier marks of both sorts stay in the name. -/
theorem parse_grammar_marked :
    Written "a::b<<::: 4 >>-03".toList ⟨"a::b<<:", some 4, -3⟩ ∧ (∀ a, ¬ Written "a::4 b".toList a) ∧
      ∀ a, parse ("a>" ++ "<<" ++ toString (-3 : Int64)) = .ok a ↔ parse ("a>" ++ ">>" ++ toString (3 : Int64)) = .ok a := by
  have hread : parse "a::b<<::: 4 >>-03" = .ok ⟨"a::b<<:", some 4, -3⟩ := rfl
  have hfail : ∀ a, parse "a::4 b" ≠ .ok a := fun a h => by cases h
  refine ⟨(parse_grammar.1 _ _).mp hread, fun a ha => hfail a ((parse_grammar.1 _ _).mpr ha), ?_⟩
  exact parse_grammar.2.2 "a>" (-3) 3 (by decide)

/-! ## Faithful texts -/

theorem doubled_isShiftMark : Doubled isShiftMark text ↔ ['<', '<'] <:+: text ∨ ['>', '>'] <:+: text := by
  constructor
  · rintro ⟨c, hc, hcc⟩
    have hcases : c = '<' ∨ c = '>' := by simpa [isShiftMark] using hc
    rcases hcases with rfl | rfl
    · exact .inl hcc
    · exact .inr hcc
  · rintro (h | h)
    · exact ⟨'<', rfl, h⟩
    · exact ⟨'>', rfl, h⟩

theorem doubled_isCountMark : Doubled isCountMark text ↔ [':', ':'] <:+: text := by
  constructor
  · rintro ⟨c, hc, hcc⟩
    obtain rfl : c = ':' := by simpa [isCountMark] using hc
    exact hcc
  · exact fun h => ⟨':', rfl, h⟩

/-- An address is read from its own text exactly if it has a name, its shift is not the least one, there is no shift mark
in the name unless a shift is written, and no occurrence mark unless an occurrence is. -/
theorem parse_render_iff (a : Address) :
    parse a.render = .ok a ↔
      a.name ≠ "" ∧ a.shift ≠ Int64.minValue ∧
        (['<', '<'] <:+: a.name.toList ∨ ['>', '>'] <:+: a.name.toList → a.shift ≠ 0) ∧
        ([':', ':'] <:+: a.name.toList → a.occurrence ≠ none) := by
  rw [← doubled_isShiftMark, ← doubled_isCountMark]
  constructor
  · intro h
    have hne : a.name ≠ "" := (parse_eq_ok.mp h).1
    exact ⟨hne, shift_ne_of_parse_render h, fun hd hzero => not_doubled_of_parse_render h hzero hd,
      occurrence_ne_of_parse h⟩
  · rintro ⟨hne, hmin, hshift, hcount⟩
    exact parse_render hne hmin hshift hcount

/-- A name may end in half a mark: the mark of the clause after it is still the last one. -/
example : parse (render ⟨"a<:", some 1, -2⟩) = .ok ⟨"a<:", some 1, -2⟩ := rfl

end Address

end NamedRows
