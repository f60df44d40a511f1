import NamedRows.Name.Address
import NamedRows.Proofs.Outcome
import NamedRows.Proofs.Text.Numeral

/-!
# Reading addresses back

An address is split where a marked character stands twice in a row (`Doubled`) for the last time
(`splitLast?_eq_some`), so its clauses are what follows the last marks of each sort (`splitShift_eq_ok`,
`splitCount_eq_ok`, `parse_eq_ok`).

- The text of an address is read as the address if there is a name, if the marks in the name are followed by a clause of
  their sort, and if the shift is not the least one (`parse_render`).
- The least shift has a text that no clause can hold (`shift_ne_of_parse_render`), and where no shift is written, marks
  in the name are taken for one (`not_doubled_of_parse_render`).
- So an address that was read is read again from its text exactly where it has neither of the two
  (`parse_render_iff_of_parse`).
-/

namespace NamedRows

namespace Address

open Text.Numeral

variable {mark : Char → Bool} {text head name literal : List Char}

/-! ## Doubled characters -/

/-- Some marked character stands twice in a row. -/
def Doubled (mark : Char → Bool) (text : List Char) : Prop := ∃ c, mark c = true ∧ [c, c] <:+: text

theorem not_doubled_nil : ¬ Doubled mark [] := by
  rintro ⟨c, -, h⟩
  exact absurd (List.eq_nil_of_infix_nil h) (List.cons_ne_nil _ _)

theorem doubled_cons {a : Char} :
    Doubled mark (a :: text) ↔ (text.head? = some a ∧ mark a = true) ∨ Doubled mark text := by
  simp only [Doubled, List.infix_cons_iff, and_or_left, exists_or]
  refine or_congr_left ⟨?_, ?_⟩
  · rintro ⟨c, hc, h⟩
    obtain ⟨rfl, hrest⟩ := List.cons_prefix_cons.mp h
    cases text with
    | nil => exact absurd (List.prefix_nil.mp hrest) (List.cons_ne_nil _ _)
    | cons b rest =>
      obtain ⟨rfl, -⟩ := List.cons_prefix_cons.mp hrest
      exact ⟨rfl, hc⟩
  · rintro ⟨hhead, ha⟩
    cases text with
    | nil => cases hhead
    | cons b rest =>
      cases hhead
      exact ⟨a, ha, by simp⟩

/-- Doubled characters of a part are doubled characters of the whole. -/
theorem Doubled.mono {whole : List Char} (h : Doubled mark text) (hi : text <:+: whole) : Doubled mark whole := by
  obtain ⟨c, hc, hcc⟩ := h
  exact ⟨c, hc, hcc.trans hi⟩

/-- What follows without a mark doubles nothing. -/
theorem doubled_append (hl : ∀ c ∈ literal, mark c = false) : Doubled mark (text ++ literal) ↔ Doubled mark text := by
  refine ⟨fun h => ?_, fun h => h.mono (List.prefix_append _ _).isInfix⟩
  induction text with
  | nil =>
    obtain ⟨c, hc, hcc⟩ := h
    have hm : c ∈ literal := hcc.subset List.mem_cons_self
    rw [hl c hm] at hc
    cases hc
  | cons a rest ih =>
    rw [List.cons_append, doubled_cons] at h
    rw [doubled_cons]
    rcases h with ⟨hhead, ha⟩ | h
    · cases rest with
      | cons b rest => exact Or.inl ⟨hhead, ha⟩
      | nil =>
        rw [hl a (List.mem_of_head? hhead)] at ha
        cases ha
    · exact Or.inr (ih h)

theorem not_doubled_cons {c : Char} (hl : ∀ x ∈ literal, mark x = false) : ¬ Doubled mark (c :: literal) := by
  show ¬ Doubled mark ([c] ++ literal)
  rw [doubled_append hl, doubled_cons]
  exact fun h => h.elim (fun h => nomatch h.1) not_doubled_nil

/-! ## The last place of a mark -/

theorem splitLast?_cons (mark : Char → Bool) (a : Char) (rest : List Char) :
    splitLast? mark (a :: rest) =
      match splitLast? mark rest with
      | some (before, c, after) => some (a :: before, c, after)
      | none => if rest.head? = some a ∧ mark a then some ([], a, rest.tail) else none := by
  cases rest with
  | nil => simp [splitLast?]
  | cons b rest =>
    have hhead : (b :: rest).head? = some a ↔ a = b := by
      rw [List.head?_cons, Option.some.injEq, eq_comm]
    simp only [hhead]
    cases hs : splitLast? mark (b :: rest) with
    | some p => rw [splitLast?, hs]
    | none =>
      rw [splitLast?, hs]
      rfl

/-- There is no place to split at if no marked character is doubled. -/
theorem splitLast?_eq_none : splitLast? mark text = none ↔ ¬ Doubled mark text := by
  induction text with
  | nil => exact ⟨fun _ => not_doubled_nil, fun _ => rfl⟩
  | cons a rest ih =>
    rw [splitLast?_cons, doubled_cons, not_or, ← ih]
    cases splitLast? mark rest with
    | some p => simp
    | none => simp

instance : Decidable (Doubled mark text) :=
  decidable_of_iff (splitLast? mark text ≠ none) (by rw [ne_eq, splitLast?_eq_none, Classical.not_not])

/-- A text is split at the last place where a marked character is doubled. -/
theorem splitLast?_eq_some {before after : List Char} {c : Char} :
    splitLast? mark text = some (before, c, after) ↔
      mark c = true ∧ text = before ++ c :: c :: after ∧ ¬ Doubled mark (c :: after) := by
  constructor
  · intro h
    induction text generalizing before with
    | nil => cases h
    | cons a rest ih =>
      rw [splitLast?_cons] at h
      cases hs : splitLast? mark rest with
      | some p =>
        rw [hs] at h
        cases h
        obtain ⟨hc, rfl, hlast⟩ := ih hs
        exact ⟨hc, rfl, hlast⟩
      | none =>
        rw [hs] at h
        simp only [Option.ite_none_right_eq_some, Option.some.injEq, Prod.mk.injEq] at h
        obtain ⟨⟨hhead, ha⟩, rfl, rfl, rfl⟩ := h
        cases rest with
        | nil => cases hhead
        | cons b rest =>
          cases hhead
          exact ⟨ha, rfl, splitLast?_eq_none.mp hs⟩
  · rintro ⟨hc, rfl, hlast⟩
    induction before with
    | nil =>
      rw [List.nil_append, splitLast?_cons, splitLast?_eq_none.mpr hlast]
      simp [hc]
    | cons a before ih => rw [List.cons_append, splitLast?_cons, ih]

/-! ## Clauses -/

theorem readClause_eq_ok {otherwise : Error.Malformed} {n : Int64} :
    readClause literal otherwise = .ok n ↔ toInt64? (Text.trim literal) = some n := by
  unfold readClause
  cases toInt64? (Text.trim literal) <;> simp

/-- The shift clause is what follows the last shift mark; a text without such a mark has no shift. -/
theorem splitShift_eq_ok {n : Int64} :
    splitShift text = .ok (head, n) ↔
      (¬ Doubled isShiftMark text ∧ head = text ∧ n = 0) ∨
      ∃ c literal m, text = head ++ c :: c :: literal ∧ ¬ Doubled isShiftMark (c :: literal) ∧
        toInt64? (Text.trim literal) = some m ∧ (c = '>' ∧ n = m ∨ c = '<' ∧ m ≠ Int64.minValue ∧ n = -m) := by
  unfold splitShift
  cases hs : splitLast? isShiftMark text with
  | none =>
    have hnone := splitLast?_eq_none.mp hs
    simp only [Except.ok.injEq, Prod.mk.injEq]
    refine ⟨fun ⟨hh, hn⟩ => Or.inl ⟨hnone, hh.symm, hn.symm⟩, ?_⟩
    rintro (⟨-, hh, hn⟩ | ⟨c, literal, m, rfl, hlast, -, hc⟩)
    · exact ⟨hh.symm, hn.symm⟩
    · have hmark : isShiftMark c = true := by rcases hc with ⟨rfl, -⟩ | ⟨rfl, -⟩ <;> rfl
      exact absurd ⟨c, hmark, ⟨head, literal, by simp⟩⟩ hnone
  | some p =>
    obtain ⟨before, mark, after⟩ := p
    obtain ⟨hmark, htext, hlast⟩ := splitLast?_eq_some.mp hs
    have hcases : mark = '<' ∨ mark = '>' := by simpa [isShiftMark] using hmark
    simp only [bind_eq_ok, readClause_eq_ok]
    constructor
    · rintro ⟨m, hm, h⟩
      split at h
      · rename_i hgt
        cases h
        exact Or.inr ⟨mark, after, _, htext, hlast, hm, Or.inl ⟨hgt, rfl⟩⟩
      · rename_i hgt
        split at h
        · cases h
        · rename_i hmin
          cases h
          exact Or.inr ⟨mark, after, _, htext, hlast, hm, Or.inr ⟨hcases.resolve_right hgt, hmin, rfl⟩⟩
    · rintro (⟨hnone, -⟩ | ⟨c, literal, m, htext', hlast', hm, hc⟩)
      · rw [splitLast?_eq_none.mpr hnone] at hs
        cases hs
      · -- the last mark is at one place only
        have hmark' : isShiftMark c = true := by rcases hc with ⟨rfl, -⟩ | ⟨rfl, -⟩ <;> rfl
        have hs' := splitLast?_eq_some.mpr ⟨hmark', htext', hlast'⟩
        rw [hs, Option.some.injEq, Prod.mk.injEq, Prod.mk.injEq] at hs'
        obtain ⟨rfl, rfl, rfl⟩ := hs'
        refine ⟨m, hm, ?_⟩
        rcases hc with ⟨rfl, hn⟩ | ⟨rfl, hmin, hn⟩
        · rw [hn]
          rfl
        · rw [if_neg (by decide), if_neg hmin, hn]
          rfl

/-- The occurrence clause is what follows the last occurrence mark. -/
theorem splitCount_eq_ok {occurrence : Option Int64} :
    splitCount text head = .ok (name, occurrence) ↔
      (¬ Doubled isCountMark head ∧ name = head ∧ occurrence = none) ∨
      ∃ literal k, head = name ++ ':' :: ':' :: literal ∧ ¬ Doubled isCountMark (':' :: literal) ∧
        toInt64? (Text.trim literal) = some k ∧ occurrence = some k := by
  unfold splitCount
  cases hs : splitLast? isCountMark head with
  | none =>
    have hnone := splitLast?_eq_none.mp hs
    simp only [Except.ok.injEq, Prod.mk.injEq]
    refine ⟨fun ⟨hh, ho⟩ => Or.inl ⟨hnone, hh.symm, ho.symm⟩, ?_⟩
    rintro (⟨-, hh, ho⟩ | ⟨literal, k, rfl, -⟩)
    · exact ⟨hh.symm, ho.symm⟩
    · exact absurd ⟨':', rfl, ⟨name, literal, by simp⟩⟩ hnone
  | some p =>
    obtain ⟨before, mark, after⟩ := p
    obtain ⟨hmark, hhead, hlast⟩ := splitLast?_eq_some.mp hs
    obtain rfl : mark = ':' := by simpa [isCountMark] using hmark
    simp only [bind_eq_ok, readClause_eq_ok]
    constructor
    · rintro ⟨k, hk, h⟩
      cases h
      exact Or.inr ⟨after, k, hhead, hlast, hk, rfl⟩
    · rintro (⟨hnone, -⟩ | ⟨literal, k, hhead', hlast', hk, rfl⟩)
      · rw [splitLast?_eq_none.mpr hnone] at hs
        cases hs
      · have hs' := splitLast?_eq_some.mpr ⟨rfl, hhead', hlast'⟩
        rw [hs] at hs'
        cases hs'
        exact ⟨k, hk, rfl⟩

/-- An address is read from a text that splits into a name and its clauses. -/
theorem parse_eq_ok {text : String} {a : Address} :
    parse text = .ok a ↔
      a.name ≠ "" ∧ ∃ head, splitShift text.toList = .ok (head, a.shift) ∧
        splitCount text.toList head = .ok (a.name.toList, a.occurrence) := by
  obtain ⟨name, occurrence, shift⟩ := a
  unfold parse
  simp only [bind_eq_ok]
  constructor
  · rintro ⟨⟨head, n⟩, hshift, ⟨name', k⟩, hcount, h⟩
    simp only at h
    split at h
    · cases h
    · rename_i hne
      cases h
      exact ⟨by simpa using hne, head, hshift, by simpa using hcount⟩
  · rintro ⟨hne, head, hshift, hcount⟩
    refine ⟨_, hshift, _, hcount, ?_⟩
    have hne' : name.toList ≠ [] := by simpa using hne
    simp [hne', pure, Except.pure]

/-! ## Texts that are no addresses -/

theorem family_of_readClause {otherwise : Error.Malformed} {e : Error}
    (h : readClause literal otherwise = .error e) : e.family = .parse := by
  unfold readClause at h
  split at h <;> cases h
  rfl

theorem family_of_splitShift {e : Error} (h : splitShift text = .error e) : e.family = .parse := by
  unfold splitShift at h
  split at h
  · cases h
  · rcases bind_eq_error.mp h with hc | ⟨n, -, h⟩
    · exact family_of_readClause hc
    · split at h
      · cases h
      · split at h
        · cases h; rfl
        · cases h

theorem family_of_splitCount {e : Error} (h : splitCount text head = .error e) : e.family = .parse := by
  unfold splitCount at h
  split at h
  · cases h
  · rcases bind_eq_error.mp h with hc | ⟨k, -, h⟩
    · exact family_of_readClause hc
    · cases h

/-- A text that is no address is a parse error. -/
theorem family_of_parse {text : String} {e : Error} (h : parse text = .error e) : e.family = .parse := by
  rcases bind_eq_error.mp h with hs | ⟨⟨head, shift⟩, -, h⟩
  · exact family_of_splitShift hs
  · rcases bind_eq_error.mp h with hc | ⟨⟨name, occurrence⟩, -, h⟩
    · exact family_of_splitCount hc
    · simp only at h
      split at h
      · cases h; rfl
      · cases h

/-! ## The text of an address -/

/-- Blanks, signs and digits mark nothing. -/
theorem not_mark {c : Char} (h : Text.isBlank c = true ∨ c = '+' ∨ c = '-' ∨ c.isDigit = true) :
    isShiftMark c = false ∧ isCountMark c = false := by
  have hne : ∀ x ∈ ['<', '>', ':'], c ≠ x := by
    rintro x hx rfl
    simp only [List.mem_cons, List.not_mem_nil, or_false] at hx
    rcases hx with rfl | rfl | rfl <;> revert h <;> decide
  simp only [isShiftMark, isCountMark, Bool.or_eq_false_iff, decide_eq_false_iff_not]
  exact ⟨⟨hne '<' (by simp), hne '>' (by simp)⟩, hne ':' (by simp)⟩

/-- The characters of numerals mark nothing. -/
theorem not_mark_of_mem_ofInt {c : Char} {n : Int} (h : c ∈ ofInt n) :
    isShiftMark c = false ∧ isCountMark c = false :=
  not_mark (.inr ((writes_ofInt n).mem h))

theorem isShiftMark_of_mem_countClause {a : Address} {c : Char} (h : c ∈ a.countClause) : isShiftMark c = false := by
  unfold countClause at h
  split at h
  · cases h
  · simp only [List.mem_cons] at h
    rcases h with rfl | rfl | h
    · rfl
    · rfl
    · exact (not_mark_of_mem_ofInt h).1

theorem toList_render (a : Address) : a.render.toList = a.name.toList ++ a.countClause ++ a.shiftClause :=
  String.toList_ofList

/-- The occurrence clause is taken off again. -/
theorem splitCount_countClause {a : Address} (hname : Doubled isCountMark a.name.toList → a.occurrence ≠ none)
    (text : List Char) : splitCount text (a.name.toList ++ a.countClause) = .ok (a.name.toList, a.occurrence) := by
  rw [splitCount_eq_ok]
  unfold countClause
  cases hk : a.occurrence with
  | none =>
    rw [List.append_nil]
    exact Or.inl ⟨fun hd => hname hd hk, rfl, rfl⟩
  | some k =>
    have hlast : ¬ Doubled isCountMark (':' :: ofInt k.toInt) :=
      not_doubled_cons fun c hc => (not_mark_of_mem_ofInt hc).2
    exact Or.inr ⟨ofInt k.toInt, k, rfl, hlast, toInt64?_trim_toInt k, rfl⟩

theorem toInt_neg_of_ne {n : Int64} (h : n ≠ Int64.minValue) : (-n).toInt = -n.toInt := by
  have hne : n.toInt ≠ -2 ^ 63 := fun he => h (Int64.toInt_inj.mp he)
  have hle := Int64.le_toInt n
  have hlt := Int64.toInt_lt n
  conv => lhs; rw [← Int64.ofInt_toInt n, Int64.neg_ofInt]
  exact Int64.toInt_ofInt_of_le (by omega) (by omega)

/-- The shift clause is taken off again. -/
theorem splitShift_render {a : Address} (hname : Doubled isShiftMark a.name.toList → a.shift ≠ 0)
    (hmin : a.shift ≠ Int64.minValue) :
    splitShift a.render.toList = .ok (a.name.toList ++ a.countClause, a.shift) := by
  have hnumeral : ∀ (c : Char) (n : Int), ¬ Doubled isShiftMark (c :: ofInt n) := fun c n =>
    not_doubled_cons fun x hx => (not_mark_of_mem_ofInt hx).1
  rw [toList_render, splitShift_eq_ok]
  unfold shiftClause
  by_cases hpos : 0 < a.shift
  · rw [if_pos hpos]
    exact Or.inr ⟨'>', ofInt a.shift.toInt, a.shift, rfl, hnumeral _ _, toInt64?_trim_toInt _, Or.inl ⟨rfl, rfl⟩⟩
  · rw [if_neg hpos]
    by_cases hneg : a.shift < 0
    · -- what is written is the opposite shift, which 64 bits hold
      rw [if_pos hneg]
      have hopposite : ofNat a.shift.toInt.natAbs = ofInt (-a.shift).toInt := by
        have hlt : a.shift.toInt < 0 := Int64.lt_iff_toInt_lt.mp hneg
        rw [toInt_neg_of_ne hmin, show -a.shift.toInt = (a.shift.toInt.natAbs : Int) by omega]
        rfl
      have hmin' : -a.shift ≠ Int64.minValue := fun he => hmin (Int64.neg_inj.mp he)
      rw [hopposite]
      exact Or.inr ⟨'<', _, -a.shift, rfl, hnumeral _ _, toInt64?_trim_toInt _,
        Or.inr ⟨rfl, hmin', Int64.neg_neg.symm⟩⟩
    · have hzero : a.shift = 0 := Int64.le_antisymm (Int64.not_lt.mp hpos) (Int64.not_lt.mp hneg)
      rw [if_neg hneg, List.append_nil]
      refine Or.inl ⟨fun hd => ?_, rfl, hzero⟩
      exact hname ((doubled_append fun c hc => isShiftMark_of_mem_countClause hc).mp hd) hzero

/-- An address is read from its text if it has a name, if marks in the name are followed by a clause of their sort, and
if the shift is not the least one. -/
theorem parse_render {a : Address} (hne : a.name ≠ "") (hmin : a.shift ≠ Int64.minValue)
    (hshift : Doubled isShiftMark a.name.toList → a.shift ≠ 0)
    (hcount : Doubled isCountMark a.name.toList → a.occurrence ≠ none) : parse a.render = .ok a :=
  parse_eq_ok.mpr ⟨hne, _, splitShift_render hshift hmin, splitCount_countClause hcount _⟩

/-- A name that no clause is read from: it is not empty, and no mark stands in it. -/
structure Unmarked (name : String) : Prop where
  ne_empty : name ≠ ""
  count : ¬ Doubled isCountMark name.toList
  shift : ¬ Doubled isShiftMark name.toList

/-- An address under an unmarked name is read from its text, unless its shift is the least one. -/
theorem Unmarked.parse_render {a : Address} (h : Unmarked a.name) (hmin : a.shift ≠ Int64.minValue) :
    parse a.render = .ok a :=
  Address.parse_render h.ne_empty hmin (fun hd => absurd hd h.shift) (fun hd => absurd hd h.count)

/-- The text of an occurrence of a name. -/
theorem render_occurrence (name : String) {k : Nat} {occurrence : Int64} (ho : occurrence.toInt = k) :
    render ⟨name, some occurrence, 0⟩ = name ++ "::" ++ toString k := by
  apply String.toList_injective
  rw [toList_render]
  simp only [countClause, ho, shiftClause, String.toList_append]
  show name.toList ++ ':' :: ':' :: Nat.toDigits 10 k ++ [] = name.toList ++ [':', ':'] ++ (Nat.repr k).toList
  simp [Nat.repr]

/-- The least shift is not read back: the number of its clause is beyond 64 bits. -/
theorem shift_ne_of_parse_render {a : Address} (h : parse a.render = .ok a) : a.shift ≠ Int64.minValue := by
  intro hmin
  have hclause : a.shiftClause = '<' :: '<' :: ofInt (2 ^ 63) := by
    unfold shiftClause
    rw [hmin]
    rfl
  obtain ⟨-, head, hsplit, -⟩ := parse_eq_ok.mp h
  rw [toList_render, hclause] at hsplit
  have hlast : splitLast? isShiftMark (a.name.toList ++ a.countClause ++ '<' :: '<' :: ofInt (2 ^ 63)) =
      some (a.name.toList ++ a.countClause, '<', ofInt (2 ^ 63)) :=
    splitLast?_eq_some.mpr ⟨rfl, rfl, not_doubled_cons fun x hx => (not_mark_of_mem_ofInt hx).1⟩
  unfold splitShift at hsplit
  rw [hlast] at hsplit
  obtain ⟨m, hm, -⟩ := bind_eq_ok.mp hsplit
  rw [readClause_eq_ok, toInt64?_trim_ofInt, if_neg (by decide)] at hm
  cases hm

/-- Where no shift is written, shift marks in the name are taken for a shift clause. -/
theorem not_doubled_of_parse_render {a : Address} (h : parse a.render = .ok a) (hzero : a.shift = 0) :
    ¬ Doubled isShiftMark a.name.toList := by
  obtain ⟨-, head, hsplit, hcount⟩ := parse_eq_ok.mp h
  have htext : a.render.toList = a.name.toList ++ a.countClause := by
    rw [toList_render, shiftClause, hzero]
    exact List.append_nil _
  rw [htext, splitShift_eq_ok] at hsplit
  rcases hsplit with ⟨hnone, -⟩ | ⟨c, literal, m, hhead, -, -, hc⟩
  · exact fun hd => hnone (hd.mono (List.prefix_append _ _).isInfix)
  · -- the name is what the part before the clause starts with, so the marks are in the occurrence clause
    exfalso
    have hname : ∃ rest, head = a.name.toList ++ rest := by
      rcases splitCount_eq_ok.mp hcount with ⟨-, hh, -⟩ | ⟨literal', k, hh, -⟩
      · exact ⟨[], by rw [hh, List.append_nil]⟩
      · exact ⟨_, hh⟩
    obtain ⟨rest, rfl⟩ := hname
    rw [List.append_assoc, List.append_cancel_left_eq] at hhead
    have hmem : c ∈ a.countClause := by
      rw [hhead]
      simp
    have hmark := isShiftMark_of_mem_countClause hmem
    rcases hc with ⟨rfl, -⟩ | ⟨rfl, -⟩ <;> cases hmark

/-- Occurrence marks are left in a name that was read only if an occurrence clause follows it. -/
theorem occurrence_ne_of_parse {text : String} {a : Address} (h : parse text = .ok a)
    (hd : Doubled isCountMark a.name.toList) : a.occurrence ≠ none := by
  obtain ⟨-, head, -, hcount⟩ := parse_eq_ok.mp h
  rcases splitCount_eq_ok.mp hcount with ⟨hnone, hh, -⟩ | ⟨literal, k, -, -, -, hk⟩
  · rw [hh] at hd
    exact absurd hd hnone
  · rw [hk]
    exact Option.some_ne_none k

/-- An address that was read is read again from its text exactly if its shift is not the least one and, where no shift
is written, its name holds no shift mark. -/
theorem parse_render_iff_of_parse {text : String} {a : Address} (h : parse text = .ok a) :
    parse a.render = .ok a ↔
      a.shift ≠ Int64.minValue ∧ (a.shift = 0 → ¬ Doubled isShiftMark a.name.toList) := by
  constructor
  · intro hback
    exact ⟨shift_ne_of_parse_render hback, not_doubled_of_parse_render hback⟩
  · rintro ⟨hmin, hzero⟩
    have hne : a.name ≠ "" := (parse_eq_ok.mp h).1
    exact parse_render hne hmin (fun hd hz => hzero hz hd) (occurrence_ne_of_parse h)

/-- Marks of both sorts in a name do no harm where clauses of both sorts follow. -/
theorem parse_render_marked :
    parse "a::b<<1::-1>>2" = .ok ⟨"a::b<<1", some (-1), 2⟩ ∧
      parse (render ⟨"a::b<<1", some (-1), 2⟩) = .ok ⟨"a::b<<1", some (-1), 2⟩ := by
  have h : parse "a::b<<1::-1>>2" = .ok ⟨"a::b<<1", some (-1), 2⟩ := rfl
  exact ⟨h, (parse_render_iff_of_parse h).mpr ⟨by decide, fun hzero => absurd hzero (by decide)⟩⟩

/-- A shift of zero is not written, so that the name `a<<1` is read as a shift of the name `a`; and the opposite of the
least shift is written but not read. -/
theorem parse_render_lost :
    parse "a<<1>>0" = .ok ⟨"a<<1", none, 0⟩ ∧
      parse (render ⟨"a<<1", none, 0⟩) = .ok ⟨"a", none, -1⟩ ∧
      parse "a>>-9223372036854775808" = .ok ⟨"a", none, Int64.minValue⟩ ∧
      parse (render ⟨"a", none, Int64.minValue⟩) =
        .error (.malformed "9223372036854775808" (.badShift "a<<9223372036854775808")) :=
  ⟨rfl, rfl, rfl, rfl⟩

end Address

end NamedRows
