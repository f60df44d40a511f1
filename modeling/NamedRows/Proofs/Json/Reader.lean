import NamedRows.Json.Grammar
import NamedRows.Json.Reader

/-!
# Reading what the grammar derives

A document is read as the value that the grammar gives it (`Document.parse?_eq`), so no text is the document of two
values (`Document.unique`).
-/

namespace NamedRows.Json

variable {cs ds rest : List Char} {c : Char}

/-! ## Strings -/

theorem charFor?_of_escape {letter : Char} (h : Escape letter c) : charFor? letter = some c ∧ letter ≠ 'u' := by
  cases h <;> decide

/-- What is spelt is read up to the closing quote. -/
theorem readCodes_of_spells {codes : List Nat} (h : Spells cs codes) (rest : List Char) :
    readCodes (cs ++ '"' :: rest) = some (codes, rest) := by
  induction h with
  | nil => rw [List.nil_append, readCodes]
  | plain hcontrol hquote hbackslash h ih =>
    rw [List.cons_append, readCodes.eq_5 _ _ hquote (fun _ _ _ _ _ hc _ => hbackslash hc)
      (fun _ _ hc _ => hbackslash hc), ih]
    exact if_neg (Nat.not_lt.mpr hcontrol)
  | letter hc h ih =>
    obtain ⟨hchar, hu⟩ := charFor?_of_escape hc
    rw [List.cons_append, List.cons_append, readCodes.eq_4 _ _ (fun _ _ _ _ _ hl _ => hu hl), ih, hchar]
    rfl
  | code hn h ih =>
    simp only [List.cons_append]
    rw [readCodes, ih, hn]
    rfl

/-! ## Numbers -/

/-- The text ends here, or goes on with a character that is no part of a number. -/
def Ends (rest : List Char) : Prop := ∀ c ∈ rest.head?, isBlank c = true ∨ c = ',' ∨ c = ']' ∨ c = '\x7d'

theorem isBlank_iff : isBlank c = true ↔ c = ' ' ∨ c = '\t' ∨ c = '\n' ∨ c = '\r' := by
  simp only [isBlank, Bool.or_eq_true, decide_eq_true_eq, or_assoc]

theorem Ends.head (h : Ends rest) (hc : c ∈ rest.head?) : c.isDigit = false ∧ c ≠ '.' ∧ c ≠ 'e' ∧ c ≠ 'E' := by
  rcases h c hc with hblank | rfl | rfl | rfl
  · rcases isBlank_iff.mp hblank with rfl | rfl | rfl | rfl <;> decide
  all_goals decide

/-- A text that starts with digits starts with a digit. -/
theorem Digits.head (h : Digits cs) (hc : c ∈ (cs ++ rest).head?) : c.isDigit = true := by
  obtain ⟨hne, hall⟩ := h
  cases cs with
  | nil => exact absurd rfl hne
  | cons d ds =>
    cases hc
    exact hall _ List.mem_cons_self

theorem digits?_append (h : Digits cs) (hrest : ∀ c ∈ rest.head?, c.isDigit = false) :
    digits? (cs ++ rest) = some (cs, rest) := by
  have htail : rest.takeWhile Char.isDigit = [] := by
    cases rest with
    | nil => rfl
    | cons c rest => rw [List.takeWhile_cons_of_neg (by simp [hrest c rfl])]
  have hdigits : (cs ++ rest).takeWhile Char.isDigit = cs := by
    rw [List.takeWhile_append_of_pos h.2, htail, List.append_nil]
  unfold digits?
  simp only [hdigits]
  rw [if_neg h.1, List.drop_left]

theorem whole?_append (h : Whole cs) (hrest : ∀ c ∈ rest.head?, c.isDigit = false) :
    whole? (cs ++ rest) = some (cs, rest) := by
  cases h with
  | zero =>
    have hnone : rest.head?.any Char.isDigit = false := by
      rw [Option.any_eq_false]
      exact hrest
    show (if rest.head?.any Char.isDigit then none else some (['0'], rest)) = _
    rw [hnone]
    rfl
  | digits hc h =>
    rw [List.cons_append, whole?.eq_2 _ fun _ hzero => hc (List.cons.inj hzero).1]
    exact digits?_append h hrest

theorem fraction?_append (h : Fraction cs) (hrest : ∀ c ∈ rest.head?, c.isDigit = false ∧ c ≠ '.') :
    fraction? (cs ++ rest) = some (cs, rest) := by
  cases h with
  | none =>
    refine fraction?.eq_2 _ fun after hpoint => ?_
    rw [List.nil_append] at hpoint
    exact (hrest '.' (by rw [hpoint]; rfl)).2 rfl
  | some h =>
    rw [List.cons_append, fraction?, digits?_append h fun c hc => (hrest c hc).1]
    rfl

/-- A sign is read as such, and a digit is none. -/
theorem sign_append {allowed sign : List Char} (hsign : sign = [] ∨ ∃ c ∈ allowed, sign = [c])
    (hrest : ∀ c ∈ rest.head?, c ∉ allowed) : Json.sign allowed (sign ++ rest) = (sign, rest) := by
  rcases hsign with rfl | ⟨c, hc, rfl⟩
  · cases rest with
    | nil => rfl
    | cons c rest => exact if_neg (by rw [List.contains_iff_mem]; exact hrest c rfl)
  · exact if_pos (List.contains_iff_mem.mpr hc)

theorem exponent?_append (h : Exponent cs) (hrest : Ends rest) : exponent? (cs ++ rest) = some (cs, rest) := by
  cases h with
  | none =>
    cases rest with
    | nil => rfl
    | cons c rest =>
      obtain ⟨-, -, he, hE⟩ := hrest.head (c := c) rfl
      exact if_neg (not_or.mpr ⟨he, hE⟩)
  | @some e sign ds he hsign h =>
    have hsigns : sign = [] ∨ ∃ c ∈ ['+', '-'], sign = [c] := by simpa using hsign
    have hhead : ∀ c ∈ (ds ++ rest).head?, c ∉ ['+', '-'] := fun c hc hmem => by
      have hdigit := h.head hc
      simp only [List.mem_cons, List.not_mem_nil, or_false] at hmem
      rcases hmem with rfl | rfl <;> exact absurd hdigit (by decide)
    have hdigits := digits?_append h fun c hc => (hrest.head hc).1
    rw [List.cons_append, exponent?, if_pos he, List.append_assoc, sign_append hsigns hhead]
    simp [hdigits]

theorem Whole.head (h : Whole cs) (hc : c ∈ (cs ++ rest).head?) : c.isDigit = true := by
  cases h with
  | zero =>
    cases hc
    decide
  | digits _ h => exact h.head hc

/-- A number starts with a minus or a digit. -/
theorem Number.exists_cons (h : Number cs) : ∃ c tail, cs = c :: tail ∧ (c = '-' ∨ c.isDigit = true) := by
  obtain ⟨rfl | rfl, hwhole, -, -⟩ := h
  · cases hwhole with
    | zero => exact ⟨_, _, rfl, .inr (by decide)⟩
    | digits hc h => exact ⟨_, _, rfl, .inr (h.2 _ List.mem_cons_self)⟩
  · exact ⟨_, _, rfl, .inl rfl⟩

/-- What a number starts with is no blank, and nothing else starts with it. -/
theorem not_other_of_number (hc : c = '-' ∨ c.isDigit = true) :
    c ∉ [' ', '\t', '\n', '\r', '[', ']', '\x7b', '"', 'n', 't', 'f'] := by
  intro hmem
  rcases hc with rfl | hdigit
  · exact absurd hmem (by decide)
  · simp only [List.mem_cons, List.not_mem_nil, or_false] at hmem
    rcases hmem with rfl | rfl | rfl | rfl | rfl | rfl | rfl | rfl | rfl | rfl | rfl <;> exact absurd hdigit (by decide)

theorem Exponent.head (h : Exponent cs) (hrest : Ends rest) (hc : c ∈ (cs ++ rest).head?) :
    c.isDigit = false ∧ c ≠ '.' := by
  cases h with
  | none =>
    obtain ⟨hdigit, hpoint, -⟩ := hrest.head hc
    exact ⟨hdigit, hpoint⟩
  | some he _ _ =>
    cases hc
    rcases he with rfl | rfl <;> decide

theorem Fraction.head (h : Fraction cs) (hrest : ∀ c ∈ rest.head?, c.isDigit = false ∧ c ≠ '.')
    (hc : c ∈ (cs ++ rest).head?) : c.isDigit = false := by
  cases h with
  | none => exact (hrest c hc).1
  | some _ =>
    cases hc
    decide

/-- Each part of a number is read as far as it goes, since the next one starts with a character of its own. -/
theorem number?_append (h : Number cs) (hrest : Ends rest) : number? (cs ++ rest) = some (cs, rest) := by
  obtain @⟨sign, whole, fraction, exponent, hsign, hwhole, hfraction, hexponent⟩ := h
  have hsigns : sign = [] ∨ ∃ c ∈ ['-'], sign = [c] := by simpa using hsign
  have hminus : ∀ c ∈ (whole ++ (fraction ++ (exponent ++ rest))).head?, c ∉ ['-'] := fun c hc hmem => by
    have hdigit := hwhole.head hc
    cases List.mem_singleton.mp hmem
    exact absurd hdigit (by decide)
  have htail : ∀ c ∈ (exponent ++ rest).head?, c.isDigit = false ∧ c ≠ '.' := fun c hc => hexponent.head hrest hc
  have hdigit : ∀ c ∈ (fraction ++ (exponent ++ rest)).head?, c.isDigit = false := fun c hc =>
    hfraction.head htail hc
  simp only [number?, List.append_assoc, sign_append hsigns hminus, whole?_append hwhole hdigit,
    fraction?_append hfraction htail, exponent?_append hexponent hrest, Option.bind_eq_bind, Option.bind_some]
  rfl

/-! ## Blanks and marks -/

theorem skip_append (h : Blanks cs) (rest : List Char) : skip (cs ++ rest) = skip rest :=
  List.dropWhile_append_of_pos fun c hc => isBlank_iff.mpr (h c hc)

theorem skip_cons (h : isBlank c = false) (rest : List Char) : skip (c :: rest) = c :: rest :=
  List.dropWhile_cons_of_neg (by simp [h])

theorem mark_of_skip (h : skip cs = c :: rest) : ∃ hlen, mark c cs = some ⟨rest, hlen⟩ := by
  have hlen : rest.length < cs.length := by
    have hle := length_skip_le cs
    rwa [h] at hle
  refine ⟨hlen, ?_⟩
  unfold mark
  split
  case h_1 hnil =>
    rw [h] at hnil
    cases hnil
  case h_2 d ds hcons =>
    rw [h] at hcons
    cases hcons
    exact if_pos rfl

theorem mark_eq_none {d : Char} (h : skip cs = d :: rest) (hne : d ≠ c) : mark c cs = none := by
  unfold mark
  split
  case h_1 => rfl
  case h_2 d' ds hcons =>
    rw [h] at hcons
    cases hcons
    exact if_neg hne

/-! ## Parts of documents -/

/-- A reader returns a value and a rest. -/
def Yields {α : Type} {cs : List Char} (result : Option (α × Rest cs)) (a : α) (rest : List Char) : Prop :=
  ∃ h, result = some (a, ⟨rest, h⟩)

section Parts

variable {inner : Reader} {v : Json} {vs : List Json} {name : Option String} {ms : List (Option String × Json)}
  {start after next : List Char}

theorem yields_shorter (h : rest.length < cs.length) : Yields (shorter cs v rest) v rest := ⟨h, dif_pos h⟩

theorem yields_value {depth : Nat} (h : Yields (form (value depth) (skip cs)) v rest) :
    Yields (value (depth + 1) cs) v rest := by
  obtain ⟨hlen, hform⟩ := h
  refine ⟨Nat.lt_of_lt_of_le hlen (length_skip_le cs), ?_⟩
  simp only [value, hform, Option.map_some]

theorem yields_lastItem (hv : Yields (inner cs) v after) (hafter : skip after = ']' :: rest) :
    Yields (items inner cs) [v] rest := by
  obtain ⟨hlen, hread⟩ := hv
  obtain ⟨hlen', hclose⟩ := mark_of_skip hafter
  refine ⟨Nat.lt_trans hlen' hlen, ?_⟩
  rw [items, hread]
  simp only [mark_eq_none hafter (by decide : ']' ≠ ','), hclose]

theorem yields_items (hv : Yields (inner cs) v after) (hafter : skip after = ',' :: next)
    (hvs : Yields (items inner next) vs rest) : Yields (items inner cs) (v :: vs) rest := by
  obtain ⟨hlen, hread⟩ := hv
  obtain ⟨hlen', hcomma⟩ := mark_of_skip hafter
  obtain ⟨hlen'', hmore⟩ := hvs
  refine ⟨by omega, ?_⟩
  rw [items, hread]
  simp only [hcomma, hmore]

theorem yields_memberName {codes : List Nat} (hopen : skip cs = '"' :: start)
    (hname : readCodes start = some (codes, after)) (hcolon : skip after = ':' :: rest) :
    Yields (memberName cs) (textOf codes) rest := by
  obtain ⟨hlen, hquote⟩ := mark_of_skip hopen
  obtain ⟨hlen', hmark⟩ := mark_of_skip hcolon
  have hcodes := length_of_readCodes hname
  refine ⟨by omega, ?_⟩
  unfold memberName
  rw [hquote]
  simp only [Option.bind_eq_bind, Option.bind_some]
  split
  case h_1 hnone =>
    rw [hname] at hnone
    cases hnone
  case h_2 codes' after' hsome =>
    rw [hname] at hsome
    cases hsome
    rw [hmark]
    rfl

theorem yields_lastMember (hname : Yields (memberName cs) name start) (hv : Yields (inner start) v after)
    (hafter : skip after = '\x7d' :: rest) : Yields (members inner cs) [(name, v)] rest := by
  obtain ⟨hlen, hname⟩ := hname
  obtain ⟨hlen', hread⟩ := hv
  obtain ⟨hlen'', hclose⟩ := mark_of_skip hafter
  refine ⟨by omega, ?_⟩
  rw [members, hname]
  simp only [hread, mark_eq_none hafter (by decide : '\x7d' ≠ ','), hclose]

theorem yields_members (hname : Yields (memberName cs) name start) (hv : Yields (inner start) v after)
    (hafter : skip after = ',' :: next) (hms : Yields (members inner next) ms rest) :
    Yields (members inner cs) ((name, v) :: ms) rest := by
  obtain ⟨hlen, hname⟩ := hname
  obtain ⟨hlen', hread⟩ := hv
  obtain ⟨hlen'', hcomma⟩ := mark_of_skip hafter
  obtain ⟨hnext, hmore⟩ := hms
  refine ⟨by omega, ?_⟩
  rw [members, hname]
  simp only [hread, hcomma, hmore]

theorem yields_scalar {d : Char} (hbracket : d ≠ '[') (hbrace : d ≠ '\x7b') (h : Yields (scalar (d :: cs)) v rest) :
    Yields (form inner (d :: cs)) v rest := by
  rwa [form.eq_3 inner _ (fun _ hd => hbracket (List.cons.inj hd).1) (fun _ hd => hbrace (List.cons.inj hd).1)]

theorem yields_string {codes : List Nat} (h : readCodes cs = some (codes, rest)) :
    Yields (form inner ('"' :: cs)) (.string (textOf codes)) rest := by
  have hlen : rest.length < ('"' :: cs).length := Nat.lt_succ_of_lt (length_of_readCodes h)
  refine yields_scalar (by decide) (by decide) ?_
  rw [scalar, h]
  exact yields_shorter hlen

theorem yields_number {literal : List Char} (h : Number literal) (hrest : Ends rest) :
    Yields (form inner (literal ++ rest)) (.number literal) rest := by
  have hread := number?_append h hrest
  obtain ⟨d, ds, rfl, hd⟩ := h.exists_cons
  have hothers := not_other_of_number hd
  simp only [List.mem_cons, List.not_mem_nil, or_false, not_or] at hothers
  obtain ⟨-, -, -, -, hbracket, -, hbrace, hquote, hn, ht, hf⟩ := hothers
  rw [List.cons_append] at hread ⊢
  refine yields_scalar hbracket hbrace ?_
  rw [scalar.eq_5 _ (fun _ hd => hquote (List.cons.inj hd).1) (fun _ hd => hn (List.cons.inj hd).1)
    (fun _ hd => ht (List.cons.inj hd).1) (fun _ hd => hf (List.cons.inj hd).1), hread]
  refine yields_shorter ?_
  rw [List.length_cons, List.length_append]
  omega

theorem yields_emptyArray (h : skip cs = ']' :: rest) : Yields (form inner ('[' :: cs)) (.array []) rest := by
  obtain ⟨hlen, hclose⟩ := mark_of_skip h
  refine ⟨Nat.lt_succ_of_lt hlen, ?_⟩
  simp only [form, hclose]

theorem yields_array {d : Char} (hhead : skip cs = d :: after) (hd : d ≠ ']') (h : Yields (items inner cs) vs rest) :
    Yields (form inner ('[' :: cs)) (.array vs) rest := by
  obtain ⟨hlen, hread⟩ := h
  refine ⟨Nat.lt_succ_of_lt hlen, ?_⟩
  simp only [form, mark_eq_none hhead hd, hread, Option.map_some]

theorem yields_emptyObject (h : skip cs = '\x7d' :: rest) : Yields (form inner ('\x7b' :: cs)) (.object []) rest := by
  obtain ⟨hlen, hclose⟩ := mark_of_skip h
  refine ⟨Nat.lt_succ_of_lt hlen, ?_⟩
  simp only [form, hclose]

theorem yields_object {d : Char} (hhead : skip cs = d :: after) (hd : d ≠ '\x7d')
    (h : Yields (members inner cs) ms rest) : Yields (form inner ('\x7b' :: cs)) (.object ms) rest := by
  obtain ⟨hlen, hread⟩ := h
  refine ⟨Nat.lt_succ_of_lt hlen, ?_⟩
  simp only [form, mark_eq_none hhead hd, hread, Option.map_some]

end Parts

/-! ## Documents -/

/-- Readers with depth enough return what a part holds. Only a number has to end before other text. Blanks after an
element may be left to the mark that follows it. -/
def Part.IsRead : Part → List Char → Prop
  | .value v, cs => ∀ depth rest, cs.length ≤ depth + 1 → Ends rest →
    Yields (form (Json.value depth) (cs ++ rest)) v rest
  | .element v, cs => ∀ depth rest, cs.length ≤ depth → Ends rest →
    ∃ after, Yields (Json.value depth (cs ++ rest)) v after ∧ skip after = skip rest
  | .elements vs, cs => ∀ depth rest, cs.length ≤ depth → Yields (items (Json.value depth) (cs ++ ']' :: rest)) vs rest
  | .member m, cs => ∀ depth rest, cs.length ≤ depth → Ends rest →
    ∃ start after, Yields (memberName (cs ++ rest)) m.1 start ∧ Yields (Json.value depth start) m.2 after ∧
      skip after = skip rest
  | .members ms, cs => ∀ depth rest, cs.length ≤ depth →
    Yields (Json.members (Json.value depth) (cs ++ '\x7d' :: rest)) ms rest

theorem Ends.append (h : Blanks cs) (hrest : Ends rest) : Ends (cs ++ rest) := by
  cases cs with
  | nil => exact hrest
  | cons c cs =>
    intro d hd
    cases hd
    exact .inl (isBlank_iff.mpr (h c List.mem_cons_self))

theorem ends_mark (h : c = ',' ∨ c = ']' ∨ c = '\x7d') (rest : List Char) : Ends (c :: rest) := by
  intro d hd
  cases hd
  exact .inr h

/-- A value starts with a character that is neither a blank nor the end of an array. -/
theorem Derives.value_head {v : Json} (h : Derives (.value v) cs) :
    ∃ c tail, cs = c :: tail ∧ isBlank c = false ∧ c ≠ ']' := by
  cases h with
  | number h =>
    obtain ⟨c, tail, rfl, hc⟩ := h.exists_cons
    have hothers := not_other_of_number hc
    refine ⟨c, tail, rfl, Bool.eq_false_iff.mpr fun hblank => ?_, ?_⟩
    · rcases isBlank_iff.mp hblank with rfl | rfl | rfl | rfl <;> exact hothers (by decide)
    · rintro rfl
      exact hothers (by decide)
  | _ => exact ⟨_, _, rfl, by decide, by decide⟩

theorem Derives.element_head {v : Json} (h : Derives (.element v) cs) (rest : List Char) :
    ∃ c tail, skip (cs ++ rest) = c :: tail ∧ c ≠ ']' := by
  cases h with
  | element hleft h _ =>
    obtain ⟨c, tail, rfl, hblank, hc⟩ := h.value_head
    rw [List.append_assoc, skip_append hleft]
    exact ⟨c, _, skip_cons hblank _, hc⟩

theorem Derives.elements_head {vs : List Json} (h : Derives (.elements vs) cs) (rest : List Char) :
    ∃ c tail, skip (cs ++ rest) = c :: tail ∧ c ≠ ']' := by
  cases h with
  | lastElement h => exact h.element_head rest
  | elements h _ =>
    rw [List.append_assoc]
    exact h.element_head _

theorem Derives.member_head {m : Option String × Json} (h : Derives (.member m) cs) (rest : List Char) :
    ∃ tail, skip (cs ++ rest) = '"' :: tail := by
  cases h with
  | member hleft _ _ _ =>
    rw [List.append_assoc, skip_append hleft]
    exact ⟨_, skip_cons (by decide) _⟩

theorem Derives.members_head {ms : List (Option String × Json)} (h : Derives (.members ms) cs) (rest : List Char) :
    ∃ tail, skip (cs ++ rest) = '"' :: tail := by
  cases h with
  | lastMember h => exact h.member_head rest
  | members h _ =>
    rw [List.append_assoc]
    exact h.member_head _

/-- Every part is read, by induction on its derivation. -/
theorem Derives.isRead {p : Part} (h : Derives p cs) : p.IsRead cs := by
  induction h with
  | nullWord =>
    intro depth rest hdepth hrest
    refine yields_scalar (by decide) (by decide) (yields_shorter ?_)
    show rest.length < rest.length + 4
    omega
  | trueWord =>
    intro depth rest hdepth hrest
    refine yields_scalar (by decide) (by decide) (yields_shorter ?_)
    show rest.length < rest.length + 4
    omega
  | falseWord =>
    intro depth rest hdepth hrest
    refine yields_scalar (by decide) (by decide) (yields_shorter ?_)
    show rest.length < rest.length + 5
    omega
  | number h =>
    intro depth rest hdepth hrest
    exact yields_number h hrest
  | string h =>
    intro depth rest hdepth hrest
    rw [List.cons_append, List.append_assoc]
    exact yields_string (readCodes_of_spells h rest)
  | emptyArray h =>
    intro depth rest hdepth hrest
    rw [List.cons_append, List.append_assoc]
    exact yields_emptyArray (skip_append h _)
  | array h ih =>
    intro depth rest hdepth hrest
    rw [List.cons_append, List.append_assoc]
    obtain ⟨c, tail, hhead, hc⟩ := h.elements_head (']' :: rest)
    refine yields_array hhead hc (ih depth rest ?_)
    simp only [List.length_cons, List.length_append, List.length_nil] at hdepth
    omega
  | emptyObject h =>
    intro depth rest hdepth hrest
    rw [List.cons_append, List.append_assoc]
    exact yields_emptyObject (skip_append h _)
  | object h ih =>
    intro depth rest hdepth hrest
    rw [List.cons_append, List.append_assoc]
    obtain ⟨tail, hhead⟩ := h.members_head ('\x7d' :: rest)
    refine yields_object hhead (by decide) (ih depth rest ?_)
    simp only [List.length_cons, List.length_append, List.length_nil] at hdepth
    omega
  | @element v left cs right hleft h hright ih =>
    intro depth rest hdepth hrest
    obtain ⟨c, tail, rfl, hblank, -⟩ := h.value_head
    rw [List.length_append, List.length_append] at hdepth
    -- the value has a character at least, so there is a level of depth for it
    cases depth with
    | zero =>
      rw [List.length_cons] at hdepth
      omega
    | succ depth =>
      refine ⟨right ++ rest, ?_, skip_append hright rest⟩
      rw [List.append_assoc, List.append_assoc]
      refine yields_value ?_
      rw [skip_append hleft, List.cons_append, skip_cons hblank]
      exact ih depth (right ++ rest) (by omega) (hrest.append hright)
  | lastElement h ih =>
    intro depth rest hdepth
    obtain ⟨after, hv, hafter⟩ := ih depth (']' :: rest) hdepth (ends_mark (by decide) rest)
    exact yields_lastItem hv hafter
  | elements h hs ih ihs =>
    intro depth rest hdepth
    rw [List.length_append, List.length_cons] at hdepth
    rw [List.append_assoc]
    obtain ⟨after, hv, hafter⟩ := ih depth _ (by omega) (ends_mark (.inl rfl) _)
    exact yields_items hv hafter (ihs depth rest (by omega))
  | @member left name right cs codes v hleft hname hright h ih =>
    intro depth rest hdepth hrest
    simp only [List.length_append, List.length_cons] at hdepth
    obtain ⟨after, hv, hafter⟩ := ih depth rest (by omega) hrest
    refine ⟨cs ++ rest, after, ?_, hv, hafter⟩
    have htext : left ++ '"' :: (name ++ '"' :: (right ++ ':' :: cs)) ++ rest =
        left ++ '"' :: (name ++ '"' :: (right ++ ':' :: (cs ++ rest))) := by
      simp only [List.append_assoc, List.cons_append]
    rw [htext]
    exact yields_memberName (skip_append hleft _) (readCodes_of_spells hname _) (skip_append hright _)
  | lastMember h ih =>
    intro depth rest hdepth
    obtain ⟨start, after, hname, hv, hafter⟩ := ih depth ('\x7d' :: rest) hdepth (ends_mark (by decide) rest)
    exact yields_lastMember hname hv hafter
  | members h hs ih ihs =>
    intro depth rest hdepth
    rw [List.length_append, List.length_cons] at hdepth
    rw [List.append_assoc]
    obtain ⟨start, after, hname, hv, hafter⟩ := ih depth _ (by omega) (ends_mark (.inl rfl) _)
    exact yields_members hname hv hafter (ihs depth rest (by omega))

/-- A document is read as the value that it holds. -/
theorem Document.parse?_eq {text : String} {v : Json} (h : Document text v) : parse? text = some v := by
  have hdocument := h.isRead (text.toList.length + 1) [] (Nat.le_succ _) (by simp [Ends])
  rw [List.append_nil] at hdocument
  obtain ⟨after, ⟨hlen, hread⟩, hafter⟩ := hdocument
  have hnil : skip after = [] := hafter
  simp only [parse?, hread, hnil, if_true]

/-- No text is a document of two values. -/
theorem Document.unique {text : String} {v w : Json} (hv : Document text v) (hw : Document text w) : v = w := by
  have h := hv.parse?_eq.symm.trans hw.parse?_eq
  exact Option.some.inj h

end NamedRows.Json
