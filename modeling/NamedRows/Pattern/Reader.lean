import NamedRows.Pattern.GroupName
import NamedRows.Pattern.Property
import NamedRows.Text.Blank
import NamedRows.Text.Hex

/-!
# Reading the small parts of patterns

Readers for what stands between the operators of a pattern: blanks and comments (`skipBlanks`), decimal counts
(`readCount`), character codes (`readCode`), flag lists (`readFlags`), names of groups (`readGroupName`) and properties
(`readProperty`). A reader gets the text from the character it starts at and returns what it read with the rest of the
text, or nothing if the pattern is not well formed.
-/

namespace NamedRows.Pattern

/-- The settings that parts of a pattern are read under. -/
structure Flags where
  /-- Letters stand for their other case too. -/
  anyCase : Bool := false
  /-- Line starts and ends are found inside the text. -/
  multiLine : Bool := false
  /-- The dot stands for line ends too. -/
  dotAll : Bool := false
  /-- Classes go beyond ASCII. -/
  unicode : Bool := true
  /-- A carriage return ends a line as well. -/
  crlf : Bool := false
  /-- Blanks and comments in the pattern are skipped. -/
  spaced : Bool := false
  /-- Repetitions take few copies first, and many first where a question mark follows. -/
  fewFirst : Bool := false

/-- Skips blanks and comments; a comment runs to the end of its line. -/
def skipNotes (inComment : Bool) : List Char → List Char
  | [] => []
  | c :: rest =>
    if inComment then skipNotes (c ≠ '\n') rest
    else if Text.isBlank c then skipNotes false rest
    else if c = '#' then skipNotes true rest
    else c :: rest

/-- Skips blanks and comments where the flags say so. -/
def skipBlanks (flags : Flags) (cs : List Char) : List Char := if flags.spaced then skipNotes false cs else cs

/-- The character that a member of a class looks ahead to. Where blanks are skipped it is the first character that is no
blank, and after the mark of a comment the next such one, be it in the comment or not; of blanks alone it is the first.
-/
def peek (flags : Flags) (cs : List Char) : Option Char :=
  if flags.spaced then
    let found := match cs.dropWhile Text.isBlank with
      | '#' :: rest => (rest.dropWhile Text.isBlank).head?
      | rest => rest.head?
    found.or cs.head?
  else cs.head?

theorem length_skipNotes_le (b : Bool) (cs : List Char) : (skipNotes b cs).length ≤ cs.length := by
  induction cs generalizing b with
  | nil => simp [skipNotes]
  | cons c r ih =>
    have := ih true; have := ih false; have := ih (c ≠ '\n')
    unfold skipNotes
    (repeat' split) <;> simp only [List.length_cons] <;> omega

theorem length_skipBlanks_le (flags : Flags) (cs : List Char) : (skipBlanks flags cs).length ≤ cs.length := by
  unfold skipBlanks; split
  · exact length_skipNotes_le _ _
  · exact Nat.le_refl _

theorem length_lt_of_skipBlanks {flags : Flags} {cs rest : List Char} {c : Char}
    (h : skipBlanks flags cs = c :: rest) : rest.length < cs.length := by
  have := length_skipBlanks_le flags cs
  rw [h] at this
  exact this

/-- The character whose code is written by the digits, if there is such a character. -/
def charOfHex? (digits : List Char) : Option Char :=
  let n := Text.hexNumber digits
  if h : n.isValidChar then some (Char.ofNatAux n h) else none

/-- Everything up to a closing brace. -/
def untilBrace (flags : Flags) (cs : List Char) : Option (List Char × List Char) :=
  match _h : skipBlanks flags cs with
  | [] => none
  | c :: rest =>
    if c = '\x7d' then some ([], rest)
    else (untilBrace flags rest).map fun (word, after) => (c :: word, after)
termination_by cs.length
decreasing_by exact length_lt_of_skipBlanks _h

/-- Exactly `n` hexadecimal digits. -/
def hexDigits (flags : Flags) : Nat → List Char → Option (List Char × List Char)
  | 0, cs => some ([], cs)
  | _ + 1, [] => none
  | n + 1, c :: rest =>
    if Text.isHexDigit c then (hexDigits flags n (skipBlanks flags rest)).map fun (ds, after) => (c :: ds, after)
    else none

/-- A character code after `\x`, `\u` or `\U`: some number of hexadecimal digits, or any number in braces. -/
def readCode (flags : Flags) (width : Nat) (cs : List Char) : Option (Char × List Char) :=
  match skipBlanks flags cs with
  | '\x7b' :: rest => do
    let (digits, after) ← untilBrace flags rest
    if digits = [] ∨ !digits.all Text.isHexDigit then none
    else return (← charOfHex? digits, skipBlanks flags after)
  | cs => do
    let (digits, after) ← hexDigits flags width cs
    return (← charOfHex? digits, after)

/-- A run of decimal digits, with blanks between them where the flags allow it. -/
def countDigits (flags : Flags) (cs : List Char) : List Char × List Char :=
  match cs with
  | [] => ([], [])
  | c :: rest =>
    if c.isDigit then
      let (ds, after) := countDigits flags (skipBlanks flags rest)
      (c :: ds, after)
    else ([], c :: rest)
termination_by cs.length
decreasing_by exact Nat.lt_succ_of_le (length_skipBlanks_le flags rest)

/-- A decimal count of at most 32 bits with blanks around it. No digits at all are reported apart from a bad count. -/
def readCount (flags : Flags) (cs : List Char) : Option (Option Nat × List Char) :=
  let (digits, after) := countDigits flags (cs.dropWhile Text.isBlank)
  let rest := skipBlanks flags (after.dropWhile Text.isBlank)
  let n := Nat.ofDigitChars 10 digits 0
  if digits = [] then some (none, rest)
  else if n < UInt32.size then some (some n, rest)
  else none

/-- The bounds of a counted repetition, after its opening brace: `n`, `n,` or `n,m`, and the closing brace. -/
def readBounds (flags : Flags) (cs : List Char) : Option ((Nat × Option Nat) × List Char) :=
  match skipBlanks flags cs with
  | [] => none
  | cs => do
    let (least, rest) ← readCount flags cs
    let least ← least
    match rest with
    | '\x7d' :: rest => return ((least, some least), rest)
    | ',' :: rest =>
      match skipBlanks flags rest with
      | '\x7d' :: rest => return ((least, none), rest)
      | rest => do
        let (most, rest) ← readCount flags rest
        let most ← most
        match rest with
        | '\x7d' :: rest => if least ≤ most then return ((least, some most), rest) else none
        | _ => none
    | _ => none

/-- The letters of a flag list, each with whether it stands after the minus sign, up to the colon or parenthesis that
ends the list. Each letter, and the minus sign, may stand once, and the list may not end in the minus sign. -/
def readFlags (negated : Bool) (seen : List Char) :
    List Char → Option (List (Char × Bool) × Char × List Char)
  | [] => none
  | c :: rest =>
    if c = ':' ∨ c = ')' then
      if seen.head? = some '-' then none else some ([], c, rest)
    else if seen.contains c then none
    else if c = '-' then readFlags true (c :: seen) rest
    else if "imsUuRx".contains c then
      (readFlags negated (c :: seen) rest).map fun (items, last, after) => ((c, !negated) :: items, last, after)
    else none

/-- The settings after one flag. -/
def Flags.apply (flags : Flags) (item : Char × Bool) : Flags :=
  match item.1 with
  | 'i' => { flags with anyCase := item.2 }
  | 'm' => { flags with multiLine := item.2 }
  | 's' => { flags with dotAll := item.2 }
  | 'u' => { flags with unicode := item.2 }
  | 'R' => { flags with crlf := item.2 }
  | 'U' => { flags with fewFirst := item.2 }
  | 'x' => { flags with spaced := item.2 }
  | _ => flags

/-- A group's name, up to the closing angle bracket. -/
def readGroupName (cs : List Char) : Option (List Char × List Char) :=
  let name := cs.takeWhile (· ≠ '>')
  match name, cs.dropWhile (· ≠ '>') with
  | first :: others, _ :: rest =>
    if isNameChar true first && others.all (isNameChar false) then some (name, rest) else none
  | _, _ => none

/-- The part of a text before the first occurrence of a mark, and what follows the mark. -/
def splitAt? (mark : List Char) : List Char → Option (List Char × List Char)
  | [] => none
  | c :: rest =>
    if mark.isPrefixOf (c :: rest) then some ([], (c :: rest).drop mark.length)
    else (splitAt? mark rest).map fun (before, after) => (c :: before, after)

/-- The set of a property in braces, and whether it is to be negated once more: `\p{scx!=Katakana}` stands for the
characters without the value, and `\P{scx!=Katakana}` for those with it. -/
def bracedProperty? (name : List Char) : Option (CharSet × Bool) :=
  match splitAt? ['!', '='] name with
  | some (property, value) => (valueSet? property value).map (·, true)
  | none =>
    match (splitAt? [':'] name).or (splitAt? ['='] name) with
    | some (property, value) => (valueSet? property value).map (·, false)
    | none => (propertySet? name).map (·, false)

/-- What stands after `\p` or `\P`: one letter, or a name in braces. -/
def readPropertyName (flags : Flags) (cs : List Char) : Option ((CharSet × Bool) × List Char) :=
  match skipBlanks flags cs with
  | [] => none
  | '\\' :: _ => none
  | '\x7b' :: rest =>
    (untilBrace flags rest).bind fun (name, after) => (bracedProperty? name).map (·, after)
  | c :: rest => (propertySet? [c]).map fun s => ((s, false), skipBlanks flags rest)

/-- The set of a property. Without classes beyond ASCII there are none. -/
def readProperty (flags : Flags) (negated : Bool) (cs : List Char) : Option (CharSet × List Char) := do
  let ((s, flipped), rest) ← readPropertyName flags cs
  let s := if flags.anyCase then CharSet.anyCase s else s
  if flags.unicode then return (if negated != flipped then CharSet.compl s else s, rest) else none

end NamedRows.Pattern
