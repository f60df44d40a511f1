import NamedRows.Json.Basic
import NamedRows.Json.Text

/-!
# The grammar of JSON documents

What a value is written as, apart from how it is read (`Derives`).

    document := element
    element  := blanks value blanks
    value    := "null" | "true" | "false" | number | string | "[" blanks "]" | "[" elements "]"
              | "{" blanks "}" | "{" members "}"
    elements := element | element "," elements
    member   := blanks string blanks ":" element
    members  := member | member "," members

Between the quotes of a string each plain character stands for itself, each letter after a backslash for one character,
and four hexadecimal digits for half a character or for one (`Spells`, `Escape`). A number has a sign or none, a whole
part without leading zeros, and maybe a fraction and an exponent (`Number`).
-/

namespace NamedRows.Json

/-- Spaces, tabs and line ends. -/
def Blanks (cs : List Char) : Prop := ∀ c ∈ cs, c = ' ' ∨ c = '\t' ∨ c = '\n' ∨ c = '\r'

/-! ## Strings -/

/-- What a letter after a backslash stands for. -/
inductive Escape : Char → Char → Prop
  | quote : Escape '"' '"'
  | backslash : Escape '\\' '\\'
  | slash : Escape '/' '/'
  | backspace : Escape 'b' '\x08'
  | formFeed : Escape 'f' '\x0c'
  | lineFeed : Escape 'n' '\n'
  | carriageReturn : Escape 'r' '\r'
  | tab : Escape 't' '\t'

/-- What stands between the quotes of a string, and the codes that it spells. -/
inductive Spells : List Char → List Nat → Prop
  | nil : Spells [] []
  | plain {c : Char} {cs : List Char} {codes : List Nat} (hcontrol : 0x20 ≤ c.toNat) (hquote : c ≠ '"')
    (hbackslash : c ≠ '\\') (h : Spells cs codes) : Spells (c :: cs) (c.toNat :: codes)
  | letter {letter c : Char} {cs : List Char} {codes : List Nat} (hc : Escape letter c) (h : Spells cs codes) :
    Spells ('\\' :: letter :: cs) (c.toNat :: codes)
  | code {a b c d : Char} {n : Nat} {cs : List Char} {codes : List Nat} (hn : Text.hexNumber? [a, b, c, d] = some n)
    (h : Spells cs codes) : Spells ('\\' :: 'u' :: a :: b :: c :: d :: cs) (n :: codes)

/-- The text of a string, if it has one. -/
def textOf (codes : List Nat) : Option String := (ofCodes codes).map String.ofList

/-! ## Numbers -/

def Digits (cs : List Char) : Prop := cs ≠ [] ∧ ∀ c ∈ cs, c.isDigit = true

inductive Whole : List Char → Prop
  | zero : Whole ['0']
  | digits {c : Char} {cs : List Char} (hc : c ≠ '0') (h : Digits (c :: cs)) : Whole (c :: cs)

inductive Fraction : List Char → Prop
  | none : Fraction []
  | some {cs : List Char} (h : Digits cs) : Fraction ('.' :: cs)

inductive Exponent : List Char → Prop
  | none : Exponent []
  | some {e : Char} {sign cs : List Char} (he : e = 'e' ∨ e = 'E') (hsign : sign = [] ∨ sign = ['+'] ∨ sign = ['-'])
    (h : Digits cs) : Exponent (e :: (sign ++ cs))

/-- The literal of a number. -/
inductive Number : List Char → Prop
  | parts {sign whole fraction exponent : List Char} (hsign : sign = [] ∨ sign = ['-']) (hwhole : Whole whole)
    (hfraction : Fraction fraction) (hexponent : Exponent exponent) :
    Number (sign ++ (whole ++ (fraction ++ exponent)))

/-! ## Documents -/

/-- The parts of a document, with what they hold. -/
inductive Part
  | value (v : Json)
  | element (v : Json)
  | elements (vs : List Json)
  | member (m : Option String × Json)
  | members (ms : List (Option String × Json))

/-- A text is that of a part. -/
inductive Derives : Part → List Char → Prop
  | nullWord : Derives (.value .null) ['n', 'u', 'l', 'l']
  | trueWord : Derives (.value (.bool true)) ['t', 'r', 'u', 'e']
  | falseWord : Derives (.value (.bool false)) ['f', 'a', 'l', 's', 'e']
  | number {literal : List Char} (h : Number literal) : Derives (.value (.number literal)) literal
  | string {cs : List Char} {codes : List Nat} (h : Spells cs codes) :
    Derives (.value (.string (textOf codes))) ('"' :: (cs ++ ['"']))
  | emptyArray {cs : List Char} (h : Blanks cs) : Derives (.value (.array [])) ('[' :: (cs ++ [']']))
  | array {vs : List Json} {cs : List Char} (h : Derives (.elements vs) cs) :
    Derives (.value (.array vs)) ('[' :: (cs ++ [']']))
  | emptyObject {cs : List Char} (h : Blanks cs) : Derives (.value (.object [])) ('\x7b' :: (cs ++ ['\x7d']))
  | object {ms : List (Option String × Json)} {cs : List Char} (h : Derives (.members ms) cs) :
    Derives (.value (.object ms)) ('\x7b' :: (cs ++ ['\x7d']))
  | element {v : Json} {left cs right : List Char} (hleft : Blanks left) (h : Derives (.value v) cs)
    (hright : Blanks right) : Derives (.element v) (left ++ (cs ++ right))
  | lastElement {v : Json} {cs : List Char} (h : Derives (.element v) cs) : Derives (.elements [v]) cs
  | elements {v : Json} {vs : List Json} {cs ds : List Char} (h : Derives (.element v) cs)
    (hs : Derives (.elements vs) ds) : Derives (.elements (v :: vs)) (cs ++ ',' :: ds)
  | member {left name right cs : List Char} {codes : List Nat} {v : Json} (hleft : Blanks left)
    (hname : Spells name codes) (hright : Blanks right) (h : Derives (.element v) cs) :
    Derives (.member (textOf codes, v)) (left ++ '"' :: (name ++ '"' :: (right ++ ':' :: cs)))
  | lastMember {m : Option String × Json} {cs : List Char} (h : Derives (.member m) cs) : Derives (.members [m]) cs
  | members {m : Option String × Json} {ms : List (Option String × Json)} {cs ds : List Char}
    (h : Derives (.member m) cs) (hs : Derives (.members ms) ds) : Derives (.members (m :: ms)) (cs ++ ',' :: ds)

/-- A text is a document that holds a value. -/
def Document (text : String) (v : Json) : Prop := Derives (.element v) text.toList

end NamedRows.Json
