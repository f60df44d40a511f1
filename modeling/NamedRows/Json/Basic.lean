/-!
# JSON values

What a JSON document can hold (`Json`). Numbers keep the literal they are written by. A string that holds half a
character is a value, but it has no text.
-/

namespace NamedRows

/-- A value of a JSON document. -/
inductive Json
  | null
  | bool (b : Bool)
  | number (literal : List Char)
  /-- A string, or none for one that has no text. -/
  | string (s : Option String)
  | array (items : List Json)
  /-- Members in their order; names may repeat. -/
  | object (members : List (Option String × Json))
  deriving Repr

end NamedRows
