import NamedRows.Unicode.Hidden

/-!
# Quoted text

A text between double quotes in which every character can be seen (`quote`): quotes, backslashes and the common
controls are escaped by a letter, and characters that do not show on their own (`Unicode.hidden`) by their code.
-/

namespace NamedRows.Text

/-- A character by its code in hexadecimal. -/
def escapeCode (c : Char) : List Char :=
  ['\\', 'u', '\x7b'] ++ Nat.toDigits 16 c.toNat ++ ['\x7d']

/-- One character inside double quotes. -/
def quoteChar (c : Char) : List Char :=
  if c = '\x00' then ['\\', '0']
  else if c = '\t' then ['\\', 't']
  else if c = '\r' then ['\\', 'r']
  else if c = '\n' then ['\\', 'n']
  else if c = '\\' then ['\\', '\\']
  else if c = '"' then ['\\', '"']
  else if ' ' ≤ c ∧ c ≤ '~' then [c]
  else if Unicode.hidden.contains c then escapeCode c
  else [c]

/-- The text between double quotes, with every character visible. -/
def quote (s : String) : String :=
  String.ofList ('"' :: s.toList.flatMap quoteChar ++ ['"'])

end NamedRows.Text
