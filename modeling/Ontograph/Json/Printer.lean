/-
Ontograph.Json.Printer — JSON values as text.

Two layouts: compact, and pretty with two blanks of indentation a level and
empty containers closed on the spot. In strings only the quote, the backslash
and the control characters below U+0020 are escaped.
-/
import Ontograph.Json.Value
import Ontograph.Number.Notation

namespace Ontograph.Json

/-! ## Leaves -/

def hexDigit (n : Nat) : Char := if n < 10 then Char.ofNat (48 + n) else Char.ofNat (87 + n)

def escape (c : Char) : List Char :=
  if c = '"' then ['\\', '"']
  else if c = '\\' then ['\\', '\\']
  else if c = '\n' then ['\\', 'n']
  else if c = '\r' then ['\\', 'r']
  else if c = '\t' then ['\\', 't']
  else if c.toNat = 8 then ['\\', 'b']
  else if c.toNat = 12 then ['\\', 'f']
  else if c.toNat < 0x20 then
    ['\\', 'u', '0', '0', hexDigit (c.toNat / 16), hexDigit (c.toNat % 16)]
  else [c]

def quoted (s : String) : String := String.ofList ('"' :: (s.toList.flatMap escape ++ ['"']))

/-- A number; what is not finite has no text of its own and is written as null. -/
def numberText {w : Width} (x : Binary w) : String := if x.isFinite then x.documentText else "null"

/-! ## Layouts -/

mutual

def compact : Json → String
  | .null => "null"
  | .bool b => if b then "true" else "false"
  | .int i => toString i
  | .double x => numberText x
  | .single x => numberText x
  | .string s => quoted s
  | .array items => "[" ++ compactItems items ++ "]"
  | .object fields => "\x7b" ++ compactFields fields ++ "\x7d"

def compactItems : List Json → String
  | [] => ""
  | [item] => compact item
  | item :: next :: rest => compact item ++ "," ++ compactItems (next :: rest)

def compactFields : List (String × Json) → String
  | [] => ""
  | [(key, value)] => quoted key ++ ":" ++ compact value
  | (key, value) :: next :: rest =>
    quoted key ++ ":" ++ compact value ++ "," ++ compactFields (next :: rest)

end

def newLine (depth : Nat) : String := String.ofList ('\n' :: List.replicate (2 * depth) ' ')

mutual

def prettyAt (depth : Nat) : Json → String
  | .array (item :: rest) =>
    "[" ++ prettyItems (depth + 1) (item :: rest) ++ newLine depth ++ "]"
  | .object (field :: rest) =>
    "\x7b" ++ prettyFields (depth + 1) (field :: rest) ++ newLine depth ++ "\x7d"
  | .null => "null"
  | .bool b => if b then "true" else "false"
  | .int i => toString i
  | .double x => numberText x
  | .single x => numberText x
  | .string s => quoted s
  | .array [] => "[]"
  | .object [] => "\x7b\x7d"

def prettyItems (depth : Nat) : List Json → String
  | [] => ""
  | [item] => newLine depth ++ prettyAt depth item
  | item :: next :: rest =>
    newLine depth ++ prettyAt depth item ++ "," ++ prettyItems depth (next :: rest)

def prettyFields (depth : Nat) : List (String × Json) → String
  | [] => ""
  | [(key, value)] => newLine depth ++ quoted key ++ ": " ++ prettyAt depth value
  | (key, value) :: next :: rest =>
    newLine depth ++ quoted key ++ ": " ++ prettyAt depth value ++ "," ++
      prettyFields depth (next :: rest)

end

def pretty (value : Json) : String := prettyAt 0 value

end Ontograph.Json
