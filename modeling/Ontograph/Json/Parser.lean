/-
Ontograph.Json.Parser — JSON texts as values.

`read` accepts the grammar and returns the shape of a text: blanks are space,
tab, line feed and carriage return, and strings hold no raw control character.
`parse` settles the shape into a value, within the limit of nesting.
-/
import Ontograph.Json.Number
import Ontograph.Json.Shape

namespace Ontograph.Json

/-! ## Blanks and strings -/

def isSpace (c : Char) : Bool := c = ' ' || c = '\t' || c = '\n' || c = '\r'

def skipSpace (cs : List Char) : List Char := cs.dropWhile isSpace

def hexValue? (c : Char) : Option Nat :=
  if '0' ≤ c ∧ c ≤ '9' then some (c.toNat - 48)
  else if 'a' ≤ c ∧ c ≤ 'f' then some (c.toNat - 87)
  else if 'A' ≤ c ∧ c ≤ 'F' then some (c.toNat - 55)
  else none

def unit? (a b c d : Char) : Option Nat := do
  pure (((← hexValue? a) * 16 + (← hexValue? b)) * 256 + (← hexValue? c) * 16 + (← hexValue? d))

def unescape? : Char → Option Char
  | '"' => some '"'
  | '\\' => some '\\'
  | '/' => some '/'
  | 'b' => some '\x08'
  | 'f' => some '\x0c'
  | 'n' => some '\n'
  | 'r' => some '\r'
  | 't' => some '\t'
  | _ => none

/-- Content with one more character in front. Behind the first half of a surrogate pair there is
none. -/
def prepend (high : Option Nat) (c : Char) :
    Option (List Char) × List Char → Option (List Char) × List Char
  | (content, rest) => (if high.isSome then none else content.map (c :: ·), rest)

/-- The content of a string behind its opening quote or behind the first half of a surrogate pair,
and the text behind its closing quote. There is no content if a half stands alone. -/
def stringBody? (high : Option Nat) : List Char → Option (Option (List Char) × List Char)
  | [] => none
  | '"' :: rest => some (if high.isSome then none else some [], rest)
  | '\\' :: 'u' :: a :: b :: c :: d :: rest =>
    match unit? a b c d with
    | none => none
    | some unit =>
      if 0xDC00 ≤ unit ∧ unit < 0xE000 then
        match high with
        | some high =>
          let code := 0x10000 + (high - 0xD800) * 0x400 + (unit - 0xDC00)
          (stringBody? none rest).map (prepend none (Char.ofNat code))
        | none => (stringBody? none rest).map fun (_, rest) => (none, rest)
      else if 0xD800 ≤ unit ∧ unit < 0xDC00 then
        (stringBody? (some unit) rest).map fun (content, rest) =>
          (if high.isSome then none else content, rest)
      else (stringBody? none rest).map (prepend high (Char.ofNat unit))
  | '\\' :: c :: rest =>
    match unescape? c with
    | none => none
    | some plain => (stringBody? none rest).map (prepend high plain)
  | c :: rest =>
    if c.toNat < 0x20 ∨ c = '\\' then none else (stringBody? none rest).map (prepend high c)

/-! ## Values -/

def word? : List Char → List Char → Option (List Char)
  | [], rest => some rest
  | c :: word, d :: rest => if c = d then word? word rest else none
  | _ :: _, [] => none

mutual

/-- The shape of a value at the front of a text, and the rest. Of two steps in a row at least one consumes a
character, so fuel of twice the text's length and two more is never used up. -/
def value? : Nat → List Char → Option (Shape × List Char)
  | 0, _ => none
  | fuel + 1, cs =>
    match skipSpace cs with
    | [] => none
    | '\x7b' :: rest =>
      match skipSpace rest with
      | '\x7d' :: rest => some (.object [], rest)
      | rest => (fields? fuel rest).map fun (fields, rest) => (.object fields, rest)
    | '[' :: rest =>
      match skipSpace rest with
      | ']' :: rest => some (.array [], rest)
      | rest => (items? fuel rest).map fun (items, rest) => (.array items, rest)
    | '"' :: rest =>
      (stringBody? none rest).map fun (content, rest) =>
        (.literal (content.map fun cs => .string (String.ofList cs)), rest)
    | 'n' :: rest => (word? ['u', 'l', 'l'] rest).map (.literal (some .null), ·)
    | 't' :: rest => (word? ['r', 'u', 'e'] rest).map (.literal (some (.bool true)), ·)
    | 'f' :: rest => (word? ['a', 'l', 's', 'e'] rest).map (.literal (some (.bool false)), ·)
    | cs => (numberLiteral? cs).map fun (value, rest) => (.literal value, rest)

def items? : Nat → List Char → Option (List Shape × List Char)
  | 0, _ => none
  | fuel + 1, cs =>
    match value? fuel cs with
    | none => none
    | some (item, rest) =>
      match skipSpace rest with
      | ']' :: rest => some ([item], rest)
      | ',' :: rest => (items? fuel rest).map fun (items, rest) => (item :: items, rest)
      | _ => none

def fields? : Nat → List Char → Option (List (Option String × Shape) × List Char)
  | 0, _ => none
  | fuel + 1, cs =>
    match skipSpace cs with
    | '"' :: rest =>
      match stringBody? none rest with
      | none => none
      | some (key, rest) =>
        match skipSpace rest with
        | ':' :: rest =>
          match value? fuel rest with
          | none => none
          | some (value, rest) =>
            let entry := (key.map String.ofList, value)
            match skipSpace rest with
            | '\x7d' :: rest => some ([entry], rest)
            | ',' :: rest => (fields? fuel rest).map fun (fields, rest) => (entry :: fields, rest)
            | _ => none
        | _ => none
    | _ => none

end

/-- The shape of a JSON text: one value, with blanks around it and nothing else. -/
def read (s : String) : Option Shape :=
  let cs := s.toList
  match value? (2 * cs.length + 2) cs with
  | some (value, rest) => if (skipSpace rest).isEmpty then some value else none
  | none => none

/-! ## Texts as values -/

def depthLimit : Nat := 127

/-- The value of a JSON text. -/
def parse (s : String) : Option Json := (read s).bind (Shape.settle depthLimit)

end Ontograph.Json
