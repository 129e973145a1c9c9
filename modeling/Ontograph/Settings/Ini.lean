/-
Ontograph.Settings.Ini — INI documents as settings.

A document is a sequence of keys with values, under headings in brackets or
before the first of them. Every value is a text. A value ends with its line,
a key at the equals sign or colon behind it and a heading at its bracket,
wherever that stands. A backslash escapes in all three, and blanks around them
do not count. A comment takes up a line of its own and begins in its first
column. Of several sections of one name the last counts, and of several values
of one key in a section too.
-/
import Ontograph.Json.Parser
import Ontograph.Settings.Setting
import Ontograph.Text.Blank

namespace Ontograph.Ini

/-! ## Texts -/

/-- The characters that a character behind a backslash stands for; a line break stands for
nothing. -/
def unescape (c : Char) : List Char :=
  match c with
  | '0' => ['\x00']
  | 'a' => ['\x07']
  | 'b' => ['\x08']
  | 't' => ['\t']
  | 'r' => ['\r']
  | 'n' => ['\n']
  | '\n' => []
  | c => [c]

def hexChar? (a b c d : Char) : Option Char := do
  let n ← Json.unit? a b c d
  if n.isValidChar then some (Char.ofNat n) else none

/-- A text up to the first of some characters that is not escaped, and what follows from that
character on; `closed` tells whether the character has to be there. -/
def upTo? (isEnd : Char → Bool) (closed : Bool) : List Char → Option (List Char × List Char)
  | [] => if closed then none else some ([], [])
  | ['\\'] => none
  | '\\' :: 'x' :: a :: b :: c :: d :: rest => do
    let x ← hexChar? a b c d
    (upTo? isEnd closed rest).map fun (text, rest) => (x :: text, rest)
  | '\\' :: c :: rest =>
    if c = 'x' then none
    else (upTo? isEnd closed rest).map fun (text, rest) => (unescape c ++ text, rest)
  | c :: rest =>
    if isEnd c then some ([], c :: rest)
    else (upTo? isEnd closed rest).map fun (text, rest) => (c :: text, rest)

def isBreak (c : Char) : Bool := c = '\n' || c = '\r'

def value? (cs : List Char) : Option (List Char × List Char) :=
  match cs.dropWhile fun c => Text.isBlank c && !isBreak c with
  | c :: rest =>
    if c = '"' || c = '\'' then do
      let (quoted, rest) ← upTo? (· = c) true rest
      let (text, rest) ← upTo? isBreak false (rest.drop 1)
      pure (Text.trimBoth (quoted ++ text), rest)
    else (upTo? isBreak false (c :: rest)).map fun (text, rest) => (Text.trimBoth text, rest)
  | [] => some ([], [])

/-! ## Documents -/

/-- The part of a document read so far: its settings, the heading that is open, and the entries
under it. -/
structure Draft where
  settings : SettingTable := []
  heading : Option String := none
  entries : SettingTable := []

namespace Draft

/-- The settings with the open section in its place. -/
def closed (d : Draft) : SettingTable :=
  match d.heading with
  | none => d.entries.foldl (fun t e => place e t) d.settings
  | some heading => place (heading, .table d.entries) d.settings

def openSection (d : Draft) (heading : String) : Draft :=
  { settings := d.closed, heading := some heading }

def add (d : Draft) (key value : String) : Draft :=
  { d with entries := place (key, .text value) d.entries }

end Draft

/-- Blanks taken off the front of a text, and whether the rest begins a line, if the text does. -/
def skipBlanks (first : Bool) : List Char → Bool × List Char
  | [] => (first, [])
  | c :: rest =>
    if c = '\n' then skipBlanks true rest
    else if Text.isBlank c then skipBlanks false rest
    else (first, c :: rest)

/-- The settings of the rest of a document; `first` tells that it begins a line. -/
def document? : Nat → Draft → Bool → List Char → Option SettingTable
  | 0, _, _, _ => none
  | fuel + 1, d, first, cs =>
    match skipBlanks first cs with
    | (_, []) => some d.closed
    | (_, '[' :: rest) => do
      let (heading, rest) ← upTo? (· = ']') true rest
      document? fuel (d.openSection (String.ofList (Text.trimBoth heading))) false (rest.drop 1)
    | (first, c :: rest) =>
      if c = ';' || c = '#' then
        if first then document? fuel d false (rest.dropWhile (· ≠ '\n')) else none
      else do
        let (key, behind) ← upTo? (fun c => c = '=' || c = ':') true (c :: rest)
        let (value, behind) ← value? (behind.drop 1)
        if (Text.trimBoth key).isEmpty then none
        else
          document? fuel (d.add (String.ofList (Text.trimBoth key)) (String.ofList value)) false
            behind

def ofText? (s : String) : Option SettingTable :=
  document? (s.toList.length + 1) {} true s.toList

end Ontograph.Ini
