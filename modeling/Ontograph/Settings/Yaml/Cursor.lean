/-
Ontograph.Settings.Yaml.Cursor — places in a YAML document.

What a place means depends on its column and on what stands before it on its
line, so both are part of a cursor, together with the values that have been
given a name so far. Line breaks of all kinds are line feeds from the start.
-/
import Ontograph.Settings.Setting

namespace Ontograph.Yaml

/-! ## Characters -/

def isSpace (c : Char) : Bool := c = ' ' || c = '\t'

/-- Whether a character would separate words, as the end of the document does. -/
def isGap (c : Option Char) : Bool := (c.map fun c => isSpace c || c = '\n').getD true

/-- The characters that structure lists and tables in brackets. -/
def isFlowMark (c : Char) : Bool := [',', '[', ']', '\x7b', '\x7d'].contains c

def unifyBreaks : List Char → List Char
  | '\r' :: '\n' :: rest => '\n' :: unifyBreaks rest
  | '\r' :: rest => '\n' :: unifyBreaks rest
  | c :: rest => c :: unifyBreaks rest
  | [] => []

/-! ## Cursors -/

/-- A place in a document: the text from there on, its column, whether nothing but blanks stands
before it on its line, and the values and the prefixes of tags that have been named before. -/
structure Cursor where
  rest : List Char
  column : Nat := 0
  fresh : Bool := true
  anchors : List (String × Setting) := []
  handles : List (String × String) := []

namespace Cursor

def head? (c : Cursor) : Option Char := c.rest.head?

def next (c : Cursor) : Cursor :=
  match c.rest with
  | [] => c
  | '\n' :: rest => { c with rest, column := 0, fresh := true }
  | x :: rest => { c with rest, column := c.column + 1, fresh := c.fresh && isSpace x }

/-- The place behind so many characters of a line, not all of them blanks. -/
def skip (count : Nat) (c : Cursor) : Cursor :=
  { c with rest := c.rest.drop count, column := c.column + count, fresh := false }

def endOfLine (c : Cursor) : Cursor := c.skip (c.rest.takeWhile (· ≠ '\n')).length

/-- Whether a mark that has to be followed by a gap stands at a place. -/
def isAt (mark : List Char) (c : Cursor) : Bool :=
  match mark.isPrefixOf? c.rest with
  | some rest => isGap rest.head?
  | none => false

def isMarker (c : Cursor) : Bool :=
  c.fresh && c.column = 0 && (c.isAt ['-', '-', '-'] || c.isAt ['.', '.', '.'])

def isOver (c : Cursor) : Bool := c.rest.isEmpty || c.isMarker

/-- The place behind blanks, comments and line breaks. A comment does not follow a word directly,
and a tab does not stand where indentation of more than `n` columns is due, unless its line is
empty. -/
def gapWith? (n : Int) : Nat → Bool → Cursor → Option Cursor
  | 0, _, _ => none
  | fuel + 1, spaced, c =>
    match c.rest with
    | ' ' :: _ | '\n' :: _ => gapWith? n fuel true c.next
    | '\t' :: rest =>
      if c.fresh && c.column ≤ n then
        match rest.dropWhile isSpace with
        | [] | '\n' :: _ | '#' :: _ => gapWith? n fuel true c.endOfLine
        | _ => none
      else gapWith? n fuel true c.next
    | '#' :: _ => if spaced || c.fresh then gapWith? n fuel true c.endOfLine else some c
    | _ => some c

def gap? (n : Int) (c : Cursor) : Option Cursor := gapWith? n (c.rest.length + 1) false c

/-- The place behind a gap in brackets, which has to be indented by more than `n` columns. -/
def innerGap? (n : Int) (c : Cursor) : Option Cursor := do
  let c ← c.gap? n
  if c.isOver || (c.fresh && c.column ≤ n) then none else some c

def breaks? (n : Int) : Nat → Cursor → Option (Nat × Cursor)
  | 0, _ => none
  | fuel + 1, c =>
    match c.rest with
    | ' ' :: _ => breaks? n fuel c.next
    | '\t' :: rest =>
      if c.column ≤ n && (rest.dropWhile isSpace).head? ≠ some '\n' then none
      else breaks? n fuel c.next
    | '\n' :: _ => (breaks? n fuel c.next).map fun (count, c) => (count + 1, c)
    | _ => some (0, c)

def between (start stop : Cursor) : List Char :=
  start.rest.take (start.rest.length - stop.rest.length)

end Cursor

end Ontograph.Yaml
