/-
Ontograph.Text.Lines — a text as its lines.

A line ends at a line feed. One carriage return directly before the line feed
belongs to the line's end and not to the line; a text that ends in a line feed
has no further, empty line after it. `joinLines` is the way back.
-/

namespace Ontograph.Text

/-- The text cut at its line feeds: one piece more than there are line feeds. -/
def splitAtFeeds : List Char → List (List Char)
  | [] => [[]]
  | c :: rest =>
    if c = '\n' then [] :: splitAtFeeds rest
    else
      match splitAtFeeds rest with
      | [] => [[c]]
      | piece :: pieces => (c :: piece) :: pieces

/-- A line without the carriage return that it may end in. -/
def dropReturn (line : List Char) : List Char :=
  if line.getLast? = some '\r' then line.dropLast else line

/-- The pieces between line feeds as lines: the last piece is a line only if it is not empty. -/
def closeLines : List (List Char) → List (List Char)
  | [] => []
  | [last] => if last.isEmpty then [] else [last]
  | piece :: next :: pieces => dropReturn piece :: closeLines (next :: pieces)

def linesOf (cs : List Char) : List (List Char) := closeLines (splitAtFeeds cs)

def lines (s : String) : List String := (linesOf s.toList).map String.ofList

def joinFeeds : List (List Char) → List Char
  | [] => []
  | [line] => line
  | line :: next :: rest => line ++ '\n' :: joinFeeds (next :: rest)

def joinLines (ls : List String) : String := String.ofList (joinFeeds (ls.map String.toList))

end Ontograph.Text
