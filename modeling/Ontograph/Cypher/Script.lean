/-
Ontograph.Cypher.Script — a script as its statements.

A statement may be laid out over several lines and ends with the line that
ends in a semicolon. Blank lines and lines that begin with two slashes belong
to no statement, wherever they stand. A statement's lines are put together
with single blanks between them, without the semicolon.
-/
import Ontograph.Text.Blank
import Ontograph.Text.Lines

namespace Ontograph.Cypher

/-- Whether a trimmed line belongs to no statement. -/
def isIdle (line : List Char) : Bool := line.isEmpty || ['/', '/'].isPrefixOf line

/-- A line added to the lines of a statement that is not yet complete. -/
def extend (pending line : List Char) : List Char :=
  if pending.isEmpty then line else pending ++ ' ' :: line

def beforeSemicolon? (cs : List Char) : Option (List Char) :=
  if cs.getLast? = some ';' then some cs.dropLast else none

/-- The statements of trimmed lines, the first of them begun with `pending`. -/
def gather (pending : List Char) : List (List Char) → List (List Char)
  | [] => if (Text.trimBoth pending).isEmpty then [] else [Text.trimBoth pending]
  | line :: rest =>
    if isIdle line then gather pending rest
    else
      let text := extend pending line
      match beforeSemicolon? text with
      | some statement => Text.trimBoth statement :: gather [] rest
      | none => gather text rest

def statementsOf (script : List Char) : List (List Char) :=
  gather [] ((Text.linesOf script).map Text.trimBoth)

def statements (script : String) : List String :=
  (statementsOf script.toList).map String.ofList

end Ontograph.Cypher
