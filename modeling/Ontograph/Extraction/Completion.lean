/-
Ontograph.Extraction.Completion — the items of a completion.

A completion answers with a JSON array, or with an object that has the array
under `entities`. Either may stand inside a code fence: three backticks and
letters before it, three backticks after it, blanks anywhere around them.
-/
import Ontograph.Text.Blank
import Ontograph.Json.Parser

namespace Ontograph.Extraction

def fenceMark : List Char := ['\x60', '\x60', '\x60']

/-- The text behind the opening mark of a fence, which only blanks may precede. -/
def afterOpening? (cs : List Char) : Option (List Char) :=
  fenceMark.isPrefixOf? (Text.trimLeft cs)

/-- The text before the closing mark of a fence, which only blanks may follow. -/
def beforeClosing? (cs : List Char) : Option (List Char) :=
  fenceMark.isSuffixOf? (Text.trimRight cs)

/-- The text inside a code fence with its word of letters and its blanks taken off, or the whole
text if there is no fence. -/
def body (cs : List Char) : List Char :=
  match (afterOpening? cs).bind fun rest => beforeClosing? (rest.dropWhile Char.isAlpha) with
  | some inner => Text.trimBoth inner
  | none => Text.trimBoth cs

def itemsOf? : Json → Option (List Json)
  | .array items => some items
  | .object fields => (Fields.get? "entities" fields).bind Json.array?
  | _ => none

def items? (completion : String) : Option (List Json) :=
  (Json.parse (String.ofList (body completion.toList))).bind itemsOf?

end Ontograph.Extraction
