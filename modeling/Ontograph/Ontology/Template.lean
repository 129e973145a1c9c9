/-
Ontograph.Ontology.Template — the templates of queries.

A template is a text with places of the form `$name`. It is gone through once,
character by character, with the byte at which each of them begins: behind a
dollar sign, name characters are taken for as long as there are any, and the
scan goes on with the first that is none. A name is then cut out of the
template between two bytes, which takes boundaries of characters on both sides.
-/

namespace Ontograph.Template

def isNameChar (c : Char) : Bool := c.isAlphanum || c = '_'

/-- Characters with the bytes at which they begin, the first of them at a given byte. -/
def indexed (start : String.Pos.Raw) : List Char → List (String.Pos.Raw × Char)
  | [] => []
  | c :: rest => (start, c) :: indexed (start + c) rest

/-- A part of a text, by the byte at which it begins and the byte behind it. -/
structure Span where
  start : String.Pos.Raw
  stop : String.Pos.Raw
  deriving DecidableEq

/-- Where a name ends that goes on up to a byte at least, and the characters behind it. -/
def nameEnd (stop : String.Pos.Raw) :
    List (String.Pos.Raw × Char) → String.Pos.Raw × List (String.Pos.Raw × Char)
  | [] => (stop, [])
  | (i, c) :: rest => if isNameChar c then nameEnd (i + c) rest else (stop, (i, c) :: rest)

/-- Behind a name there are no more characters than before. -/
theorem length_nameEnd_le (stop : String.Pos.Raw) (chars : List (String.Pos.Raw × Char)) :
    (nameEnd stop chars).2.length ≤ chars.length := by
  induction chars generalizing stop with
  | nil => exact Nat.le_refl _
  | cons entry rest ih =>
    unfold nameEnd
    split
    · exact Nat.le_succ_of_le (ih _)
    · exact Nat.le_refl _

/-- The names behind the dollar signs; a dollar sign takes up one byte. The scan ends, since no
turn gives back a character. -/
def nameSpans : List (String.Pos.Raw × Char) → List Span
  | [] => []
  | (i, c) :: rest =>
    if c = '$' then
      let start : String.Pos.Raw := ⟨i.byteIdx + 1⟩
      let found := nameEnd start rest
      if start < found.1 then ⟨start, found.1⟩ :: nameSpans found.2 else nameSpans found.2
    else nameSpans rest
termination_by chars => chars.length
decreasing_by
  · exact Nat.lt_succ_of_le (length_nameEnd_le _ rest)
  · exact Nat.lt_succ_of_le (length_nameEnd_le _ rest)
  · exact Nat.lt_succ_self rest.length

/-- A part of a text, if its ends are in order and both at boundaries of characters. -/
def slice? (template : String) (span : Span) : Option String :=
  if h : span.start ≤ span.stop ∧ span.start.IsValid template ∧ span.stop.IsValid template then
    some (String.extract ⟨span.start, h.2.1⟩ ⟨span.stop, h.2.2⟩)
  else none

def spans (template : String) : List Span := nameSpans (indexed 0 template.toList)

def distinct (texts : List String) : List String :=
  texts.foldl (fun seen text => if text ∈ seen then seen else seen ++ [text]) []

def placeholders (template : String) : List String :=
  distinct ((spans template).filterMap (slice? template))

end Ontograph.Template
