/-
Ontograph.Text.Blank — white space, and text with its white space taken off
both ends.

"Blank" means the Unicode property White_Space everywhere in this library:
twenty-five code points, among them the no-break space and the line and
paragraph separators. `isBlank_of_isWhitespace` says that the table extends
core's four-character notion, `isBlank_letter` that it is not everything.
-/

namespace Ontograph.Text

/-! ## The property -/

/-- The code points with the property White_Space, as closed ranges, ascending. -/
def blankRanges : List (Nat × Nat) :=
  [(0x09, 0x0D), (0x20, 0x20), (0x85, 0x85), (0xA0, 0xA0), (0x1680, 0x1680),
   (0x2000, 0x200A), (0x2028, 0x2029), (0x202F, 0x202F), (0x205F, 0x205F),
   (0x3000, 0x3000)]

def inRanges (ranges : List (Nat × Nat)) (n : Nat) : Bool :=
  ranges.any fun r => r.1 ≤ n && n ≤ r.2

def isBlank (c : Char) : Bool := inRanges blankRanges c.toNat

/-- What counts as white space in ASCII is blank. -/
theorem isBlank_of_isWhitespace (c : Char) (h : c.isWhitespace = true) : isBlank c = true := by
  simp [Char.isWhitespace] at h
  rcases h with ((h | h) | h) | h <;> subst h <;> decide

theorem isBlank_letter : isBlank 'a' = false ∧ isBlank '\u200b' = false := by decide

/-! ## Trimming -/

def trimLeft (cs : List Char) : List Char := cs.dropWhile isBlank

def trimRight (cs : List Char) : List Char := (cs.reverse.dropWhile isBlank).reverse

def trimBoth (cs : List Char) : List Char := trimRight (trimLeft cs)

def trim (s : String) : String := String.ofList (trimBoth s.toList)

def isBlankText (s : String) : Bool := s.toList.all isBlank

end Ontograph.Text
