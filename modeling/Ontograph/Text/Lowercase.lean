/-
Ontograph.Text.Lowercase — a text in small letters.

Every character has a small form of its own, with two exceptions that a table
of characters cannot express: the dotted capital I becomes two characters, and
the capital sigma becomes the final sigma where a word ends. `lower_ascii`
says that on ASCII text this is the letter-by-letter map of core.
-/
import Ontograph.Text.Blank
import Ontograph.Text.CaseTable

namespace Ontograph.Text

def smallForm? (n : Nat) : Option Nat :=
  smallForms.findSome? fun (first, last, step, distance) =>
    if first ≤ n && n ≤ last && (n - first) % step == 0 then some ((n : Int) + distance).toNat
    else none

/-- The small form of a character apart from its neighbours. -/
def lowerChar (c : Char) : List Char :=
  if c.toNat < 0x80 then [c.toLower]
  else if c = '\u0130' then ['i', '\u0307']
  else [((smallForm? c.toNat).map Char.ofNat).getD c]

/-- A cased letter comes next, after characters that do not end a word. -/
def casedNext : List Char → Bool
  | [] => false
  | c :: rest =>
    if inRanges skippedRanges c.toNat then casedNext rest else inRanges casedRanges c.toNat

/-- The text in small letters; `before` holds the characters already passed, last first. -/
def lowerFrom (before : List Char) : List Char → List Char
  | [] => []
  | c :: rest =>
    let small :=
      if c = 'Σ' then (if casedNext before && !casedNext rest then ['ς'] else ['σ'])
      else lowerChar c
    small ++ lowerFrom (c :: before) rest

def lower (s : String) : String := String.ofList (lowerFrom [] s.toList)

theorem lowerFrom_ascii (before : List Char) :
    ∀ cs : List Char, (∀ c ∈ cs, c.toNat < 0x80) → lowerFrom before cs = cs.map Char.toLower
  | [], _ => rfl
  | c :: rest, h => by
    have hc : c.toNat < 0x80 := h c (by simp)
    have hs : c ≠ 'Σ' := by rintro rfl; exact absurd hc (by decide)
    simp [lowerFrom, hs, lowerChar, hc,
      lowerFrom_ascii (c :: before) rest fun d hd => h d (by simp [hd])]

theorem lower_ascii (s : String) (h : ∀ c ∈ s.toList, c.toNat < 0x80) :
    lower s = String.ofList (s.toList.map Char.toLower) := by
  rw [lower, lowerFrom_ascii [] s.toList h]

end Ontograph.Text
