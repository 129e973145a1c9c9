/-
Ontograph.Number.Notation — how numbers are laid out.

Three layouts. In documents a number is positional with at least one digit
after the point while its leading digit stands in a range that depends on the
width, and scientific with a signed exponent otherwise. In running text it is
always positional, and an integral value has no point. A percentage has no
digits after the point at all.
-/
import Ontograph.Number.Decimal

namespace Ontograph

namespace Decimal

def digitText (n : Nat) : List Char := Nat.toDigits 10 n

/-- The exponent of the leading digit. -/
def leading (d : Decimal) : Int := d.exponent + digitCount d.digits - 1

/-- Positional digits; `integral` is what follows when there is no fraction. -/
def positional (integral : List Char) (d : Decimal) : List Char :=
  let digits := digitText d.digits
  if 0 ≤ d.exponent then digits ++ List.replicate d.exponent.toNat '0' ++ integral
  else
    let places := (-d.exponent).toNat
    if digits.length ≤ places then
      '0' :: '.' :: (List.replicate (places - digits.length) '0' ++ digits)
    else digits.take (digits.length - places) ++ '.' :: digits.drop (digits.length - places)

/-- One digit, the others behind a point, and a signed exponent. -/
def scientific (d : Decimal) : List Char :=
  let digits := digitText d.digits
  let mantissa :=
    match digits with
    | [] => []
    | [only] => [only]
    | first :: rest => first :: '.' :: rest
  let sign := if d.leading < 0 then '-' else '+'
  mantissa ++ 'e' :: sign :: digitText d.leading.natAbs

end Decimal

namespace Width

/-- Whether documents write a number positionally, by the exponent of its leading digit: from
`10^-6` up to `10^12` for numbers of at most twenty-four significant bits, and from `10^-5` up to
`10^15` for wider ones. -/
def isPositional (w : Width) (leading : Int) : Bool :=
  if w.fractionBits ≤ 23 then -6 ≤ leading && leading < 13 else -5 ≤ leading && leading < 16

end Width

namespace Binary

variable {w : Width}

def signed (x : Binary w) (magnitude : List Char) : String :=
  String.ofList (if x.negative then '-' :: magnitude else magnitude)

def documentText (x : Binary w) : String :=
  let d := x.shortest .even
  x.signed (if w.isPositional d.leading then d.positional ['.', '0'] else d.scientific)

def displayText (x : Binary w) : String :=
  if x.isNaN then "NaN"
  else if x.isFinite then x.signed ((x.shortest .up).positional [])
  else x.signed "inf".toList

/-- A number as running text shows it without a fraction: a half goes to the even neighbour. -/
def wholeText (x : Binary w) : String :=
  if x.isNaN then "NaN"
  else if x.isFinite then
    x.signed (Decimal.digitText (Width.roundHalfEven x.ratio.1 x.ratio.2))
  else x.signed "inf".toList

end Binary

end Ontograph
