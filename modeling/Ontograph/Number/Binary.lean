/-
Ontograph.Number.Binary — binary floating-point numbers as data.

A number is a sign and a code: the exponent field and the fraction field read
as one natural number. Codes are ordered as the magnitudes that they stand
for, so comparing, clamping and sorting are arithmetic on codes, and a number
is an exact rational `m · 2^q`. Every operation is the exact result, rounded
once to the nearest number, a tie to the even code.

The library uses two widths: `Double` for numbers in documents and scores, and
`Single` for confidences and embedding vectors.
-/

namespace Ontograph

/-! ## Widths -/

/-- A binary format, by the widths of its exponent field and its fraction field. -/
structure Width where
  exponentBits : Nat
  fractionBits : Nat

namespace Width

/-- Eleven exponent bits and fifty-two fraction bits. -/
def double : Width := ⟨11, 52⟩

/-- Eight exponent bits and twenty-three fraction bits. -/
def single : Width := ⟨8, 23⟩

/-- The code of infinity; every larger code is no number. -/
def infinity (w : Width) : Nat := (Nat.pow 2 w.exponentBits - 1) * Nat.pow 2 w.fractionBits

/-- The power of two by which a code's significand is multiplied, for the smallest exponent
field that is not zero. -/
def leastPower (w : Width) : Int := 2 - (Nat.pow 2 (w.exponentBits - 1) : Nat) - w.fractionBits

/-- A finite code as significand and power of two. -/
def significand (w : Width) (code : Nat) : Nat × Int :=
  let field := code / Nat.pow 2 w.fractionBits
  let fraction := code % Nat.pow 2 w.fractionBits
  if field = 0 then (fraction, w.leastPower)
  else (Nat.pow 2 w.fractionBits + fraction, w.leastPower + (field - 1 : Nat))

/-- A quotient rounded to the nearest integer, a half to the even neighbour. -/
def roundHalfEven (num den : Nat) : Nat :=
  let quotient := num / den
  match compare (2 * (num % den)) den with
  | .lt => quotient
  | .gt => quotient + 1
  | .eq => if quotient % 2 = 0 then quotient else quotient + 1

/-- The code nearest to `num / den`, which is infinity's beyond the largest finite magnitude. -/
def nearestCode (w : Width) (num den : Nat) : Nat :=
  if num = 0 then 0
  else
    let estimate : Int := (num.log2 : Int) - den.log2
    let leading :=
      if num * Nat.pow 2 (-estimate).toNat < den * Nat.pow 2 estimate.toNat then estimate - 1
      else estimate
    let power := max (leading - w.fractionBits) w.leastPower
    let rounded := roundHalfEven (num * Nat.pow 2 (-power).toNat) (den * Nat.pow 2 power.toNat)
    min ((power - w.leastPower).toNat * Nat.pow 2 w.fractionBits + rounded) w.infinity

end Width

/-! ## Numbers -/

/-- A number of one width. Codes above infinity's are no number. -/
structure Binary (w : Width) where
  negative : Bool
  code : Nat
  deriving DecidableEq, Repr, Inhabited

abbrev Double := Binary .double
abbrev Single := Binary .single

namespace Binary

variable {w : Width}

/-- What is no number, such as the quotient of two zeros. -/
def nan : Binary w := ⟨false, w.infinity + 1⟩

def infinite : Binary w := ⟨false, w.infinity⟩

def zero : Binary w := ⟨false, 0⟩

def isNaN (x : Binary w) : Bool := w.infinity < x.code

def isFinite (x : Binary w) : Bool := x.code < w.infinity

/-- Whether this is zero, of either sign. -/
def isZero (x : Binary w) : Bool := x.code = 0

def negate (x : Binary w) : Binary w := { x with negative := !x.negative }

/-- The number nearest to a quotient of naturals, with a sign. -/
def ofRatio (negative : Bool) (num den : Nat) : Binary w := ⟨negative, w.nearestCode num den⟩

def ofInt (i : Int) : Binary w := ofRatio (decide (i < 0)) i.natAbs 1

def ratio (x : Binary w) : Nat × Nat :=
  let (m, q) := w.significand x.code
  (m * Nat.pow 2 q.toNat, Nat.pow 2 (-q).toNat)

/-- The nearest number of another width; infinities and what is no number stay what they are. -/
def convert {v : Width} (x : Binary w) : Binary v :=
  if x.isNaN then nan
  else if x.isFinite then ofRatio x.negative x.ratio.1 x.ratio.2
  else ⟨x.negative, v.infinity⟩

/-- The product of two finite numbers; of others this is no number. -/
def mul (x y : Binary w) : Binary w :=
  if x.isFinite && y.isFinite then
    ofRatio (x.negative != y.negative) (x.ratio.1 * y.ratio.1) (x.ratio.2 * y.ratio.2)
  else nan

/-- The quotient of two finite numbers, the second not zero; of others this is no number. -/
def div (x y : Binary w) : Binary w :=
  if x.isFinite && y.isFinite && !y.isZero then
    ofRatio (x.negative != y.negative) (x.ratio.1 * y.ratio.2) (x.ratio.2 * y.ratio.1)
  else nan

/-! ## Order -/

/-- A rank under which all numbers are ordered, the negative zero directly below the positive. -/
def rank (x : Binary w) : Int := if x.negative then -(x.code : Int) - 1 else x.code

/-- The place on the number line, where both zeros share one place. -/
def position (x : Binary w) : Int := if x.negative then -(x.code : Int) else x.code

/-- Whether one number is smaller than another. Nothing compares with what is no number. -/
def less (x y : Binary w) : Bool := !x.isNaN && !y.isNaN && decide (x.position < y.position)

def clamp (low high x : Binary w) : Binary w :=
  if x.less low then low else if high.less x then high else x

/-- The integer nearest to a number's magnitude, a half away from zero, with the number's sign.
What is no number counts as zero and an infinity as the largest magnitude of the width. -/
def roundAway (x : Binary w) : Int :=
  if x.isNaN then 0
  else
    let (num, den) := x.ratio
    let magnitude := (2 * num + den) / (2 * den)
    if x.negative then -(magnitude : Int) else magnitude

end Binary

end Ontograph
