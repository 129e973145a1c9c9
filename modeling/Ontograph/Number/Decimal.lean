/-
Ontograph.Number.Decimal — decimals, and their way to and from binary numbers.

`Binary.ofDecimal` rounds a decimal once, exactly. `Binary.shortest` goes the
other way: among the decimals that round to a number it selects one with the
fewest digits, and of those the nearest to the number. Selection is by exact
arithmetic on naturals. Where two candidates are equally near, the format that
is being written decides, so the tie rule is a parameter.
-/
import Ontograph.Number.Binary

namespace Ontograph

/-- The value `digits · 10^exponent`. -/
structure Decimal where
  digits : Nat
  exponent : Int
  deriving DecidableEq, Repr

namespace Decimal

/-- How many decimal digits a natural number has; zero has one. -/
def digitCount (n : Nat) : Nat := (Nat.toDigits 10 n).length

/-- The order of `a · 10^i` and `n · 2^j`. -/
def compareScaled (a : Nat) (i : Int) (n : Nat) (j : Int) : Ordering :=
  compare (a * Nat.pow 10 i.toNat * Nat.pow 2 (-j).toNat)
    (n * Nat.pow 2 j.toNat * Nat.pow 10 (-i).toNat)

/-- Trailing zeros moved from the digits into the exponent, at most `count` of them. -/
def strip : Nat → Decimal → Decimal
  | 0, d => d
  | count + 1, d =>
    if d.digits % 10 = 0 ∧ d.digits ≠ 0 then strip count ⟨d.digits / 10, d.exponent + 1⟩ else d

end Decimal

inductive TieRule where
  | even
  | up

namespace Binary

variable {w : Width}

/-- Magnitudes from `10^400` on are beyond the largest number of either width, and those below
`10^-400` are nearer to zero than to any other number. -/
def decimalReach : Int := 400

/-- The number nearest to a decimal, with a sign. -/
def ofDecimal (negative : Bool) (d : Decimal) : Binary w :=
  if d.digits = 0 then ⟨negative, 0⟩
  else
    let leading := d.exponent + Decimal.digitCount d.digits
    if leading > decimalReach then ⟨negative, w.infinity⟩
    else if leading < -decimalReach then ⟨negative, 0⟩
    else
      ofRatio negative (d.digits * Nat.pow 10 d.exponent.toNat) (Nat.pow 10 (-d.exponent).toNat)

/-! ## The fewest digits -/

/-- Whether a decimal lies among the reals that round to the magnitude of `code`: between halfway
to the code below and halfway to the code above, the ends included when the code is even. -/
def roundsTo (w : Width) (code : Nat) (d : Decimal) : Bool :=
  let (m, q) := w.significand code
  let narrow := code % Nat.pow 2 w.fractionBits = 0 ∧ Nat.pow 2 w.fractionBits < code
  let low := if narrow then 4 * m - 1 else 4 * m - 2
  let fromLow := Decimal.compareScaled d.digits d.exponent low (q - 2)
  let fromHigh := Decimal.compareScaled d.digits d.exponent (4 * m + 2) (q - 2)
  let inclusive := code % 2 == 0
  (fromLow == .gt || inclusive && fromLow == .eq) &&
    (fromHigh == .lt || inclusive && fromHigh == .eq)

/-- The least `k` such that the magnitude of a code that is not zero is below `10^k`. -/
def magnitudeExponent (w : Width) (code : Nat) : Int :=
  let (m, q) := w.significand code
  let estimate : Int := (((m.log2 : Int) + q) * 30103).fdiv 100000
  if Decimal.compareScaled 1 estimate m q == .gt then estimate
  else if Decimal.compareScaled 1 (estimate + 1) m q == .gt then estimate + 1
  else estimate + 2

/-- On the grid of the given power of ten, the neighbour of a code's magnitude that rounds to it,
of two such neighbours the nearer. -/
def onGrid? (w : Width) (tie : TieRule) (code : Nat) (grid : Int) : Option Decimal :=
  let (m, q) := w.significand code
  let below := m * Nat.pow 2 q.toNat * Nat.pow 10 (-grid).toNat /
    (Nat.pow 2 (-q).toNat * Nat.pow 10 grid.toNat)
  let lower : Decimal := ⟨below, grid⟩
  let upper : Decimal := ⟨below + 1, grid⟩
  match roundsTo w code lower, roundsTo w code upper with
  | true, false => some lower
  | false, true => some upper
  | false, false => none
  | true, true =>
    match Decimal.compareScaled (2 * below + 1) grid (2 * m) q, tie with
    | .gt, _ => some lower
    | .lt, _ => some upper
    | .eq, .even => some (if below % 2 = 0 then lower else upper)
    | .eq, .up => some upper

/-- The magnitude of a finite number in the fewest digits that identify it. The grids of one to
seventeen digits are tried in turn; were there no hit, the exact value would be given. -/
def shortest (tie : TieRule) (x : Binary w) : Decimal :=
  if x.code = 0 then ⟨0, 0⟩
  else
    let k := magnitudeExponent w x.code
    let hit := (List.range 17).findSome? fun n => onGrid? w tie x.code (k - (n + 1 : Nat))
    let exact : Decimal :=
      let (m, q) := w.significand x.code
      ⟨m * Nat.pow 2 q.toNat * Nat.pow 5 (-q).toNat, min q 0⟩
    let d := hit.getD exact
    d.strip (Decimal.digitCount d.digits)

end Binary

end Ontograph
