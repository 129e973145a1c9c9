/-
Ontograph.Json.Number — the numbers of a JSON text.

A literal without point and exponent that fits sixty-four bits is an integer;
`-0` and everything else is a double. A double is read in two steps that each
round: the digits that fit an unsigned integer of sixty-four bits become a
double, and that is scaled by a power of ten. Digits that do not fit count as
zeros before the point and as nothing behind it. A literal beyond the largest
double has no value.
-/
import Ontograph.Json.Value
import Ontograph.Number.Decimal

namespace Ontograph.Json

/-! ## The digits -/

/-- The digits gathered from a literal: a significand below `2^64` and a power of ten. -/
structure Gathered where
  significand : Nat
  exponent : Int

def digitValue (c : Char) : Nat := c.toNat - '0'.toNat

def extend? (significand : Nat) (c : Char) : Option Nat :=
  let next := significand * 10 + digitValue c
  if next < Nat.pow 2 64 then some next else none

/-- Digits before the point; from the first that does not fit on, each counts as a zero. -/
def gatherWhole (significand : Nat) : List Char → Gathered
  | [] => ⟨significand, 0⟩
  | c :: rest =>
    match extend? significand c with
    | some next => gatherWhole next rest
    | none => ⟨significand, (rest.length + 1 : Nat)⟩

/-- Digits behind the point; from the first that does not fit on, they are left out. -/
def gatherFraction (g : Gathered) : List Char → Gathered
  | [] => g
  | c :: rest =>
    match extend? g.significand c with
    | some next => gatherFraction ⟨next, g.exponent - 1⟩ rest
    | none => g

/-! ## Scaling -/

/-- The largest power of ten that a double is multiplied or divided by in one step. -/
def greatestPower : Nat := 308

/-- The double nearest to a power of ten. -/
def powerOfTen (n : Nat) : Double := Binary.ofDecimal false ⟨1, n⟩

def scaleDown (x : Double) (n : Nat) : Double :=
  if n ≤ greatestPower then x.div (powerOfTen n)
  else if x.isZero then x
  else scaleDown (x.div (powerOfTen greatestPower)) (n - greatestPower)
termination_by n
decreasing_by simp only [greatestPower] at *; omega

/-- The double that gathered digits stand for, unless it is beyond the largest. -/
def scaled? (g : Gathered) : Option Double :=
  let x : Double := Binary.ofInt g.significand
  if g.exponent < 0 then some (scaleDown x g.exponent.natAbs)
  else if g.exponent ≤ greatestPower then
    let y := x.mul (powerOfTen g.exponent.natAbs)
    if y.isFinite then some y else none
  else if x.isZero then some x
  else none

/-! ## The literal -/

def spanDigits (cs : List Char) : List Char × List Char :=
  (cs.takeWhile Char.isDigit, cs.dropWhile Char.isDigit)

/-- Digits of a whole part: at least one, and no zero before another digit. -/
def whole? (cs : List Char) : Option (List Char × List Char) :=
  match spanDigits cs with
  | ([], _) => none
  | ('0' :: _ :: _, _) => none
  | found => some found

def fraction? : List Char → Option (Option (List Char) × List Char)
  | '.' :: rest =>
    match spanDigits rest with
    | ([], _) => none
    | (digits, rest) => some (some digits, rest)
  | rest => some (none, rest)

/-- An exponent with at least one digit, if its mark comes next: whether it is negative, and its
magnitude. -/
def exponent? : List Char → Option (Option (Bool × Nat) × List Char)
  | c :: rest =>
    if c = 'e' ∨ c = 'E' then
      let (negative, rest) :=
        match rest with
        | '-' :: rest => (true, rest)
        | '+' :: rest => (false, rest)
        | rest => (false, rest)
      match spanDigits rest with
      | ([], _) => none
      | (digits, rest) =>
        some (some (negative, digits.foldl (fun n c => 10 * n + digitValue c) 0), rest)
    else some (none, c :: rest)
  | [] => some (none, [])

/-- The magnitude of a literal with a point or an exponent. An exponent of more than thirty-one
bits makes every significand but zero too large or, with a minus sign, zero. -/
def magnitude? (g : Gathered) : Option (Bool × Nat) → Option Double
  | none => scaled? g
  | some (negative, n) =>
    if n < Nat.pow 2 31 then
      scaled? { g with exponent := if negative then g.exponent - n else g.exponent + n }
    else if g.significand = 0 ∨ negative then some .zero
    else none

def signedDouble (negative : Bool) (x : Double) : Json :=
  .double (if negative then x.negate else x)

/-- A number literal without its sign, and the rest of the text. A literal that is too large for a
double has no value. -/
def magnitudeLiteral? (negative : Bool) (cs : List Char) : Option (Option Json × List Char) := do
  let (whole, rest) ← whole? cs
  let (fraction, rest) ← fraction? rest
  let (exponent, rest) ← exponent? rest
  let g := gatherWhole 0 whole
  match fraction, exponent with
  | none, none =>
    if g.exponent = 0 ∧ ¬ negative then pure (some (.int g.significand), rest)
    else if g.exponent = 0 ∧ 0 < g.significand ∧ g.significand ≤ Nat.pow 2 63 then
      pure (some (.int (-(g.significand : Int))), rest)
    else pure ((scaled? g).map (signedDouble negative), rest)
  | fraction, exponent =>
    let magnitude := magnitude? (gatherFraction g (fraction.getD [])) exponent
    pure (magnitude.map (signedDouble negative), rest)

def numberLiteral? : List Char → Option (Option Json × List Char)
  | '-' :: rest => magnitudeLiteral? true rest
  | cs => magnitudeLiteral? false cs

end Ontograph.Json
