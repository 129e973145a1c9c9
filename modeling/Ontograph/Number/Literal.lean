/-
Ontograph.Number.Literal — numbers written as plain text.

The grammar of numbers in settings and identifiers: an optional sign of either
kind, digits, and for a real number a point with digits on at least one side,
an exponent, or one of the words for infinity and for what is no number.
Nothing else may stand before, after or between.
-/
import Ontograph.Number.Decimal

namespace Ontograph.Literal

def natural? (cs : List Char) : Option Nat :=
  if cs.isEmpty || !cs.all Char.isDigit then none
  else some (cs.foldl (fun n c => 10 * n + (c.toNat - '0'.toNat)) 0)

def sign : List Char → Bool × List Char
  | '-' :: rest => (true, rest)
  | '+' :: rest => (false, rest)
  | rest => (false, rest)

def integer? (cs : List Char) : Option Int :=
  let (negative, digits) := sign cs
  (natural? digits).map fun n => if negative then -(n : Int) else n

def fitsSigned (i : Int) : Bool := -(Nat.pow 2 63 : Int) ≤ i && i < Nat.pow 2 63

def fitsUnsigned (i : Int) : Bool := 0 ≤ i && i < Nat.pow 2 64

def signed64? (s : String) : Option Int := (integer? s.toList).filter fitsSigned

def unsigned64? (s : String) : Option Int :=
  match s.toList with
  | '-' :: _ => none
  | cs => (integer? cs).filter fitsUnsigned

/-- The decimal that digits with a point stand for; the digits need one on either side. -/
def mantissa? (cs : List Char) : Option Decimal :=
  let whole := cs.takeWhile Char.isDigit
  match cs.dropWhile Char.isDigit with
  | [] => (natural? whole).map (⟨·, 0⟩)
  | '.' :: fraction =>
    if fraction.all Char.isDigit then
      (natural? (whole ++ fraction)).map (⟨·, -(fraction.length : Int)⟩)
    else none
  | _ => none

def real? {w : Width} (s : String) : Option (Binary w) :=
  let (negative, body) := sign s.toList
  match String.ofList (body.map Char.toLower) with
  | "inf" | "infinity" => some ⟨negative, w.infinity⟩
  | "nan" => some .nan
  | _ =>
    let atMark := fun c => c = 'e' || c = 'E'
    let front := body.takeWhile (!atMark ·)
    match body.dropWhile (!atMark ·) with
    | [] => (mantissa? front).map (Binary.ofDecimal negative)
    | _ :: exponent => do
      let d ← mantissa? front
      let e ← integer? exponent
      pure (Binary.ofDecimal negative ⟨d.digits, d.exponent + e⟩)

end Ontograph.Literal
