/-
Ontograph.Settings.Toml.Scalar — truth values, numbers and times of a document.

A scalar without quotes is a run of letters, digits, signs, points, colons and
underscores; a date and a time may have a blank between them.
-/
import Ontograph.Settings.Setting

namespace Ontograph.Toml

/-! ## Numbers -/

def isSpaced (isDigit : Char → Bool) : Bool → List Char → Bool
  | after, [] => after
  | after, c :: rest =>
    if c = '_' then after && isSpaced isDigit false rest
    else isDigit c && isSpaced isDigit true rest

/-- Digits without the underscores between them. -/
def digits? (isDigit : Char → Bool) (cs : List Char) : Option (List Char) :=
  if isSpaced isDigit false cs then some (cs.filter (· ≠ '_')) else none

/-- Decimal digits that do not begin with a zero, a lone zero apart. -/
def wholeDigits? (cs : List Char) : Option (List Char) :=
  (digits? Char.isDigit cs).filter fun ds => ds.length = 1 || ds.head? ≠ some '0'

def digitValue (c : Char) : Nat :=
  if c.isDigit then c.toNat - 48 else c.toLower.toNat - 87

def valueIn (base : Nat) (ds : List Char) : Nat :=
  ds.foldl (fun n c => base * n + digitValue c) 0

def based? (base : Nat) (cs : List Char) : Option Int :=
  (digits? (fun c => (c.isDigit || ('a' ≤ c.toLower && c.toLower ≤ 'f')) && digitValue c < base)
    cs).map fun ds => (valueIn base ds : Int)

def integer? (cs : List Char) : Option Int :=
  let value :=
    match cs with
    | '0' :: 'x' :: ds => based? 16 ds
    | '0' :: 'o' :: ds => based? 8 ds
    | '0' :: 'b' :: ds => based? 2 ds
    | cs =>
      let (negative, body) := Literal.sign cs
      (wholeDigits? body).map fun ds =>
        if negative then -(valueIn 10 ds : Int) else valueIn 10 ds
  value.filter Literal.fitsSigned

def exponent? (cs : List Char) : Option (List Char) :=
  let text := (digits? Char.isDigit (Literal.sign cs).2).map fun ds =>
    if (Literal.sign cs).1 then '-' :: ds else ds
  text.map ('e' :: ·)

/-- The part of a real number behind its whole digits: a fraction, an exponent or both. -/
def realEnding? : List Char → Option (List Char)
  | '.' :: rest =>
    let atMark := fun c => c = 'e' || c = 'E'
    match digits? Char.isDigit (rest.takeWhile (!atMark ·)), rest.dropWhile (!atMark ·) with
    | some ds, [] => some ('.' :: ds)
    | some ds, _ :: exponent => (exponent? exponent).map fun e => '.' :: ds ++ e
    | none, _ => none
  | 'e' :: rest | 'E' :: rest => exponent? rest
  | _ => none

/-- A real number: with a fraction or an exponent, or the word for infinity or for what is no
number. A number beyond the largest is none; one beyond the least is infinite. -/
def real? (cs : List Char) : Option Double :=
  let (negative, body) := Literal.sign cs
  match body with
  | ['i', 'n', 'f'] => some ⟨negative, Width.double.infinity⟩
  | ['n', 'a', 'n'] => some .nan
  | _ =>
    let isWhole := fun c : Char => c.isDigit || c = '_'
    match wholeDigits? (body.takeWhile isWhole), realEnding? (body.dropWhile isWhole) with
    | some whole, some ending =>
      let x : Option Double := Literal.real? (String.ofList (whole ++ ending))
      (x.filter fun x => negative || x.isFinite).map fun x => if negative then x.negate else x
    | _, _ => none

/-! ## Times -/

/-- A number of exactly so many digits at the front, within a range. -/
def field? (width low high : Nat) (cs : List Char) : Option (Nat × List Char) :=
  let ds := cs.take width
  if ds.length = width ∧ ds.all Char.isDigit then
    let n := valueIn 10 ds
    if low ≤ n ∧ n ≤ high then some (n, cs.drop width) else none
  else none

def behind? (c : Char) : List Char → Option (List Char)
  | d :: rest => if d = c then some rest else none
  | [] => none

def daysIn (year month : Nat) : Nat :=
  if month = 2 then
    if year % 4 = 0 ∧ (year % 100 ≠ 0 ∨ year % 400 = 0) then 29 else 28
  else if month ∈ [4, 6, 9, 11] then 30
  else 31

def date? (cs : List Char) : Option (List Char × List Char) := do
  let (year, rest) ← field? 4 0 9999 cs
  let (month, rest) ← field? 2 1 12 (← behind? '-' rest)
  let (_, rest) ← field? 2 1 (daysIn year month) (← behind? '-' rest)
  pure (cs.take 10, rest)

/-- The fraction of a second at the front: nine digits at most, and no zeros at the end. -/
def fraction? : List Char → Option (List Char × List Char)
  | '.' :: rest =>
    let ds := rest.takeWhile Char.isDigit
    if ds.isEmpty then none
    else
      let kept := ((ds.take 9).reverse.dropWhile (· = '0')).reverse
      some (if kept.isEmpty then [] else '.' :: kept, rest.dropWhile Char.isDigit)
  | rest => some ([], rest)

def time? (cs : List Char) : Option (List Char × List Char) := do
  let (_, rest) ← field? 2 0 23 cs
  let (_, rest) ← field? 2 0 59 (← behind? ':' rest)
  let (_, rest) ← field? 2 0 60 (← behind? ':' rest)
  let (fraction, rest) ← fraction? rest
  pure (cs.take 8 ++ fraction, rest)

def offset? : List Char → Option (List Char)
  | [] => some []
  | ['z'] | ['Z'] => some ['Z']
  | c :: rest => do
    let (hours, tail) ← field? 2 0 23 rest
    let (minutes, tail) ← field? 2 0 59 (← behind? ':' tail)
    if tail.isEmpty && (c = '+' || c = '-') then
      some ((if hours = 0 ∧ minutes = 0 then '+' else c) :: rest)
    else none

def isTimeMark (c : Char) : Bool := c = 'T' || c = 't' || c = ' '

def instant? (cs : List Char) : Option (List Char) :=
  match date? cs with
  | some (date, []) => some date
  | some (date, mark :: rest) => do
    let (time, rest) ← time? rest
    let offset ← offset? rest
    if isTimeMark mark then some (date ++ 'T' :: time ++ offset) else none
  | none =>
    match time? cs with
    | some (time, []) => some time
    | _ => none

/-! ## Scalars -/

def isScalarChar (c : Char) : Bool := c.isAlphanum || "+-.:_".toList.contains c

/-- The scalar at the front of a text, and what follows; a blank that has a date before it and two
digits and a colon behind it belongs to the scalar. -/
def scalarSpan (cs : List Char) : List Char × List Char :=
  let front := cs.takeWhile isScalarChar
  let rest := cs.dropWhile isScalarChar
  match date? front, rest with
  | some (_, []), ' ' :: a :: b :: ':' :: more =>
    if a.isDigit && b.isDigit then
      let back := a :: b :: ':' :: more
      (front ++ ' ' :: back.takeWhile isScalarChar, back.dropWhile isScalarChar)
    else (front, rest)
  | _, _ => (front, rest)

def plain? (cs : List Char) : Option Setting :=
  if cs = "true".toList then some (.truth true)
  else if cs = "false".toList then some (.truth false)
  else ((integer? cs).map .integer).or ((real? cs).map .real)

end Ontograph.Toml
