/-
Ontograph.Settings.Setting — values of settings, and how leniently they are read.

A file knows the type of what it says, the environment hardly does, so each
reading accepts what the others would write: a truth value may be a word or a
number, a number may be a text, and a text may be anything but a list or a
table.
-/
import Ontograph.Registry
import Ontograph.Number.Notation
import Ontograph.Number.Literal
import Ontograph.Text.Lowercase

namespace Ontograph

inductive Setting where
  | nothing
  | truth (value : Bool)
  | integer (value : Int)
  | real (value : Double)
  | text (value : String)
  | list (items : List Setting)
  | table (entries : List (String × Setting))

abbrev SettingTable := List (String × Setting)

namespace Setting

/-! ## Readings -/

def truthOfWord? (word : String) : Option Bool :=
  match Text.lower word with
  | "true" | "on" | "yes" => some true
  | "false" | "off" | "no" => some false
  | _ => none

def text? : Setting → Option String
  | truth b => some (if b then "true" else "false")
  | integer i => some (toString i)
  | real x => some x.displayText
  | text s => some s
  | nothing | list _ | table _ => none

def truth? : Setting → Option Bool
  | truth b => some b
  | integer i => some (i ≠ 0)
  | real x => some (!x.isZero)
  | text "1" => some true
  | text "0" => some false
  | text s => truthOfWord? s
  | nothing | list _ | table _ => none

def maxCount : Nat := Nat.pow 2 64 - 1

/-- A setting as a count. A real number is rounded, and moved to the nearest count if it is none. -/
def count? : Setting → Option Nat
  | truth b => some b.toNat
  | integer i => if 0 ≤ i then some i.toNat else none
  | real x =>
    if x.isNaN then some 0
    else if x.isFinite then some (min x.roundAway.toNat maxCount)
    else some (if x.negative then 0 else maxCount)
  | text s =>
    match truthOfWord? s with
    | some b => some b.toNat
    | none => (Literal.unsigned64? s).map Int.toNat
  | nothing | list _ | table _ => none

def real? : Setting → Option Double
  | truth b => some (Binary.ofInt b.toNat)
  | integer i => some (Binary.ofInt i)
  | real x => some x
  | text s =>
    match truthOfWord? s with
    | some b => some (Binary.ofInt b.toNat)
    | none => Literal.real? s
  | nothing | list _ | table _ => none

def texts? : Setting → Option (List String)
  | list items => items.mapM text?
  | _ => none

/-- A setting that may say that there is none. -/
def optional (decode : Setting → Option α) : Setting → Option (Option α)
  | nothing => some none
  | value => (decode value).map some

/-! ## Contents -/

def entries : Setting → SettingTable
  | table entries => entries
  | _ => []

def items : Setting → List Setting
  | list items => items
  | _ => []

end Setting

def SettingTable.get? (t : SettingTable) (key : String) : Option Setting :=
  (findNamed? key t).map Prod.snd

end Ontograph
