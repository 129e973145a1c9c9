/-
Ontograph.Json.Value — JSON values.

Integers and doubles are kept apart, as the text keeps them apart, and the
entries of an object stay in the order in which their keys first appeared.
A text is read into doubles only; a single stands where something is written
in the digits of its own width.
`Fields.insert` is the one way to write to an object: as in a registry, a new
key goes to the end and a present one keeps its place. `Fields.swapRemove` takes a key out and
moves the last entry into the gap.
-/
import Ontograph.Registry
import Ontograph.Number.Binary

namespace Ontograph

/-- A JSON value. Integers lie between `-2^63` and `2^64 - 1`. -/
inductive Json where
  | null
  | bool (value : Bool)
  | int (value : Int)
  | double (value : Double)
  | single (value : Single)
  | string (value : String)
  | array (items : List Json)
  | object (fields : List (String × Json))
  deriving Inhabited

abbrev Fields := List (String × Json)

namespace Fields

/-- The value of the first entry with a key. -/
def get? (key : String) (fields : Fields) : Option Json := (findNamed? key fields).map Prod.snd

/-- The entries with one more, or with another value under a key that is present. -/
def insert (key : String) (value : Json) (fields : Fields) : Fields := place (key, value) fields

/-- Entries written one after another onto no entries. -/
def ofList (entries : List (String × Json)) : Fields :=
  entries.foldl (fun fields e => insert e.1 e.2 fields) []

def keys (fields : Fields) : List String := fields.map Prod.fst

/-- The entries without a key, the last entry moved into its place. -/
def swapRemove (key : String) (fields : Fields) : Fields :=
  match fields.span (fun e => e.1 ≠ key) with
  | (_, []) => fields
  | (before, _ :: after) =>
    match after.getLast? with
    | none => before
    | some last => before ++ last :: after.dropLast

theorem get?_insert_self (key : String) (value : Json) (fields : Fields) :
    get? key (insert key value fields) = some value := by
  have h := findNamed?_place_self (key, value) fields
  simp only [name] at h
  simp [get?, insert, h]

theorem get?_insert_of_ne {key other : String} (value : Json) (hne : other ≠ key)
    (fields : Fields) : get? other (insert key value fields) = get? other fields := by
  simp only [get?, insert]
  rw [findNamed?_place_of_ne (key, value) hne]

end Fields

namespace Json

/-- The object with the given entries, a repeated key taking its last value. -/
def ofEntries (entries : List (String × Json)) : Json := object (Fields.ofList entries)

def strings (texts : List String) : Json := array (texts.map string)

def string? : Json → Option String
  | string s => some s
  | _ => none

def bool? : Json → Option Bool
  | bool b => some b
  | _ => none

def array? : Json → Option (List Json)
  | array items => some items
  | _ => none

def object? : Json → Option Fields
  | object fields => some fields
  | _ => none

/-- A double as a value; what is not finite has no number that stands for it. -/
def ofDouble (x : Double) : Json := if x.isFinite then double x else null

/-- A single as a value of its own width; what is not finite has no number that stands for it. -/
def ofSingle (x : Single) : Json := if x.isFinite then single x else null

/-- The number as a double, an integer rounded. -/
def number? : Json → Option Double
  | int i => some (Binary.ofInt i)
  | double x => if x.isFinite then some x else none
  | single x => if x.isFinite then some x.convert else none
  | _ => none

/-- The number as a single, rounded once from the integer or double. -/
def single? : Json → Option Single
  | int i => some (Binary.ofInt i)
  | double x => if x.isFinite then some x.convert else none
  | single x => if x.isFinite then some x else none
  | _ => none

/-- An integer that is not negative. -/
def natural? : Json → Option Nat
  | int i => if 0 ≤ i then some i.toNat else none
  | _ => none

def field? (key : String) : Json → Option Json
  | object fields => Fields.get? key fields
  | _ => none

end Json

end Ontograph
