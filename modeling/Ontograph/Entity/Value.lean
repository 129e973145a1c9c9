/-
Ontograph.Entity.Value — the values of properties.

A value is of one of six kinds. It has three forms: as running text, as a JSON
value for the graph store, and as a JSON value for documents; the last two
differ in how a time and the numbers of a vector are written. Five of the
kinds can be read from JSON; a text is always read as a text, whatever it
looks like.
-/
import Ontograph.Json.Printer
import Ontograph.Number.Literal
import Ontograph.Time.Instant

namespace Ontograph

/-- The value of a property. Integers have sixty-four bits with a sign. -/
inductive PropertyValue where
  | boolean (value : Bool)
  | integer (value : Int)
  | float (value : Double)
  | timestamp (value : Instant)
  | string (value : String)
  | vector (value : List Single)
  deriving DecidableEq, Repr

namespace PropertyValue

def kind : PropertyValue → String
  | boolean _ => "boolean"
  | integer _ => "integer"
  | float _ => "float"
  | timestamp _ => "timestamp"
  | string _ => "string"
  | vector _ => "vector"

def text? : PropertyValue → Option String
  | string s => some s
  | _ => none

def displayText : PropertyValue → String
  | boolean b => if b then "true" else "false"
  | integer i => toString i
  | float x => x.displayText
  | timestamp t => t.displayText
  | string s => s
  | vector xs => "[" ++ ",".intercalate (xs.map Binary.displayText) ++ "]"

def vectorJson (xs : List Single) : Json := .array (xs.map fun x => Json.ofDouble x.convert)

def vectorDocument (xs : List Single) : Json := .array (xs.map Json.ofSingle)

/-- A value as the graph store gets it. -/
def toJson : PropertyValue → Json
  | boolean b => .bool b
  | integer i => .int i
  | float x => Json.ofDouble x
  | timestamp t => .string t.displayText
  | string s => .string s
  | vector xs => vectorJson xs

/-- A value as documents hold it. -/
def toDocument : PropertyValue → Json
  | timestamp t => .string t.documentText
  | vector xs => vectorDocument xs
  | value => value.toJson

/-- The value that a JSON value stands for: a truth value, a number, a text or an array of numbers.
An integer that does not fit becomes a float. -/
def ofJson? : Json → Option PropertyValue
  | .bool b => some (boolean b)
  | .int i => some (if Literal.fitsSigned i then integer i else float (Binary.ofInt i))
  | .double x => some (float x)
  | .single x => some (float x.convert)
  | .string s => some (string s)
  | .array items => (items.mapM Json.single?).map vector
  | .null => none
  | .object _ => none

end PropertyValue

end Ontograph
