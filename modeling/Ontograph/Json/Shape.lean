/-
Ontograph.Json.Shape — JSON texts before anything is taken from them.

A text that follows the grammar has a shape. Not every literal of the grammar
stands for something: half of a surrogate pair is no text, and a number beyond
the largest double is none. What nobody asks for may hold such literals, so a
shape keeps them without a value, and keeps repeated keys side by side.
`settle` turns a shape into a value: every literal has to stand for something,
a repeated key keeps its first place and takes its last value, and nesting has
a limit. `Json.shape` goes the other way.
-/
import Ontograph.Json.Value

namespace Ontograph.Json

/-- The shape of a JSON text. A literal or a key without a value stands for nothing. -/
inductive Shape where
  | literal (value : Option Json)
  | array (items : List Shape)
  | object (fields : List (Option String × Shape))

mutual

def shape : Json → Shape
  | .array items => .array (shapeItems items)
  | .object fields => .object (shapeFields fields)
  | .null => .literal (some .null)
  | .bool b => .literal (some (.bool b))
  | .int i => .literal (some (.int i))
  | .double x => .literal (some (.double x))
  | .single x => .literal (some (.single x))
  | .string s => .literal (some (.string s))

def shapeItems : List Json → List Shape
  | [] => []
  | item :: rest => shape item :: shapeItems rest

def shapeFields : List (String × Json) → List (Option String × Shape)
  | [] => []
  | (key, value) :: rest => (some key, shape value) :: shapeFields rest

end

namespace Shape

mutual

/-- A shape as a value that is nested at most `depth` levels deep. -/
def settle (depth : Nat) : Shape → Option Json
  | .literal value => value
  | .array items =>
    match depth with
    | 0 => none
    | depth + 1 => (settleItems depth items).map .array
  | .object fields =>
    match depth with
    | 0 => none
    | depth + 1 => (settleFields depth fields).map Json.ofEntries

def settleItems (depth : Nat) : List Shape → Option (List Json)
  | [] => some []
  | item :: rest => do pure ((← settle depth item) :: (← settleItems depth rest))

def settleFields (depth : Nat) : List (Option String × Shape) → Option (List (String × Json))
  | [] => some []
  | (key, value) :: rest => do
    pure ((← key, ← settle depth value) :: (← settleFields depth rest))

end

def value? : Shape → Option Json
  | literal value => value
  | _ => none

end Shape

end Ontograph.Json
