/-
Ontograph.Json.Record — decoding records.

A record has a list of field names. It is written as an object, where names
that are not the record's are passed over, whatever stands under them, and a
name of the record's stands at most once, or as an array of the values in the
order of the names, which may stop early but not run on. Each field then says
for itself whether it may be absent.
-/
import Ontograph.Json.Parser

namespace Ontograph.Json

/-! ## Literals -/

namespace Shape

def string? (j : Shape) : Option String := j.value?.bind Json.string?

def bool? (j : Shape) : Option Bool := j.value?.bind Json.bool?

def single? (j : Shape) : Option Single := j.value?.bind Json.single?

/-! ## Objects -/

def entries? : Shape → Option (List (String × Shape))
  | object fields => fields.mapM fun (key, value) => key.map (·, value)
  | _ => none

def record? (names : List String) : Shape → Option (List (String × Shape))
  | object fields => do
    let entries ← entries? (object fields)
    let known := entries.filter fun e => names.contains e.1
    if (known.map Prod.fst).Nodup then some known else none
  | array items => if items.length ≤ names.length then some (names.zip items) else none
  | literal _ => none

end Shape

/-! ## Fields -/

def required (fields : List (String × Shape)) (name : String) (decode : Shape → Option α) :
    Option α :=
  (findNamed? name fields).bind fun e => decode e.2

def defaulted (fields : List (String × Shape)) (name : String) (absent : α)
    (decode : Shape → Option α) : Option α :=
  match findNamed? name fields with
  | none => some absent
  | some e => decode e.2

def nullable (decode : Shape → Option α) : Shape → Option (Option α)
  | .literal (some .null) => some none
  | j => (decode j).map some

def listOf (decode : Shape → Option α) : Shape → Option (List α)
  | .array items => items.mapM decode
  | _ => none

end Ontograph.Json
