/-
Ontograph.Settings.JsonDocument — a JSON object as settings.
-/
import Ontograph.Json.Parser
import Ontograph.Settings.Setting

namespace Ontograph.Setting

mutual

/-- A JSON value as a setting. An integer that does not fit becomes a real number. -/
def ofJson : Json → Setting
  | .null => nothing
  | .bool b => truth b
  | .int i => if Literal.fitsSigned i then integer i else real (Binary.ofInt i)
  | .double x => real x
  | .single x => real x.convert
  | .string s => text s
  | .array items => list (itemsOfJson items)
  | .object fields => table (entriesOfJson fields)

def itemsOfJson : List Json → List Setting
  | [] => []
  | item :: rest => ofJson item :: itemsOfJson rest

def entriesOfJson : List (String × Json) → SettingTable
  | [] => []
  | (key, value) :: rest => (key, ofJson value) :: entriesOfJson rest

end

def documentOfJson? (j : Json) : Option SettingTable := j.object?.map entriesOfJson

end Ontograph.Setting
