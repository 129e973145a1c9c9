/-
Ontograph.Settings.Environment — settings in environment variables.

`CORPUS__SECTION__KEY` holds the setting `key` of a section, in any mixture of
cases, and `CORPUS__SECTION__KEY[0]` the first item of a list. Its value is a
truth value, an integer or a real number if it reads as one, and a text
otherwise.
-/
import Ontograph.Settings.Path

namespace Ontograph

abbrev Environment := List (String × String)

namespace Environment

def get? (env : Environment) (key : String) : Option String :=
  (env.find? (·.1 = key)).map Prod.snd

/-- What the names of settings begin with, in lower case. -/
def marker : List Char := ['c', 'o', 'r', 'p', 'u', 's', '_', '_']

/-- A text with a point for every pair of underscores. -/
def pointed : List Char → List Char
  | '_' :: '_' :: rest => '.' :: pointed rest
  | c :: rest => c :: pointed rest
  | [] => []

def path? (key : String) : Option (List SettingStep) :=
  (marker.isPrefixOf? (Text.lower key).toList).map fun rest =>
    SettingStep.path (String.ofList (pointed rest))

def settingOf (value : String) : Setting :=
  match Text.lower value with
  | "true" => .truth true
  | "false" => .truth false
  | _ =>
    match Literal.signed64? value with
    | some i => .integer i
    | none =>
      match Literal.real? value with
      | some x => .real x
      | none => .text value

def overlay (env : Environment) (t : SettingTable) : SettingTable :=
  env.foldl
    (fun t (key, value) =>
      match path? key with
      | some path => t.put (settingOf value) path
      | none => t) t

end Environment

end Ontograph
