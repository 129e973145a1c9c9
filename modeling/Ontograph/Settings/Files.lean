/-
Ontograph.Settings.Files — settings in files.

The name of a settings file may be given without its ending. A file of exactly
the given name is taken if there is one; its ending then has to be that of a
known format. Otherwise the endings are tried one after another.
-/
import Ontograph.Settings.Ini
import Ontograph.Settings.JsonDocument
import Ontograph.Settings.JsonFive
import Ontograph.Settings.Ron
import Ontograph.Settings.Toml.Document
import Ontograph.Settings.Yaml.Document

namespace Ontograph.Settings

/-! ## Formats -/

inductive Format where
  | toml
  | json
  | yaml
  | ini
  | ron
  | jsonFive
  deriving DecidableEq, Repr

namespace Format

/-- What the names of files end in behind their last point, with the format that it announces, the
first choice first. -/
def endings : List (String × Format) :=
  [("toml", toml), ("json", json), ("yaml", yaml), ("yml", yaml), ("ini", ini), ("ron", ron),
    ("json5", jsonFive)]

def document? : Format → String → Option SettingTable
  | toml => Toml.ofText?
  | json => fun text => (Json.parse text).bind Setting.documentOfJson?
  | yaml => Yaml.ofText?
  | ini => Ini.ofText?
  | ron => Ron.ofText?
  | jsonFive => JsonFive.ofText?

end Format

/-- The settings of a file's text, before which a byte order mark may stand. -/
def ofFile? (format : Format) (text : String) : Option SettingTable :=
  match text.toList with
  | '\ufeff' :: rest => format.document? (String.ofList rest)
  | _ => format.document? text

/-! ## Names -/

/-- A path without the slashes, and the points behind slashes, at its end; `reversed` is the path
from its end. -/
def stem : List Char → List Char
  | '/' :: rest => stem rest
  | '.' :: '/' :: rest => stem rest
  | reversed => reversed

/-- The path and the name of the file that a path leads to, if it does not lead to a directory
above. -/
def fileName? (path : String) : Option (List Char × List Char) :=
  let reversed := stem path.toList.reverse
  let name := (reversed.takeWhile (· ≠ '/')).reverse
  if name.isEmpty || name = ['.'] || name = ['.', '.'] then none
  else some (reversed.reverse, name)

/-- What a name ends in behind its last point, which may not be its first character. -/
def ending? (name : List Char) : Option String :=
  match name.reverse.span (· ≠ '.') with
  | (reversed, '.' :: _ :: _) => some (String.ofList reversed.reverse)
  | _ => none

def formatOf? (path : String) : Option Format := do
  let (_, name) ← fileName? path
  Format.endings.lookup (← ending? name)

def candidates (path : String) : List (String × Format) :=
  match fileName? path with
  | none => []
  | some (trunk, _) =>
    Format.endings.map fun (ending, format) => (String.ofList trunk ++ "." ++ ending, format)

/-! ## Reading -/

def readFirst [Monad m] (read : String → m (Option String)) :
    List (String × Format) → m (Option (Option SettingTable))
  | [] => pure none
  | (path, format) :: rest => do
    match ← read path with
    | some text => pure (some (ofFile? format text))
    | none => readFirst read rest

/-- The settings of the file at a path, which may be given without its ending; none if there is no
such file of a known format. -/
def readFile [Monad m] (read : String → m (Option String)) (path : String) :
    m (Option (Option SettingTable)) := do
  match ← read path with
  | some text => pure ((formatOf? path).map (ofFile? · text))
  | none => readFirst read (candidates path)

end Ontograph.Settings
