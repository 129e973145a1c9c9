/-
Ontograph.Settings.EnvironmentFile — environment variables in a file.

Each line names a variable and gives its value behind an equals sign. A value
may be quoted, wholly or in part: single quotes take everything as it stands,
elsewhere a backslash escapes and a dollar sign puts in the value of a
variable. Outside quotes a blank ends the value, and only a comment may
follow; inside quotes a value goes on over the ends of lines. A variable that
is set already keeps its value. A file counts up to its first line that says
nothing.
-/
import Ontograph.Settings.Environment
import Ontograph.Text.Alphanumeric
import Ontograph.Text.Lines

namespace Ontograph.EnvironmentFile

/-! ## Lines -/

/-- What a character is seen in the light of, when the end of a line is looked for. -/
inductive Scene where
  | bare
  | spaced
  | escaped
  | double
  | doubleEscaped
  | single
  | singleEscaped
  deriving DecidableEq, Repr

namespace Scene

/-- What follows a character. A blank counts only on its own and when nothing is open. -/
def next (scene : Scene) (c : Char) : Scene :=
  match scene with
  | escaped => bare
  | doubleEscaped => double
  | singleEscaped => single
  | double => if c = '\\' then doubleEscaped else if c = '"' then bare else double
  | single => if c = '\\' then singleEscaped else if c = '\'' then bare else single
  | bare | spaced =>
    if c = '\\' then escaped
    else if c = '"' then double
    else if c = '\'' then single
    else if scene = bare && Text.isBlank c && c ≠ '\n' && c ≠ '\r' then spaced
    else bare

/-- How many characters of a line count, and what follows them; a hash behind a blank begins a
comment, which does not count, and then nothing follows. -/
def scan : Scene → List Char → Nat × Option Scene
  | scene, [] => (0, some scene)
  | scene, c :: rest =>
    if scene = spaced && c = '#' then (0, none)
    else
      let (count, stop) := scan (scene.next c) rest
      (count + 1, stop)

end Scene

def feedLines : List (List Char) → List (List Char)
  | [] => []
  | [last] => if last.isEmpty then [] else [last]
  | line :: next :: rest => (line ++ ['\n']) :: feedLines (next :: rest)

def withoutBreak (line : List Char) : List Char :=
  if line.getLast? = some '\n' then Text.dropReturn line.dropLast else line

/-- The lines of a file, those put together over whose ends a value goes on; `begun` is the part of
a line that is there already. A line that does not come to its end says nothing. -/
def joined (scene : Scene) (begun : List Char) : List (List Char) → List (Option (List Char))
  | [] => if scene = .bare then [] else [none]
  | line :: rest =>
    if (Text.trimLeft (begun ++ line)).head? = some '#' then joined .bare [] rest
    else
      match scene.scan line with
      | (count, none) => some (begun ++ line.take count) :: joined .bare [] rest
      | (_, some .bare) => some (withoutBreak (begun ++ line)) :: joined .bare [] rest
      | (_, some scene) => joined scene (begun ++ line) rest

/-! ## Values -/

/-- What surrounds a character of a value. A flag tells whether double quotes are open. -/
inductive Frame where
  | text (quoted : Bool)
  | escape (quoted : Bool)
  | single
  | name (quoted : Bool) (name : List Char)
  | braced (quoted : Bool) (name : List Char)
  | ending
  deriving DecidableEq, Repr

def unescape? (c : Char) : Option Char :=
  if c = 'n' then some '\n'
  else if ['\\', '\'', '"', '$', ' '].contains c then some c
  else none

/-- A value up to its end; `valueOf` gives the values of variables. A name goes on while letters and
digits of any script follow, and what ends it stands for itself. -/
def value? (valueOf : List Char → List Char) : Frame → List Char → Option (List Char)
  | .text quoted, [] | .escape quoted, [] => if quoted then none else some []
  | .name quoted name, [] => if quoted then none else some (valueOf name)
  | .ending, [] => some []
  | .single, [] | .braced _ _, [] => none
  | .ending, c :: rest =>
    if c = ' ' || c = '\t' then value? valueOf .ending rest
    else if c = '#' then some []
    else none
  | .escape quoted, c :: rest => do
    let x ← unescape? c
    (value? valueOf (.text quoted) rest).map (x :: ·)
  | .single, c :: rest =>
    if c = '\'' then value? valueOf (.text false) rest
    else (value? valueOf .single rest).map (c :: ·)
  | .name quoted name, c :: rest =>
    if Text.isAlphanumeric c then value? valueOf (.name quoted (name ++ [c])) rest
    else if c = '\x7b' && name.isEmpty then value? valueOf (.braced quoted []) rest
    else if c = '$' then
      (value? valueOf (.name quoted []) rest).map (valueOf name ++ ·)
    else (value? valueOf (.text quoted) rest).map (valueOf name ++ c :: ·)
  | .braced quoted name, c :: rest =>
    if c = '\x7d' then (value? valueOf (.text quoted) rest).map (valueOf name ++ ·)
    else value? valueOf (.braced quoted (name ++ [c])) rest
  | .text quoted, c :: rest =>
    if c = '$' then value? valueOf (.name quoted []) rest
    else if c = '\\' then value? valueOf (.escape quoted) rest
    else if c = '"' then value? valueOf (.text (!quoted)) rest
    else if quoted then (value? valueOf (.text true) rest).map (c :: ·)
    else if c = '\'' then value? valueOf .single rest
    else if c = ' ' || c = '\t' then value? valueOf .ending rest
    else (value? valueOf (.text false) rest).map (c :: ·)

/-! ## Assignments -/

/-- The name of a variable at the front of a line, and what follows it and its blanks. -/
def key? (cs : List Char) : Option (List Char × List Char) :=
  let isKeyChar := fun c : Char => c.isAlphanum || c = '_' || c = '.'
  match cs with
  | c :: _ =>
    if c.isAlpha || c = '_' then
      some (cs.takeWhile isKeyChar, Text.trimLeft (cs.dropWhile isKeyChar))
    else none
  | [] => none

/-- The variable that a line sets, and the text of its value; a word may announce it. -/
def assignment? (cs : List Char) : Option (List Char × List Char) := do
  match ← key? cs with
  | (key, '=' :: rest) => some (key, Text.trimLeft rest)
  | (key, rest) =>
    if key = "export".toList then
      match ← key? rest with
      | (key, '=' :: rest) => some (key, Text.trimLeft rest)
      | _ => none
    else none

/-- The variable that a line sets, with the variables that are set already. -/
def entry? (env : Environment) (cs : List Char) : Option (String × String) := do
  let (key, text) ← assignment? cs
  let valueOf := fun name => ((env.get? (String.ofList name)).getD "").toList
  let value ← if text.head? = some '#' then some [] else value? valueOf (.text false) text
  some (String.ofList key, String.ofList value)

/-- The variables with those of some lines, up to the first line that says nothing. -/
def extend (env : Environment) : List (Option (List Char)) → Environment
  | [] | none :: _ => env
  | some line :: rest =>
    match Text.trimBoth line with
    | [] | '#' :: _ => extend env rest
    | text =>
      match entry? env text with
      | none => env
      | some entry => extend (if (env.get? entry.1).isSome then env else env ++ [entry]) rest

/-- The variables with those of a file, before which a byte order mark may stand. -/
def load (env : Environment) (text : String) : Environment :=
  let cs := match text.toList with
    | '\ufeff' :: rest => rest
    | cs => cs
  extend env (joined .bare [] (feedLines (Text.splitAtFeeds cs)))

def words (text : String) : List String :=
  text.split (fun c => !(c.isAlphanum || c = '_' || c = '.')) |>.toList.map toString
    |>.filter (!·.isEmpty)

end Ontograph.EnvironmentFile
