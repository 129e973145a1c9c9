/-
Ontograph.Settings.Path — where a setting stands.

A path leads from a table through names and places in lists: `a.b[2]` is the
third item of what stands under `b` in what stands under `a`. Writing makes
what is not there yet. A table that is written to a name is merged with the
table there, entry by entry, and names count in lower case; anything else, and
anything that is written to a place in a list, replaces what was there.
-/
import Ontograph.Settings.Setting

namespace Ontograph

/-- A step from a setting into it. Negative places count from the end of a list. -/
inductive SettingStep where
  | name (key : String)
  | item (index : Int)
  deriving DecidableEq, Repr

namespace SettingStep

/-! ## Reading -/

def isNameChar (c : Char) : Bool := c.isAlphanum || c = '_' || c = '-' || c = ' '

def isBlank (c : Char) : Bool := c = ' ' || c = '\t' || c = '\n' || c = '\r'

def name? (cs : List Char) : Option (SettingStep × List Char) :=
  if (cs.takeWhile isNameChar).isEmpty then none
  else some (.name (String.ofList (cs.takeWhile isNameChar)), cs.dropWhile isNameChar)

def item? (cs : List Char) : Option (SettingStep × List Char) :=
  let cs := cs.dropWhile isBlank
  let negative := cs.head? = some '-'
  let digits := if negative then cs.drop 1 else cs
  match (digits.dropWhile Char.isDigit).dropWhile isBlank with
  | ']' :: rest => do
    let n ← Literal.natural? (digits.takeWhile Char.isDigit)
    let index : Int := if negative then -(n : Int) else n
    if Literal.fitsSigned index then some (.item index, rest) else none
  | _ => none

def more? : Nat → List Char → Option (List SettingStep)
  | _, [] => some []
  | fuel + 1, '.' :: rest => do
    let (step, rest) ← name? rest
    pure (step :: (← more? fuel rest))
  | fuel + 1, '[' :: rest => do
    let (step, rest) ← item? rest
    pure (step :: (← more? fuel rest))
  | _, _ => none

/-- The path that a key stands for. A key that is no path is one name. -/
def path (key : String) : List SettingStep :=
  let steps := (name? key.toList).bind fun (step, rest) =>
    (more? rest.length rest).map (step :: ·)
  steps.getD [.name key]

/-! ## Writing -/

/-- The place that an index means in a list of so many items. -/
def place (index : Int) (length : Nat) : Nat :=
  if index < 0 then length - index.natAbs else index.toNat

/-- The setting at the end of a path changed, in the setting that the path leads from. What stands
in the way of a name becomes a table, and of a place a list that is filled up with nothing. -/
def change (f : Option Setting → Setting) : List SettingStep → Option Setting → Setting
  | [], old => f old
  | .name key :: path, old =>
    let t := (old.map Setting.entries).getD []
    .table (Ontograph.place (key, change f path (SettingTable.get? t key)) t)
  | .item index :: path, old =>
    let items := (old.map Setting.items).getD []
    let n := place index items.length
    let filled := items ++ List.replicate (n + 1 - items.length) .nothing
    .list (filled.set n (change f path items[n]?))

end SettingStep

/-! ## Merging -/

mutual

def Setting.laidOn : Setting → Option Setting → Setting
  | .table entries, old => Setting.entriesLaidOn entries (old.getD (.table []))
  | other, _ => other

/-- Entries laid over a setting one after another, their names in lower case. -/
def Setting.entriesLaidOn : List (String × Setting) → Setting → Setting
  | [], old => old
  | (key, value) :: rest, old =>
    let key := Text.lower key
    let merged := value.laidOn (SettingTable.get? old.entries key)
    Setting.entriesLaidOn rest (.table (place (key, merged) old.entries))

end

namespace SettingTable

def put (value : Setting) (path : List SettingStep) (t : SettingTable) : SettingTable :=
  let written :=
    match path.getLast? with
    | some (.item _) => fun _ => value
    | _ => value.laidOn
  (SettingStep.change written path (some (.table t))).entries

/-- The settings with those of a document on top; a name in the document may be a path. -/
def overlay (t document : SettingTable) : SettingTable :=
  document.foldl (fun t (key, value) => t.put value (SettingStep.path (Text.lower key))) t

end SettingTable

end Ontograph
