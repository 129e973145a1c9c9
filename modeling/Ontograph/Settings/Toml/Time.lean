/-
Ontograph.Settings.Toml.Time — times as settings.

Until a document is complete, a time is a table whose first entry has a
reserved name and holds the time's text. A document may write such a table
itself and means a time by it, so its text is read once more, by a rule that
is a little wider than that of times without quotes: an hour may be 24, and a
distance from universal time is a number of minutes up to a day. `withTimes?`
turns all of them into texts in their usual form.
-/
import Ontograph.Settings.Toml.Scalar

namespace Ontograph.Toml

def timeKey : String := "$__toml_private_datetime"

/-- A time that is still a table. -/
def reserved (text : String) : Setting := .table [(timeKey, .text text)]

def scalar? (cs : List Char) : Option Setting :=
  match instant? cs with
  | some text => some (reserved (String.ofList text))
  | none => plain? cs

def twoDigits (n : Nat) : List Char :=
  if n < 10 then '0' :: Nat.toDigits 10 n else Nat.toDigits 10 n

/-- A date at the front of a text, unless the text begins with an hour. -/
def optionalDate? (cs : List Char) : Option (Option (List Char) × List Char) :=
  if cs[2]? = some ':' then some (none, cs)
  else (date? cs).map fun (date, rest) => (some date, rest)

/-- A time of day with an hour up to 24 at the front of a text. -/
def wideTime? (cs : List Char) : Option (List Char × List Char) := do
  let (_, rest) ← field? 2 0 24 cs
  let (_, rest) ← field? 2 0 59 (← behind? ':' rest)
  let (_, rest) ← field? 2 0 60 (← behind? ':' rest)
  let (fraction, rest) ← fraction? rest
  pure (cs.take 8 ++ fraction, rest)

/-- A distance from universal time that is at most a day, and nothing behind it. -/
def wideOffset? : List Char → Option (List Char)
  | [] => some []
  | ['z'] | ['Z'] => some ['Z']
  | c :: rest => do
    let (hours, tail) ← field? 2 0 99 rest
    let (minutes, tail) ← field? 2 0 99 (← behind? ':' tail)
    let total := 60 * hours + minutes
    if tail.isEmpty && (c = '+' || c = '-') && total ≤ 24 * 60 then
      let sign := if c = '-' && 0 < total then '-' else '+'
      some (sign :: twoDigits (total / 60) ++ ':' :: twoDigits (total % 60))
    else none

def usualTime? (cs : List Char) : Option (List Char) := do
  match ← optionalDate? cs with
  | (none, rest) =>
    let (time, rest) ← wideTime? rest
    if rest.isEmpty then some time else none
  | (some date, []) => some date
  | (some date, mark :: rest) =>
    if isTimeMark mark then
      let (time, rest) ← wideTime? rest
      let offset ← wideOffset? rest
      some (date ++ 'T' :: time ++ offset)
    else none

mutual

/-- A setting with its times as texts; entries behind a reserved name do not count. -/
def withTimes? : Setting → Option Setting
  | .table ((key, value) :: rest) =>
    if key = timeKey then
      match value with
      | .text s => (usualTime? s.toList).map fun cs => .text (String.ofList cs)
      | _ => none
    else do
      let first ← withTimes? value
      (entriesWithTimes? rest).map fun rest => .table ((key, first) :: rest)
  | .list items => (itemsWithTimes? items).map .list
  | other => some other

def entriesWithTimes? : List (String × Setting) → Option SettingTable
  | [] => some []
  | (key, value) :: rest => do
    let first ← withTimes? value
    (entriesWithTimes? rest).map ((key, first) :: ·)

def itemsWithTimes? : List Setting → Option (List Setting)
  | [] => some []
  | item :: rest => do
    let first ← withTimes? item
    (itemsWithTimes? rest).map (first :: ·)

end

end Ontograph.Toml
