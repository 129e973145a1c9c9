/-
Ontograph.Settings.Toml.Table — a document's tables while they are put together.

A table may come into being by a header of its own, by the header of a table
inside it, or by a key with points. Which of these it was decides whether it
may be written to again, and a document that defines anything twice is
refused.
-/
import Ontograph.Settings.Setting

namespace Ontograph.Toml

inductive Origin where
  /-- by a header of its own -/
  | header
  /-- by the header of a table inside it -/
  | inner
  /-- by a key with points -/
  | dotted
  deriving DecidableEq, Repr

inductive Node where
  | leaf (value : Setting)
  | table (origin : Origin) (entries : List (String × Node))
  | tables (items : List (List (String × Node)))

structure Table where
  origin : Origin := .header
  entries : List (String × Node) := []

namespace Table

def set (t : Table) (key : String) (node : Node) : Table :=
  { t with entries := place (key, node) t.entries }

def get? (t : Table) (key : String) : Option Node := (findNamed? key t.entries).map Prod.snd

/-- A change made to the table at the end of a path. Tables on the way are made if they are not
there; keys with points do not lead into tables that have a header. -/
def change (dotted : Bool) (f : Table → Option Table) : List String → Table → Option Table
  | [], t => f t
  | key :: path, t =>
    match t.get? key with
    | none => do
      let child ← change dotted f path { origin := if dotted then .dotted else .inner }
      pure (t.set key (.table child.origin child.entries))
    | some (.leaf _) => none
    | some (.table origin entries) =>
      if dotted && origin = .header then none
      else do
        let child ← change dotted f path { origin, entries }
        pure (t.set key (.table child.origin child.entries))
    | some (.tables items) =>
      match items.getLast? with
      | none => none
      | some last => do
        let child ← change dotted f path { entries := last }
        pure (t.set key (.tables (items.dropLast ++ [child.entries])))

/-- The table with the table of a header in it. -/
def openTable (key : String) (t : Table) : Option Table :=
  match t.get? key with
  | none => some (t.set key (.table .header []))
  | some (.table .inner entries) => some (t.set key (.table .header entries))
  | some _ => none

/-- The table with one more item in an array of tables. -/
def openItem (key : String) (t : Table) : Option Table :=
  match t.get? key with
  | none => some (t.set key (.tables [[]]))
  | some (.tables items) => some (t.set key (.tables (items ++ [[]])))
  | some _ => none

/-- The table with a value under a new key. A key with points must lead to a table that such keys
have made, and no other key may lead there. -/
def define (pointed : Bool) (key : String) (value : Setting) (t : Table) : Option Table :=
  if decide (t.origin = .dotted) = pointed ∧ (t.get? key).isNone then
    some (t.set key (.leaf value))
  else none

def assign (keys : List String) (value : Setting) (t : Table) : Option Table :=
  match keys.getLast? with
  | none => none
  | some last => t.change true (define (1 < keys.length) last value) keys.dropLast

end Table

mutual

def Node.setting : Node → Setting
  | .leaf value => value
  | .table _ entries => .table (Node.settings entries)
  | .tables items => .list (Node.settingTables items)

def Node.settings : List (String × Node) → SettingTable
  | [] => []
  | (key, node) :: rest => (key, node.setting) :: Node.settings rest

def Node.settingTables : List (List (String × Node)) → List Setting
  | [] => []
  | item :: rest => .table (Node.settings item) :: Node.settingTables rest

end

inductive Line where
  | header (path : List String)
  | itemHeader (path : List String)
  | entry (keys : List String) (value : Setting)

/-- The part of a document read so far: its tables, and the path of the one that is open. -/
structure Draft where
  root : Table := {}
  current : List String := []

def Draft.add (d : Draft) : Line → Option Draft
  | .header path => do
    let root ← d.root.change false (Table.openTable (path.getLastD "")) path.dropLast
    pure ⟨root, path⟩
  | .itemHeader path => do
    let root ← d.root.change false (Table.openItem (path.getLastD "")) path.dropLast
    pure ⟨root, path⟩
  | .entry keys value => do
    let root ← d.root.change false (Table.assign keys value) d.current
    pure { d with root }

def settingsOf? (lines : List Line) : Option SettingTable :=
  (lines.foldlM Draft.add {}).map fun d => Node.settings d.root.entries

end Ontograph.Toml
