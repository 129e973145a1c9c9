/-
Ontograph.Ontology.PropertyType — what a property stores.

There are eight types with a meaning of their own, known by a name in letters
of either case. Every other name is a type too, so that a definition made for
newer tools is kept; it is stored and published as text. `ofName_name` says
that a type is determined by its name.
-/

namespace Ontograph

/-- The types with a meaning of their own. -/
inductive StandardType where
  | string
  | integer
  | float
  | boolean
  | datetime
  | date
  | text
  | vector
  deriving DecidableEq, Repr

namespace StandardType

def name : StandardType → String
  | string => "string"
  | integer => "integer"
  | float => "float"
  | boolean => "boolean"
  | datetime => "datetime"
  | date => "date"
  | text => "text"
  | vector => "vector"

def all : List StandardType := [string, integer, float, boolean, datetime, date, text, vector]

/-- A text with its ASCII letters in small form. -/
def folded (s : String) : String := String.ofList (s.toList.map Char.toLower)

/-- The type with a name, the ASCII letters of which may have either case. -/
def ofName? (s : String) : Option StandardType := all.find? fun t => t.name = folded s

end StandardType

inductive PropertyType where
  | standard (type : StandardType)
  | other (name : String) (unknown : StandardType.ofName? name = none)
  deriving DecidableEq

namespace PropertyType

def name : PropertyType → String
  | standard t => t.name
  | other n _ => n

def ofName (s : String) : PropertyType :=
  match h : StandardType.ofName? s with
  | some t => standard t
  | none => other s h

def isVector (t : PropertyType) : Bool := t = standard .vector

def isOther : PropertyType → Bool
  | standard _ => false
  | other _ _ => true

/-- The name of a type is read as the type. -/
theorem ofName?_name (t : StandardType) : StandardType.ofName? t.name = some t := by
  cases t <;> decide +kernel

/-- Every type comes back from its name, those without a meaning of their own included. -/
theorem ofName_name (t : PropertyType) : ofName t.name = t := by
  unfold ofName
  cases t with
  | standard t =>
    split
    · rename_i h; rw [show (standard t).name = t.name from rfl, ofName?_name] at h; simp_all
    · rename_i h; rw [show (standard t).name = t.name from rfl, ofName?_name] at h; simp_all
  | other n hn =>
    split
    · rename_i h; rw [show (other n hn).name = n from rfl, hn] at h; simp_all
    · rfl

end PropertyType

end Ontograph
