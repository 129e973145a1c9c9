/-
Ontograph.Entity.Identity — which node an entity is.

An entity that has an identity of its own keeps it. Otherwise its identity is
a hash: of its type and its first natural key, or of its type and all of its
properties if it has no natural key. The text that is hashed is kept apart
from the hash, since it is the text that tells entities apart.
-/
import Ontograph.Text.Blank
import Ontograph.Digest.Sha256
import Ontograph.Ontology.Definition
import Ontograph.Entity.Properties

namespace Ontograph

inductive Identity where
  | given (id : String)
  | hashed (text : String)
  deriving DecidableEq, Repr

namespace Identity

/-- The natural keys of node types that name none of their own, the first choice first. -/
def defaultKeys : List String :=
  ["number", "bioguide_id", "system_code", "cik", "accession_number", "name", "title"]

def keys (node : Option NodeType) : List String :=
  match node with
  | some node => if node.identityKeys.isEmpty then defaultKeys else node.identityKeys
  | none => defaultKeys

/-- The identity that a bag holds itself, unless it is blank. -/
def given? (p : Properties) : Option String :=
  ((p.get? identityProperty).map PropertyValue.displayText).filter (!Text.isBlankText ·)

def keyValue? (keys : List String) (p : Properties) : Option PropertyValue :=
  keys.findSome? p.get?

/-- The text of a bag without a natural key. -/
def bagText (p : Properties) : String := (Json.object p.toFields).compact

def of (type : String) (node : Option NodeType) (p : Properties) : Identity :=
  match given? p with
  | some id => given id
  | none =>
    match keyValue? (keys node) p with
    | some value => hashed (type ++ ":" ++ value.displayText)
    | none => hashed (type ++ ":" ++ bagText p)

def hashLength : Nat := 16

def value : Identity → String
  | given id => id
  | hashed text => String.ofList ((Sha256.ofText text).toList.take hashLength)

end Identity

def deriveIdentity (type : String) (node : Option NodeType) (p : Properties) : String :=
  (Identity.of type node p).value

end Ontograph
