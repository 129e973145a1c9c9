/-
Ontograph.Builtin.Catalog — the ontologies that come with the library, by name.
-/
import Ontograph.Builtin.Congressional
import Ontograph.Builtin.Edgar

namespace Ontograph

/-- The built-in ontology of a name; the congressional one has a short name as well. -/
def builtin? (name : String) : Option Ontology :=
  if name = "congressional" ∨ name = "congress" then some Congressional.ontology
  else if name = "edgar" then some Edgar.ontology
  else none

def builtinNames : List String := [Congressional.ontology.domain, Edgar.ontology.domain]

end Ontograph
