/-
Ontograph.Artifacts — the files that are generated from an ontology.
-/
import Ontograph.Cypher.Schema
import Ontograph.Proto.Interface
import Ontograph.LinkedData.Context

namespace Ontograph

structure Artifact where
  path : String
  content : String
  deriving DecidableEq, Repr

/-- A path inside a directory; an absolute path stays what it is. -/
def joinPath (dir path : String) : String :=
  if path.toList.head? = some '/' ∨ dir.isEmpty then path
  else if dir.toList.getLast? = some '/' then dir ++ path
  else dir ++ "/" ++ path

/-- The three files of an ontology, in the order in which they are written. -/
def artifacts (o : Ontology) (dir : String) : List Artifact :=
  [⟨joinPath dir "schema.cypher", Cypher.script o⟩,
   ⟨joinPath dir "knowledge_graph.proto", Proto.interface o⟩,
   ⟨joinPath dir "context.jsonld", LinkedData.documentText o⟩]

end Ontograph
