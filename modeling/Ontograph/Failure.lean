/-
Ontograph.Failure — the failures of the library under one type.
-/
import Ontograph.Completion.Backend
import Ontograph.Loader.Error
import Ontograph.Ontology.Basic

namespace Ontograph

inductive Failure where
  | definition (error : DefinitionError)
  | validation (error : ValidationError)
  | graph (error : GraphError)
  | embedding (error : EmbeddingError)
  | completion (error : CompletionError)
  deriving DecidableEq, Repr

def Failure.message : Failure → String
  | definition error => "Definition error: " ++ error.message
  | validation error => "Validation error: " ++ error.message
  | graph error => "Graph store error: " ++ error.message
  | embedding error => "Embedding error: " ++ error.message
  | completion error => "Completion error: " ++ error.message

end Ontograph
