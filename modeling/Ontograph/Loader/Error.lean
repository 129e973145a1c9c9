/-
Ontograph.Loader.Error — why an entity, a relationship or a search fails.

What does not fit the ontology is a validation error; the entity or the
relationship is left out and the batch goes on. Everything else comes from the
graph store or from the embedding backend.
-/
import Ontograph.Graph.Session
import Ontograph.Embedding.Backend

namespace Ontograph

inductive ValidationError where
  | unknownEntityType (name : String)
  | unknownRelationshipType (name : String)
  | invalidLabel (name : String)
  deriving DecidableEq, Repr

def ValidationError.message : ValidationError → String
  | unknownEntityType name => "unknown entity type '" ++ name ++ "'"
  | unknownRelationshipType name => "unknown relationship type '" ++ name ++ "'"
  | invalidLabel name => "invalid graph label '" ++ name ++ "'"

inductive LoadError where
  | validation (error : ValidationError)
  | graph (error : GraphError)
  | embedding (error : EmbeddingError)
  | missingEndpoint (relationship sourceType sourceId targetType targetId : String)
  | noResult (entityType id : String)
  deriving DecidableEq, Repr

namespace LoadError

def message : LoadError → String
  | validation error => error.message
  | graph error => "Graph store error: " ++ error.message
  | embedding error => "Embedding error: " ++ error.message
  | missingEndpoint relationship sourceType sourceId targetType targetId =>
    relationship ++ " from " ++ sourceType ++ " '" ++ sourceId ++ "' to " ++ targetType ++ " '" ++
      targetId ++ "' not written: endpoint missing"
  | noResult entityType id =>
    "Graph store returned no id for " ++ entityType ++ " '" ++ id ++ "'"

def isValidation : LoadError → Bool
  | validation _ => true
  | graph _ | embedding _ | missingEndpoint .. | noResult _ _ => false

end LoadError

end Ontograph
