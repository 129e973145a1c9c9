/-
Ontograph.Loader.Search — nodes that are close to a text.

The query is embedded once and every type with a vector property is searched
through its own index, in the order of registration. The hits of all types
are then put into one order, the best first, and cut to the limit; hits of
equal score keep the order in which they came.
-/
import Ontograph.Loader.Basic

namespace Ontograph

structure SearchHit where
  id : String
  type : String
  domain : String
  score : Double
  properties : Fields

namespace SearchHit

def toJson (h : SearchHit) : Json :=
  .object [("id", .string h.id), ("type", .string h.type), ("domain", .string h.domain),
    ("score", Json.ofDouble h.score), ("properties", .object h.properties)]

/-- The hit of a record that a search of a type answered, unless it lacks an identity or a score.
The vector is taken out of the node's properties. -/
def ofRecord? (type vectorProperty : String) (r : Record) : Option SearchHit := do
  let id ← (← Fields.get? "id" r).string?
  let score ← (← Fields.get? "score" r).number?
  pure {
    id, type, score
    domain := ((Fields.get? "domain" r).bind Json.string?).getD ""
    properties := Fields.swapRemove vectorProperty
      (((Fields.get? "properties" r).bind Json.object?).getD []) }

/-- Whether a hit comes before another that was found later. -/
def atLeast (a b : SearchHit) : Bool := b.score.rank ≤ a.score.rank

def best (limit : Nat) (hits : List SearchHit) : List SearchHit :=
  (hits.mergeSort atLeast).take limit

end SearchHit

namespace Loader

variable {m : Type → Type} [Monad m]

/-- The node types to be searched, with their vector properties: all that have one, or the one
asked for. -/
def searchTargets (o : Ontology) (type : Option String) :
    Except ValidationError (List (NodeType × Property)) :=
  let withVector (nodes : List NodeType) :=
    nodes.filterMap fun node => node.vectorProperty?.map (node, ·)
  match type with
  | none => .ok (withVector o.nodeTypes)
  | some key =>
    match o.nodeType? key with
    | none => .error (.unknownEntityType key)
    | some node => .ok (withVector [node])

/-- The statement that searches the nodes of a type. -/
def searchStatement (node : NodeType) (p : Property) (limit : Nat) (vector : Embedding) :
    Except ValidationError Statement :=
  match quotedName node.name with
  | .error error => .error error
  | .ok label => .ok (.search label (Cypher.indexName node.name p.name .vector) limit vector)

def searchEach (l : Loader m) (limit : Nat) (vector : Embedding) :
    List (NodeType × Property) → m (Except LoadError (List SearchHit))
  | [] => pure (.ok [])
  | (node, p) :: rest =>
    match searchStatement node p limit vector with
    | .error error => pure (.error (.validation error))
    | .ok statement => do
      match ← l.send statement with
      | .error error => pure (.error (.graph error))
      | .ok records =>
        match ← l.searchEach limit vector rest with
        | .error error => pure (.error error)
        | .ok hits =>
          pure (.ok (records.filterMap (SearchHit.ofRecord? node.name p.name) ++ hits))

/-- The nodes that are closest to a text, at most `limit` of them. There are none for a blank
text, without a backend, without a type to search and without an embedding of the text. -/
def semanticSearch (l : Loader m) (query : String) (type : Option String) (limit : Nat) :
    m (Except LoadError (List SearchHit)) :=
  if Text.isBlankText query || limit = 0 then pure (.ok [])
  else
    match l.backend with
    | none => pure (.ok [])
    | some backend =>
      match searchTargets l.ontology type with
      | .error error => pure (.error (.validation error))
      | .ok [] => pure (.ok [])
      | .ok targets => do
        match ← backend.embed (Text.trim query) with
        | .error error => pure (.error (.embedding error))
        | .ok none => pure (.ok [])
        | .ok (some vector) =>
          match ← l.searchEach limit vector targets with
          | .error error => pure (.error error)
          | .ok hits => pure (.ok (SearchHit.best limit hits))

end Loader

end Ontograph
