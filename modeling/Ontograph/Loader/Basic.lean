/-
Ontograph.Loader.Basic — writing entities into a graph store.

An entity becomes one node statement and then one statement for each of its
relationships; each is sent on its own, so what fails takes nothing else with
it, and since each of them merges, a batch can be loaded again. What the
ontology refuses is never sent. An embedding is asked for only where it will
be stored, and its failure is no failure of the entity.
-/
import Ontograph.Text.Lines
import Ontograph.Cypher.Script
import Ontograph.Entity.Identity
import Ontograph.Loader.Report
import Ontograph.Loader.Statement

namespace Ontograph

/-- What is needed to write entities: the ontology they have to fit, a session, perhaps an
embedding backend, and the kinds of relationship that are accepted. -/
structure Loader (m : Type → Type) where
  ontology : Ontology
  session : GraphSession m
  backend : Option (EmbeddingBackend m) := none
  /-- The accepted kinds of relationship; if there are none, every kind is accepted. -/
  registry : List String := ontology.relationships.names

namespace Loader

variable {m : Type → Type} [Monad m]

def send (l : Loader m) (s : Statement) : m (Except GraphError (List Record)) :=
  l.session.run s.query (.object s.params)

/-! ## Nodes -/

structure Placement where
  node : NodeType
  labels : List String
  id : String

/-- Where an entity belongs, or why the ontology has no place for it. -/
def placement (o : Ontology) (e : Entity) : Except ValidationError Placement :=
  match o.nodeType? e.type with
  | none => .error (.unknownEntityType e.type)
  | some node =>
    match quotedNames node.labels with
    | .error error => .error error
    | .ok labels => .ok { node, labels, id := deriveIdentity e.type (some node) e.properties }

/-- The backend to ask for an entity's embedding: none if the entity has one already, or if its
type has no place for one. -/
def backendFor? (l : Loader m) (node : NodeType) (e : Entity) : Option (EmbeddingBackend m) :=
  if e.embedding.isSome || node.vectorProperty?.isNone then none else l.backend

def withEmbedding (l : Loader m) (node : NodeType) (e : Entity) : m Entity :=
  match l.backendFor? node e with
  | none => pure e
  | some backend => do
    match ← backend.embed e.embeddedText with
    | .ok (some vector) => pure { e with embedding := some vector }
    | .ok none | .error _ => pure e

def Placement.statement (p : Placement) (e : Entity) : Statement :=
  .mergeNode p.labels p.id (Statement.nodeProperties p.node e p.id)

def storedId? : List Record → Option String
  | [] => none
  | first :: _ => (Fields.get? "id" first).bind Json.string?

def Placement.outcome (p : Placement) (e : Entity) :
    Except GraphError (List Record) → Except LoadError String
  | .error error => .error (.graph error)
  | .ok records =>
    match storedId? records with
    | some id => .ok id
    | none => .error (.noResult e.type p.id)

/-- Writes an entity's node; the outcome is the stored identity. The entity comes back with the
embedding that was stored. -/
def loadEntity (l : Loader m) (e : Entity) : m (Except LoadError String × Entity) :=
  match placement l.ontology e with
  | .error error => pure (.error (.validation error), e)
  | .ok p => do
    let e ← l.withEmbedding p.node e
    let answer ← l.send (p.statement e)
    pure (p.outcome e answer, e)

/-! ## Relationships -/

/-- Whether a kind of relationship is accepted. -/
def accepts (registry : List String) (kind : String) : Bool :=
  registry.isEmpty || registry.contains kind

def edgeStatement (registry : List String) (sourceType sourceId : String) (ref : RelationshipRef) :
    Except ValidationError Statement :=
  if accepts registry ref.kind then do
    let source ← quotedName sourceType
    let target ← quotedName ref.targetType
    let kind ← quotedName ref.kind
    pure (.mergeEdge source target kind sourceId ref)
  else .error (.unknownRelationshipType ref.kind)

/-- What an answer to a relationship statement says: no record, no relationship. -/
def edgeOutcome (sourceType sourceId : String) (ref : RelationshipRef) :
    Except GraphError (List Record) → Except LoadError Unit
  | .error error => .error (.graph error)
  | .ok [] => .error (.missingEndpoint ref.kind sourceType sourceId ref.targetType ref.targetId)
  | .ok (_ :: _) => .ok ()

def loadRelationship (l : Loader m) (sourceType sourceId : String) (ref : RelationshipRef) :
    m (Except LoadError Unit) :=
  match edgeStatement l.registry sourceType sourceId ref with
  | .error error => pure (.error (.validation error))
  | .ok statement => do
    pure (edgeOutcome sourceType sourceId ref (← l.send statement))

def loadRelationships (l : Loader m) (sourceType sourceId : String) :
    List RelationshipRef → m (List (Except LoadError Unit))
  | [] => pure []
  | ref :: rest => do
    let outcome ← l.loadRelationship sourceType sourceId ref
    let outcomes ← l.loadRelationships sourceType sourceId rest
    pure (outcome :: outcomes)

/-! ## Batches -/

/-- Writes an entity's node and then, if it was written, its relationships. -/
def loadEntityWithRelationships (l : Loader m) (e : Entity) : m (Except LoadError EntityLoad) := do
  match ← l.loadEntity e with
  | (.error error, _) => pure (.error error)
  | (.ok id, _) => do
    pure (.ok { id, relationships := ← l.loadRelationships e.type id e.relationships })

def loadEach (l : Loader m) : List Entity → m (List (String × Except LoadError EntityLoad))
  | [] => pure []
  | e :: rest => do
    let outcome ← l.loadEntityWithRelationships e
    let outcomes ← l.loadEach rest
    pure ((e.type, outcome) :: outcomes)

def loadEntities (l : Loader m) (es : List Entity) : m LoadReport := do
  pure (LoadReport.ofOutcomes (← l.loadEach es))

/-! ## Batches as text -/

/-- The lines of a text that are not blank, numbered from one over all lines. -/
def entityLines (text : String) : List (Nat × String) :=
  ((Text.lines text).zipIdx 1).filterMap fun (line, n) =>
    if Text.isBlankText line then none else some (n, line)

/-- The complaint about a line that holds no entity: the line's number, and what a reader of
entities says of the line. -/
def rejection (n : Nat) (fault : String) : String := "line " ++ toString n ++ ": " ++ fault

def entitiesOf (text : String) : List Entity :=
  (entityLines text).filterMap fun (_, line) => Entity.ofText? line

/-- The complaints about a text with an entity on each line. What is wrong with a line is said in
the words of whoever reads the entities, which are no part of the library. -/
def rejectionsOf (faultOf : String → String) (text : String) : List String :=
  (entityLines text).filterMap fun (n, line) =>
    if (Entity.ofText? line).isNone then some (rejection n (faultOf line)) else none

/-- Loads the entities of a text with one on each line; lines that hold none are counted as
failed. -/
def loadLines (l : Loader m) (faultOf : String → String) (text : String) : m LoadReport := do
  let report ← l.loadEntities (entitiesOf text)
  pure ((rejectionsOf faultOf text).foldl LoadReport.recordRejected report)

/-! ## Schema -/

/-- Sends statements in order until one fails, and counts them. -/
def sendEach (l : Loader m) : List String → m (Except GraphError Nat)
  | [] => pure (.ok 0)
  | query :: rest => do
    match ← l.session.run query (.object []) with
    | .error error => pure (.error error)
    | .ok _ =>
      match ← l.sendEach rest with
      | .error error => pure (.error error)
      | .ok n => pure (.ok (n + 1))

/-- Creates the constraints and indexes of the ontology; the outcome is the number of
statements. -/
def applySchema (l : Loader m) : m (Except GraphError Nat) :=
  l.sendEach (Cypher.statements (Cypher.script l.ontology))

end Loader

end Ontograph
