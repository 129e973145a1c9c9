/-
Ontograph.Extraction.Basic — entities from running text.

A completion service is asked for the entities of a text. Whatever it answers
is accepted as far as it goes: items whose type is not in the ontology are
left out, and fields that do not have the expected form count as absent. Only
a service that fails is a failure.
-/
import Ontograph.Completion.Backend
import Ontograph.Extraction.Completion
import Ontograph.Extraction.Prompt
import Ontograph.LinkedData.Context
import Ontograph.Loader.Basic

namespace Ontograph.Extraction

/-! ## Annotation -/

def toolJson (tool : QueryTool) : Json :=
  .object [("name", .string tool.name), ("description", .string tool.description),
    ("cypher", .string tool.template),
    ("parameters", .object (tool.parameters.entries.map fun (key, type) => (key, .string type)))]

/-- The linked-data annotation of an extracted entity. -/
def annotation (o : Ontology) (node : NodeType) : Json :=
  .object ([("@context", .object [("@vocab", .string LinkedData.schemaNamespace),
      ("mcp", .string LinkedData.toolNamespace), ("kg", .string LinkedData.graphNamespace)]),
    ("@type", .string (node.schemaOrgType.getD "Thing")), ("kg:entityType", .string node.name),
    ("kg:domain", .string o.domain)] ++
    if node.queryTools.isEmpty then [] else [("mcp:tools", .array (node.queryTools.map toolJson))])

/-! ## Items -/

def itemProperties (fields : Fields) : Properties :=
  match (Fields.get? "properties" fields).bind Json.object? with
  | some entries => Properties.ofFields entries
  | none => .empty

def itemRelationships (fields : Fields) : List RelationshipRef :=
  match (Fields.get? "relationships" fields).bind Json.array? with
  | some refs => refs.filterMap (fun j => RelationshipRef.ofShape? Json.depthLimit j.shape)
  | none => []

def itemConfidence (fields : Fields) : Single :=
  match (Fields.get? "confidence" fields).bind Json.number? with
  | some x => Confidence.clamp x.convert
  | none => Confidence.unknown

/-- The entity of an item, unless its type is not in the ontology. -/
def entity? (o : Ontology) (item : Json) : Option Entity := do
  let fields ← item.object?
  let node ← o.nodeType? (← (← Fields.get? "type" fields).string?)
  pure {
    type := node.name
    properties := itemProperties fields
    relationships := itemRelationships fields
    confidence := itemConfidence fields
    sourceSpan := ((Fields.get? "source_span" fields).bind Json.string?).getD ""
    domain := o.domain
    annotation := annotation o node }

def entities (o : Ontology) (completion : String) : List Entity :=
  match items? completion with
  | some items => items.filterMap (entity? o)
  | none => []

end Ontograph.Extraction

namespace Ontograph

/-! ## Extractors -/

structure Extractor (m : Type → Type) where
  ontology : Ontology
  backend : CompletionBackend m

namespace Extractor

variable {m : Type → Type} [Monad m]

def extract (x : Extractor m) (text : String) : m (Except CompletionError (List Entity)) := do
  match ← x.backend.complete (Extraction.prompt x.ontology text) with
  | .error error => pure (.error error)
  | .ok completion => pure (.ok (Extraction.entities x.ontology completion))

def ingest (x : Extractor m) (l : Loader m) (text : String) :
    m (Except CompletionError LoadReport) := do
  match ← x.extract text with
  | .error error => pure (.error error)
  | .ok [] => pure (.ok {})
  | .ok es => pure (.ok (← l.loadEntities es))

end Extractor

end Ontograph
