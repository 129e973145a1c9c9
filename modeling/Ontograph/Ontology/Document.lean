/-
Ontograph.Ontology.Document — ontologies as documents.

A document lists the types of an ontology; unlike registration, it may not
name a type twice. Its JSON form has one record for each definition, and the
fields that a definition can do without may be absent. `fromText` reads a
document's JSON text, checks it and builds the ontology.
-/
import Ontograph.Json.Printer
import Ontograph.Json.Record
import Ontograph.Ontology.Basic

namespace Ontograph

/-! ## Definitions as JSON -/

namespace Property

def toJson (p : Property) : Json :=
  .object [("name", .string p.name), ("type", .string p.type.name), ("required", .bool p.required),
    ("unique", .bool p.unique), ("indexed", .bool p.indexed), ("fulltext", .bool p.fulltext),
    ("description", .string p.description)]

def ofShape? (j : Json.Shape) : Option Property := do
  let r ← j.record? ["name", "type", "required", "unique", "indexed", "fulltext", "description"]
  pure {
    name := ← Json.required r "name" Json.Shape.string?
    type := PropertyType.ofName (← Json.required r "type" Json.Shape.string?)
    required := ← Json.defaulted r "required" false Json.Shape.bool?
    unique := ← Json.defaulted r "unique" false Json.Shape.bool?
    indexed := ← Json.defaulted r "indexed" false Json.Shape.bool?
    fulltext := ← Json.defaulted r "fulltext" false Json.Shape.bool?
    description := ← Json.defaulted r "description" "" Json.Shape.string? }

end Property

namespace QueryTool

def toJson (t : QueryTool) : Json :=
  .object [("name", .string t.name), ("description", .string t.description),
    ("cypher_template", .string t.template),
    ("parameters", .object (t.parameters.entries.map fun p => (p.1, .string p.2)))]

/-- The declared parameters of an object; a repeated name takes its last type. -/
def parametersOfShape? (j : Json.Shape) : Option (Registry (String × String)) := do
  let declared ← (← j.entries?).mapM fun e => do pure (e.1, ← e.2.string?)
  pure (Registry.ofList declared)

def ofShape? (j : Json.Shape) : Option QueryTool := do
  let r ← j.record? ["name", "description", "cypher_template", "parameters"]
  pure {
    name := ← Json.required r "name" Json.Shape.string?
    description := ← Json.required r "description" Json.Shape.string?
    template := ← Json.required r "cypher_template" Json.Shape.string?
    parameters := ← Json.defaulted r "parameters" .empty parametersOfShape? }

end QueryTool

namespace NodeType

def toJson (n : NodeType) : Json :=
  .object [("name", .string n.name), ("properties", .array (n.properties.map Property.toJson)),
    ("description", .string n.description), ("domain", .string n.domain),
    ("schema_org_type", (n.schemaOrgType.map Json.string).getD .null),
    ("additional_labels", Json.strings n.additionalLabels),
    ("query_tools", .array (n.queryTools.map QueryTool.toJson)),
    ("identity_keys", Json.strings n.identityKeys)]

def ofShape? (j : Json.Shape) : Option NodeType := do
  let r ← j.record? ["name", "properties", "description", "domain", "schema_org_type",
    "additional_labels", "query_tools", "identity_keys"]
  pure {
    name := ← Json.required r "name" Json.Shape.string?
    properties := ← Json.required r "properties" (Json.listOf Property.ofShape?)
    description := ← Json.defaulted r "description" "" Json.Shape.string?
    domain := ← Json.defaulted r "domain" "generic" Json.Shape.string?
    schemaOrgType := ← Json.defaulted r "schema_org_type" none (Json.nullable Json.Shape.string?)
    additionalLabels := ← Json.defaulted r "additional_labels" [] (Json.listOf Json.Shape.string?)
    queryTools := ← Json.defaulted r "query_tools" [] (Json.listOf QueryTool.ofShape?)
    identityKeys := ← Json.defaulted r "identity_keys" [] (Json.listOf Json.Shape.string?) }

end NodeType

namespace RelationshipType

def toJson (r : RelationshipType) : Json :=
  .object [("name", .string r.name), ("from_node", .string r.source),
    ("to_node", .string r.target), ("properties", .array (r.properties.map Property.toJson)),
    ("description", .string r.description)]

def ofShape? (j : Json.Shape) : Option RelationshipType := do
  let r ← j.record? ["name", "from_node", "to_node", "properties", "description"]
  pure {
    name := ← Json.required r "name" Json.Shape.string?
    source := ← Json.required r "from_node" Json.Shape.string?
    target := ← Json.required r "to_node" Json.Shape.string?
    properties := ← Json.defaulted r "properties" [] (Json.listOf Property.ofShape?)
    description := ← Json.defaulted r "description" "" Json.Shape.string? }

end RelationshipType

/-! ## Documents -/

structure OntologyDocument where
  domain : String
  version : String
  description : String
  nodeTypes : List NodeType
  relationshipTypes : List RelationshipType
  deriving DecidableEq

namespace OntologyDocument

def toJson (d : OntologyDocument) : Json :=
  .object [("domain", .string d.domain), ("version", .string d.version),
    ("description", .string d.description),
    ("node_types", .array (d.nodeTypes.map NodeType.toJson)),
    ("relationship_types", .array (d.relationshipTypes.map RelationshipType.toJson))]

def ofShape? (j : Json.Shape) : Option OntologyDocument := do
  let r ← j.record? ["domain", "version", "description", "node_types", "relationship_types"]
  pure {
    domain := ← Json.required r "domain" Json.Shape.string?
    version := ← Json.defaulted r "version" "1.0.0" Json.Shape.string?
    description := ← Json.defaulted r "description" "" Json.Shape.string?
    nodeTypes := ← Json.defaulted r "node_types" [] (Json.listOf NodeType.ofShape?)
    relationshipTypes :=
      ← Json.defaulted r "relationship_types" [] (Json.listOf RelationshipType.ofShape?) }

/-- The first name that occurs a second time. -/
def repeated? : List String → List String → Option String
  | _, [] => none
  | seen, n :: rest => if n ∈ seen then some n else repeated? (seen ++ [n]) rest

/-- The ontology of a document whose types are registered one after another, unchecked. -/
def register (d : OntologyDocument) : Ontology where
  domain := d.domain
  version := d.version
  description := d.description
  nodes := Registry.ofList d.nodeTypes
  relationships := Registry.ofList d.relationshipTypes

end OntologyDocument

namespace Ontology

def toDocument (o : Ontology) : OntologyDocument where
  domain := o.domain
  version := o.version
  description := o.description
  nodeTypes := o.nodeTypes
  relationshipTypes := o.relationshipTypes

/-- The ontology of a document, which names every type once and has no defect. -/
def ofDocument (d : OntologyDocument) : Except DefinitionError Ontology :=
  match OntologyDocument.repeated? [] (d.nodeTypes.map (·.name)) with
  | some n => .error (.duplicateNodeType n)
  | none =>
    match OntologyDocument.repeated? [] (d.relationshipTypes.map (·.name)) with
    | some n => .error (.duplicateRelationshipType n)
    | none =>
      match d.register.validate with
      | .ok () => .ok d.register
      | .error e => .error e

inductive TextError where
  | malformed
  | defective (defect : DefinitionError)
  deriving DecidableEq, Repr

def ofText (s : String) : Except TextError Ontology :=
  match (Json.read s).bind OntologyDocument.ofShape? with
  | none => .error .malformed
  | some d =>
    match ofDocument d with
    | .ok o => .ok o
    | .error e => .error (.defective e)

end Ontology

end Ontograph
