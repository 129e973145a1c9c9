/-
Ontograph.Proofs.LinkedData.Graph — what the linked-data document of an
ontology publishes, read back from it.

`published?` takes a document apart by the keys of its vocabulary alone: the
entries of the graph, of each entry the properties with their types, and the
tools with their parameters. An object holds one value for each key, so that
two properties of one name would be one entry; an accepted ontology has none,
and the document publishes every node type in order, with all of its properties
but the internal ones and with all of its tools (`published?_document`).
-/
import Ontograph.LinkedData.Context
import Ontograph.Proofs.Json.Record
import Ontograph.Proofs.Ontology.Basic

namespace Ontograph.LinkedData

/-! ## Reading -/

/-- A published tool. -/
structure ToolEntry where
  name : String
  description : String
  template : String
  parameters : List (String × String)
  deriving DecidableEq, Repr

/-- A published node type. -/
structure NodeEntry where
  id : String
  properties : List (String × String)
  tools : List ToolEntry
  deriving DecidableEq, Repr

def typed? (field : String × Json) : Option (String × String) :=
  ((field.2.field? "@type").bind Json.string?).map (field.1, ·)

def typedFields? (value : Json) : Option (List (String × String)) :=
  value.object?.bind (·.mapM typed?)

def readTool? (value : Json) : Option ToolEntry := do
  let name ← (value.field? "mcp:name").bind Json.string?
  let description ← (value.field? "mcp:description").bind Json.string?
  let template ← (value.field? "mcp:cypher").bind Json.string?
  let parameters ← (value.field? "mcp:parameters").bind typedFields?
  some { name, description, template, parameters }

def readNode? (value : Json) : Option NodeEntry := do
  let id ← (value.field? "@id").bind Json.string?
  let properties ← (value.field? "kg:properties").bind typedFields?
  let items ← (value.field? "mcp:tools").bind Json.array?
  let tools ← items.mapM readTool?
  some { id, properties, tools }

def published? (document : Json) : Option (List NodeEntry) :=
  ((document.field? "@graph").bind Json.array?).bind (·.mapM readNode?)

/-! ## Intended entries -/

def internalNames : List String := ["id", "embedding", "created_at", "updated_at"]

def ToolEntry.of (tool : QueryTool) : ToolEntry where
  name := tool.name
  description := tool.description
  template := tool.template
  parameters := tool.parameters.entries.map fun (parameter, type) => (parameter, "xsd:" ++ type)

def NodeEntry.of (node : NodeType) : NodeEntry where
  id := "kg:" ++ node.name
  properties := (node.properties.filter (·.name ∉ internalNames)).map fun p =>
    (p.name, publishedType p.type)
  tools := node.queryTools.map ToolEntry.of

theorem isInternal_eq (name : String) : isInternal name = decide (name ∈ internalNames) := by
  have hlist : internalNames = identityProperty :: embeddingProperty :: auditProperties := rfl
  rw [Bool.eq_iff_iff, hlist]
  simp [isInternal, or_assoc]

/-! ## What is published -/

/-- An object of distinct keys has its entries as they were given. -/
theorem typedFields?_ofEntries {α : Type} {things : List α} {field : α → String × Json}
    {f : α → String × String} (hkeys : (things.map fun a => (field a).1).Nodup)
    (h : ∀ a ∈ things, typed? (field a) = some (f a)) :
    typedFields? (Json.ofEntries (things.map field)) = some (things.map f) := by
  have hnodup : (Fields.keys (things.map field)).Nodup := by
    rw [Fields.keys, List.map_map]
    exact hkeys
  rw [Json.ofEntries, Fields.ofList_of_nodup hnodup]
  exact Json.mapM_map_eq_map h

/-- A published tool is read as it was. -/
theorem readTool?_toolJson (tool : QueryTool) :
    readTool? (toolJson tool) = some (ToolEntry.of tool) := by
  have hparameters : typedFields? (parametersJson tool) =
      some (tool.parameters.entries.map fun (parameter, type) => (parameter, "xsd:" ++ type)) :=
    typedFields?_ofEntries tool.parameters.distinct fun _ _ => rfl
  have hname : ((toolJson tool).field? "mcp:name").bind Json.string? = some tool.name := rfl
  have hdescription : ((toolJson tool).field? "mcp:description").bind Json.string? =
      some tool.description := rfl
  have htemplate : ((toolJson tool).field? "mcp:cypher").bind Json.string? = some tool.template :=
    rfl
  have hfield : (toolJson tool).field? "mcp:parameters" = some (parametersJson tool) := rfl
  simp only [readTool?, hname, hdescription, htemplate, hfield, hparameters, Option.bind_eq_bind,
    Option.bind_some, ToolEntry.of]

theorem typedFields?_propertiesJson {node : NodeType}
    (h : (node.properties.map Property.name).Nodup) :
    typedFields? (propertiesJson node) = some (NodeEntry.of node).properties := by
  have hpublished : node.properties.filter (!isInternal ·.name) =
      node.properties.filter (·.name ∉ internalNames) := by
    simp only [isInternal_eq, decide_not]
  have hnodup : ((node.properties.filter (·.name ∉ internalNames)).map Property.name).Nodup :=
    h.sublist (List.filter_sublist.map _)
  rw [propertiesJson, hpublished]
  exact typedFields?_ofEntries hnodup fun _ _ => rfl

/-- A published node type is read as it was. -/
theorem readNode?_nodeJson {node : NodeType} (h : (node.properties.map Property.name).Nodup) :
    readNode? (nodeJson node) = some (NodeEntry.of node) := by
  have hproperties := typedFields?_propertiesJson h
  have htools : (node.queryTools.map toolJson).mapM readTool? =
      some (node.queryTools.map ToolEntry.of) :=
    Json.mapM_map_eq_map fun tool _ => readTool?_toolJson tool
  have hid : ((nodeJson node).field? "@id").bind Json.string? = some ("kg:" ++ node.name) := rfl
  have hfield : (nodeJson node).field? "kg:properties" = some (propertiesJson node) := rfl
  have hitems : ((nodeJson node).field? "mcp:tools").bind Json.array? =
      some (node.queryTools.map toolJson) := rfl
  simp only [readNode?, hid, hfield, hitems, hproperties, htools, Option.bind_eq_bind,
    Option.bind_some, NodeEntry.of]

/-- The document of an accepted ontology publishes its node types. -/
theorem published?_document {o : Ontology} (h : o.validate = .ok ()) :
    published? (document o) = some (o.nodeTypes.map NodeEntry.of) :=
  Json.mapM_map_eq_map fun _ hnode =>
    readNode?_nodeJson (Ontology.properties_nodup_of_validate h hnode)

end Ontograph.LinkedData
