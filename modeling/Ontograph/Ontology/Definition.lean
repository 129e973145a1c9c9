/-
Ontograph.Ontology.Definition — what an ontology is made of.

A node type has properties, labels, query tools and the natural keys that tell
its entities apart; a relationship type has two endpoints and properties. The
endpoints are names only: they may belong to another ontology.
-/
import Ontograph.Registry
import Ontograph.Ontology.PropertyType
import Ontograph.Ontology.Template

namespace Ontograph

def identityProperty : String := "id"

def embeddingProperty : String := "embedding"

/-- The properties that record when an entity was written. -/
def auditProperties : List String := ["created_at", "updated_at"]

/-! ## Properties -/

structure Property where
  name : String
  type : PropertyType
  required : Bool := false
  unique : Bool := false
  indexed : Bool := false
  fulltext : Bool := false
  description : String := ""
  deriving DecidableEq

/-- The block of identity, embedding and audit properties that most node types begin with. -/
def commonProperties : List Property :=
  [{ name := identityProperty, type := .standard .string, required := true, unique := true,
     description := "Unique identifier" },
   { name := embeddingProperty, type := .standard .vector,
     description := "Semantic embedding vector for similarity search" },
   { name := "created_at", type := .standard .datetime,
     description := "When the entity was ingested" },
   { name := "updated_at", type := .standard .datetime, description := "Last update timestamp" },
   { name := "source_url", type := .standard .string, description := "Source URL" }]

/-! ## Query tools -/

/-- A query that is advertised for a node type: a template with places of the form `$name`, and
the declared parameters with the names of their types. -/
structure QueryTool where
  name : String
  description : String
  template : String
  parameters : Registry (String × String) := .empty
  deriving DecidableEq

namespace QueryTool

def placeholdersOf (template : List Char) : List String :=
  Template.placeholders (String.ofList template)

/-- The distinct placeholders of the tool's template, in the order of first occurrence. -/
def placeholders (tool : QueryTool) : List String := placeholdersOf tool.template.toList

end QueryTool

/-! ## Types -/

structure NodeType where
  name : String
  properties : List Property := []
  description : String := ""
  domain : String := "generic"
  schemaOrgType : Option String := none
  additionalLabels : List String := []
  queryTools : List QueryTool := []
  identityKeys : List String := []
  deriving DecidableEq

namespace NodeType

def property? (node : NodeType) (key : String) : Option Property :=
  node.properties.find? (·.name = key)

/-- The first property that stores vectors; an entity's embedding is written there. -/
def vectorProperty? (node : NodeType) : Option Property :=
  node.properties.find? (·.type.isVector)

/-- The labels of every node of the type, its name first. -/
def labels (node : NodeType) : List String := node.name :: node.additionalLabels

end NodeType

structure RelationshipType where
  name : String
  source : String
  target : String
  properties : List Property := []
  description : String := ""
  deriving DecidableEq

instance : Named NodeType := ⟨NodeType.name⟩
instance : Named RelationshipType := ⟨RelationshipType.name⟩

end Ontograph
