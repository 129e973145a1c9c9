/-
Ontograph.LinkedData.Context — an ontology as a linked-data document.

The context gives the namespaces; the domain has one of its own and is entered
last. The graph has one entry for each node type, with its properties other
than identity, embedding and audit times, and with its query tools.
-/
import Ontograph.Json.Printer
import Ontograph.Ontology.Basic

namespace Ontograph.LinkedData

/-! ## Names -/

def schemaNamespace : String := "https://schema.org/"

def xsdNamespace : String := "http://www.w3.org/2001/XMLSchema#"

def toolNamespace : String := "https://mcp.anthropic.com/schema/"

def graphNamespace : String := "https://knowledge-graph.local/"

def publishedType : PropertyType → String
  | .standard .integer => "xsd:integer"
  | .standard .float => "xsd:decimal"
  | .standard .boolean => "xsd:boolean"
  | .standard .datetime => "xsd:dateTime"
  | .standard .date => "xsd:date"
  | .standard .vector => "schema:ItemList"
  | .standard .string | .standard .text | .other _ _ => "xsd:string"

/-- Properties that are not published. -/
def isInternal (property : String) : Bool :=
  property = identityProperty || property = embeddingProperty || auditProperties.contains property

/-! ## Entries -/

def parametersJson (tool : QueryTool) : Json :=
  Json.ofEntries (tool.parameters.entries.map fun (parameter, type) =>
    (parameter, .object [("@type", .string ("xsd:" ++ type))]))

def toolJson (tool : QueryTool) : Json :=
  .object [("mcp:name", .string tool.name), ("mcp:description", .string tool.description),
    ("mcp:cypher", .string tool.template), ("mcp:parameters", parametersJson tool)]

def toolsJson (node : NodeType) : Json := .array (node.queryTools.map toolJson)

def propertyJson (p : Property) : Json :=
  .object [("@type", .string (publishedType p.type)), ("kg:required", .bool p.required),
    ("kg:indexed", .bool p.indexed), ("kg:description", .string p.description)]

def propertiesJson (node : NodeType) : Json :=
  Json.ofEntries ((node.properties.filter (!isInternal ·.name)).map fun p =>
    (p.name, propertyJson p))

def nodeJson (node : NodeType) : Json :=
  .object [("@type", .string (node.schemaOrgType.getD "Thing")),
    ("@id", .string ("kg:" ++ node.name)), ("kg:domain", .string node.domain),
    ("kg:description", .string node.description), ("kg:properties", propertiesJson node),
    ("mcp:tools", toolsJson node)]

/-! ## The document -/

/-- The namespaces, the domain's own entered last. -/
def contextFields (domain : String) : Fields :=
  Fields.insert domain (.string ("https://" ++ domain ++ ".local/"))
    [("@vocab", .string schemaNamespace), ("xsd", .string xsdNamespace),
      ("schema", .string schemaNamespace), ("mcp", .string toolNamespace),
      ("kg", .string graphNamespace)]

def document (o : Ontology) : Json :=
  .object [("@context", .object (contextFields o.domain)),
    ("@graph", .array (o.nodeTypes.map nodeJson))]

def documentText (o : Ontology) : String := (document o).pretty

end Ontograph.LinkedData
