/-
Ontograph.Extraction.Prompt — what is asked of a completion.

The prompt names the node types of the ontology in their order, describes each
with its first telling properties, and says which form the answer has to have.
-/
import Ontograph.Text.Lines
import Ontograph.Ontology.Basic

namespace Ontograph.Extraction

def describedProperties : Nat := 5

/-- The properties that the prompt describes: the first few that are not common to all types. -/
def tellingProperties (node : NodeType) : List Property :=
  (node.properties.filter fun p => !(commonProperties.map (·.name)).contains p.name).take
    describedProperties

def typeDescription (node : NodeType) : String :=
  match tellingProperties node with
  | [] => node.name ++ ": " ++ node.description
  | properties =>
    Text.joinLines ([node.name ++ ":", "  Description: " ++ node.description, "  Key properties:"] ++
      properties.map fun p => "  - " ++ p.name ++ ": " ++ p.description)

def typeDescriptions (o : Ontology) : String :=
  "\n\n".intercalate (o.nodeTypes.map typeDescription)

def prompt (o : Ontology) (text : String) : String :=
  Text.joinLines
    ["You are an expert at extracting structured entities from text.",
      "",
      "Extract all entities from the following text. For each entity, identify:",
      "1. The entity type (one of: " ++ ", ".intercalate (o.nodeTypes.map (·.name)) ++ ")",
      "2. Key properties that can be extracted from the text",
      "3. Relationships to other entities mentioned",
      "",
      "Entity Type Definitions:",
      typeDescriptions o,
      "",
      "TEXT TO ANALYZE:",
      text,
      "",
      "Respond with a JSON array of extracted entities. Each entity should have:",
      "- \"type\": the entity type",
      "- \"properties\": object with extracted property values",
      "- \"relationships\": array of \x7b\"target_type\", \"target_id\", \"relationship_type\"\x7d",
      "- \"confidence\": number 0-1 indicating extraction confidence",
      "- \"source_span\": the text span this was extracted from",
      "",
      "JSON RESPONSE:"]

end Ontograph.Extraction
