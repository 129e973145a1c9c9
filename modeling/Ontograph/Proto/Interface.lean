/-
Ontograph.Proto.Interface — the query service of an ontology in proto3.

The service and its messages are the same for every ontology; each node type
adds one message, with one field for each property, numbered in the order of
the definitions. Names become identifiers by replacing what an identifier may
not hold, and names that would then coincide get a number.
-/
import Ontograph.Text.Lowercase
import Ontograph.Cypher.Schema

namespace Ontograph.Proto

/-! ## Identifiers -/

def isIdentifierChar (c : Char) : Bool := c.isAlphanum || c = '_'

/-- The characters of an identifier in place of those of a name: it begins with a letter. -/
def identifierOf (cs : List Char) : List Char :=
  let kept := cs.map fun c => if isIdentifierChar c then c else '_'
  match kept with
  | [] => ['f', '_']
  | c :: _ => if c.isAlpha then kept else 'f' :: '_' :: kept

def identifier (s : String) : String := String.ofList (identifierOf s.toList)

def packageName (domain : String) : String := "corpus." ++ identifier (Text.lower domain)

def genericMessages : List String :=
  ["Empty", "Tool", "ToolList", "SchemaRequest", "JsonLdSchema", "QueryRequest", "QueryResult",
    "SearchRequest", "EntityRequest", "FilterRequest", "EntityList", "Entity"]

/-- The message of a node type, which stays clear of the service's own. -/
def messageName (type : String) : String :=
  let base := identifier type
  if base ∈ genericMessages then base ++ "Node" else base

def wireType : PropertyType → String
  | .standard .integer => "int64"
  | .standard .float => "double"
  | .standard .boolean => "bool"
  | .standard .vector => "repeated float"
  | _ => "string"

/-! ## Fields -/

def numbered (base : String) (n : Nat) : String := base ++ "_" ++ toString n

/-- The identifier itself, or with the least number from two on that makes it new. Among one more
number than there are names in use, one is free. -/
def freshName (used : List String) (base : String) : String :=
  if base ∈ used then
    (((List.range (used.length + 1)).map fun n => numbered base (n + 2)).find? (· ∉ used)).getD base
  else base

def fieldNames (used : List String) : List Property → List String
  | [] => []
  | p :: rest =>
    let field := freshName used (identifier p.name)
    field :: fieldNames (used ++ [field]) rest

def trailingComment (text : String) : String := if text.isEmpty then "" else "  // " ++ text

def fieldLines (n : Nat) : List (Property × String) → List String
  | [] => []
  | (p, field) :: rest =>
    ("  " ++ wireType p.type ++ " " ++ field ++ " = " ++ toString n ++ ";" ++
      trailingComment p.description) :: fieldLines (n + 1) rest

def messageLines (node : NodeType) : List String :=
  (if node.description.isEmpty then [] else ["// " ++ node.description]) ++
    ("message " ++ messageName node.name ++ " \x7b") ::
      fieldLines 1 (node.properties.zip (fieldNames [] node.properties)) ++ ["\x7d"]

/-! ## The file -/

def serviceLines : List String := [
  "service KnowledgeGraph \x7b",
  "  // Discover available query tools from all domains",
  "  rpc DiscoverTools(Empty) returns (ToolList);",
  "",
  "  // Get the JSON-LD schema for an entity type",
  "  rpc GetSchema(SchemaRequest) returns (JsonLdSchema);",
  "",
  "  // Execute a registered Cypher query template",
  "  rpc ExecuteQuery(QueryRequest) returns (QueryResult);",
  "",
  "  // Semantic search using embeddings",
  "  rpc SemanticSearch(SearchRequest) returns (EntityList);",
  "",
  "  // Get an entity by id",
  "  rpc GetEntity(EntityRequest) returns (Entity);",
  "",
  "  // Stream entities matching a filter",
  "  rpc StreamEntities(FilterRequest) returns (stream Entity);",
  "\x7d"]

def genericLines : List String := [
  "message Empty \x7b\x7d",
  "",
  "message Tool \x7b",
  "  string name = 1;",
  "  string description = 2;",
  "  string cypher_template = 3;",
  "  map<string, string> parameters = 4;",
  "  string domain = 5;",
  "  string entity_type = 6;",
  "\x7d",
  "",
  "message ToolList \x7b",
  "  repeated Tool tools = 1;",
  "\x7d",
  "",
  "message SchemaRequest \x7b",
  "  string entity_type = 1;",
  "\x7d",
  "",
  "message JsonLdSchema \x7b",
  "  string entity_type = 1;",
  "  string context = 2;  // JSON-LD @context as a JSON string",
  "  string schema = 3;   // Full schema as a JSON string",
  "\x7d",
  "",
  "message QueryRequest \x7b",
  "  string tool_name = 1;",
  "  map<string, string> parameters = 2;",
  "\x7d",
  "",
  "message QueryResult \x7b",
  "  bool success = 1;",
  "  string data = 2;  // JSON serialized rows",
  "  string error = 3;",
  "  int64 count = 4;",
  "\x7d",
  "",
  "message SearchRequest \x7b",
  "  string query = 1;",
  "  int32 limit = 2;",
  "  string entity_type = 3;  // Optional type filter",
  "  string domain = 4;       // Optional domain filter",
  "\x7d",
  "",
  "message EntityRequest \x7b",
  "  string id = 1;",
  "  string entity_type = 2;",
  "\x7d",
  "",
  "message FilterRequest \x7b",
  "  string entity_type = 1;",
  "  map<string, string> filters = 2;",
  "  int32 limit = 3;",
  "  int32 offset = 4;",
  "\x7d",
  "",
  "message EntityList \x7b",
  "  repeated Entity entities = 1;",
  "  int64 total_count = 2;",
  "\x7d",
  "",
  "message Entity \x7b",
  "  string id = 1;",
  "  string entity_type = 2;",
  "  string domain = 3;",
  "  map<string, string> properties = 4;",
  "  string json_data = 5;            // Full entity as JSON",
  "  repeated float embedding = 6;",
  "\x7d"]

def interfaceLines (o : Ontology) : List String :=
  Cypher.fileHeader "gRPC proto" o ++
    ["syntax = \"proto3\";", "", "package " ++ packageName o.domain ++ ";", ""] ++
    (Cypher.sectionLines "Service Definition" ++ serviceLines ++ [""]) ++
    (Cypher.sectionLines "Common Messages" ++ genericLines ++ [""]) ++
    (Cypher.sectionLines "Entity Messages (generated from ontology)" ++
      o.nodeTypes.flatMap fun node => messageLines node ++ [""])

def interface (o : Ontology) : String := Text.joinLines (interfaceLines o)

end Ontograph.Proto
