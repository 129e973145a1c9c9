/-
Ontograph.Loader.Statement — the statements that write and search the graph.

Each statement is a fixed text around quoted names: node labels, relationship
types, nothing else. Identities and property values only ever travel as
parameters. A name that is blank or holds the quote itself cannot be quoted
and is refused.
-/
import Ontograph.Text.Blank
import Ontograph.Cypher.Schema
import Ontograph.Entity.Basic
import Ontograph.Loader.Error

namespace Ontograph

structure Statement where
  query : String
  params : Fields

/-! ## Quoted names -/

/-- The character that names are quoted with. -/
def labelQuote : Char := '\x60'

def isQuotable (name : String) : Bool :=
  !Text.isBlankText name && !name.toList.contains labelQuote

def quoted (name : String) : String := labelQuote.toString ++ name ++ labelQuote.toString

def quotedName (name : String) : Except ValidationError String :=
  if isQuotable name then .ok (quoted name) else .error (.invalidLabel name)

/-- Names between quotes, or the complaint about the first that cannot be quoted. -/
def quotedNames : List String → Except ValidationError (List String)
  | [] => .ok []
  | name :: rest =>
    match quotedName name with
    | .error e => .error e
    | .ok text =>
      match quotedNames rest with
      | .error e => .error e
      | .ok texts => .ok (text :: texts)

namespace Statement

/-! ## Nodes -/

def mergeNodeText (labels : List String) : String :=
  "MERGE (n:" ++ ":".intercalate labels ++
    " \x7bid: $id\x7d) SET n += $props RETURN n.id AS id"

def mergeNode (labels : List String) (id : String) (properties : Fields) : Statement where
  query := mergeNodeText labels
  params := [("id", .string id), ("props", .object properties)]

/-- The properties that are stored with an entity's node. The embedding goes under the type's
vector property, and the identity is entered last. -/
def nodeProperties (node : NodeType) (e : Entity) (id : String) : Fields :=
  let described := e.graphProperties
  let embedded :=
    match e.embedding, node.vectorProperty? with
    | some vector, some p => Fields.insert p.name (PropertyValue.vectorJson vector) described
    | _, _ => described
  Fields.insert identityProperty (.string id) embedded

/-! ## Relationships -/

def mergeEdgeText (source target kind : String) : String :=
  "MATCH (a:" ++ source ++ " \x7bid: $from_id\x7d) MATCH (b:" ++ target ++
    " \x7bid: $to_id\x7d) MERGE (a)-[r:" ++ kind ++ "]->(b) SET r += $props RETURN type(r) AS type"

def mergeEdge (source target kind : String) (sourceId : String) (ref : RelationshipRef) :
    Statement where
  query := mergeEdgeText source target kind
  params := [("from_id", .string sourceId), ("to_id", .string ref.targetId),
    ("props", .object ref.properties.toFields)]

/-! ## Search -/

def searchText (label : String) : String :=
  "CALL db.index.vector.queryNodes($index_name, $limit, $embedding) YIELD node, score WHERE node:" ++
    label ++ " RETURN node.id AS id, node.domain AS domain, score, properties(node) AS properties"

def search (label indexName : String) (limit : Nat) (vector : Embedding) : Statement where
  query := searchText label
  params := [("index_name", .string indexName), ("limit", .int limit),
    ("embedding", PropertyValue.vectorJson vector)]

end Statement

end Ontograph
