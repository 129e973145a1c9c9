/-
Ontograph.Cypher.Schema — the constraints and indexes of an ontology.

Every property of a type gives rise to at most one constraint and at most one
index, in the order of the definitions. `constraints`, `indexes` and
`relationshipIndexes` list them as data; `script` is their text, in sections
with comments between them.
-/
import Ontograph.Text.Lowercase
import Ontograph.Text.Lines
import Ontograph.Ontology.Basic
import Ontograph.Cypher.Name

namespace Ontograph.Cypher

/-! ## Schema objects -/

inductive IndexKind where
  | unique
  | presence
  | range
  | fulltext
  | vector
  deriving DecidableEq, Repr

def IndexKind.ending : IndexKind → String
  | unique => "unique"
  | presence => "exists"
  | range => "idx"
  | fulltext => "fulltext"
  | vector => "vector"

def indexName (type property : String) (kind : IndexKind) : String :=
  Text.lower type ++ "_" ++ property ++ "_" ++ kind.ending

/-- The number of components of an embedding vector, for the index and by default. -/
def vectorDimensions : Nat := 384

/-- A constraint or index on a property of a node type or, for a range index, of a relationship
type. -/
structure SchemaObject where
  onRelationship : Bool := false
  type : String
  property : String
  kind : IndexKind
  deriving DecidableEq, Repr

namespace SchemaObject

def name (s : SchemaObject) : String := indexName s.type s.property s.kind

def opening : IndexKind → String
  | .unique | .presence => "CREATE CONSTRAINT "
  | .range => "CREATE INDEX "
  | .fulltext => "CREATE FULLTEXT INDEX "
  | .vector => "CREATE VECTOR INDEX "

def target (property : String) : IndexKind → String
  | .unique => "REQUIRE n." ++ property ++ " IS UNIQUE"
  | .presence => "REQUIRE n." ++ property ++ " IS NOT NULL"
  | .range => "ON (n." ++ property ++ ")"
  | .fulltext => "ON EACH [n." ++ property ++ "]"
  | .vector =>
    "ON (n." ++ property ++ ") OPTIONS \x7bindexConfig: \x7b`vector.dimensions`: " ++
      toString vectorDimensions ++ ", `vector.similarity_function`: 'cosine'\x7d\x7d"

/-- The statement that creates an object unless it is there already. -/
def statement (s : SchemaObject) : String :=
  opening s.kind ++ nameText s.name ++ " IF NOT EXISTS FOR " ++
    (if s.onRelationship then
      "()-[r:" ++ nameText s.type ++ "]-() ON (r." ++ nameText s.property ++ ")"
    else "(n:" ++ nameText s.type ++ ") " ++ target (nameText s.property) s.kind)

end SchemaObject

/-! ## The objects of an ontology -/

def constraintKind? (p : Property) : Option IndexKind :=
  if p.unique then some .unique else if p.required then some .presence else none

/-- The kind of index that a property has; a unique property needs no range index. -/
def indexKind? (p : Property) : Option IndexKind :=
  if p.indexed && !p.unique then some .range
  else if p.fulltext then some .fulltext
  else if p.type.isVector then some .vector
  else none

def constraints (node : NodeType) : List SchemaObject :=
  node.properties.filterMap fun p =>
    (constraintKind? p).map fun kind => { type := node.name, property := p.name, kind }

def indexes (node : NodeType) : List SchemaObject :=
  node.properties.filterMap fun p =>
    (indexKind? p).map fun kind => { type := node.name, property := p.name, kind }

def relationshipIndexes (rel : RelationshipType) : List SchemaObject :=
  (rel.properties.filter (·.indexed)).map fun p =>
    { onRelationship := true, type := rel.name, property := p.name, kind := .range }

/-- All constraints and indexes of an ontology, in the order in which they are created. -/
def schemaObjects (o : Ontology) : List SchemaObject :=
  o.nodeTypes.flatMap constraints ++ o.nodeTypes.flatMap indexes ++
    o.relationshipTypes.flatMap relationshipIndexes

/-! ## The script -/

/-- The line above and below a section's title. -/
def rule : String :=
  "// ============================================================================"

def sectionLines (title : String) : List String := [rule, "// " ++ title, rule, ""]

def fileHeader (what : String) (o : Ontology) : List String :=
  ["// Auto-generated " ++ what ++ " from ontology",
    "// DO NOT EDIT - regenerate with `corpus generate`",
    "// Ontology: " ++ o.domain ++ " v" ++ o.version, ""]

def objectLines (objects : List SchemaObject) : List String :=
  objects.map fun s => s.statement ++ ";"

def nodeLines (what : String) (objects : NodeType → List SchemaObject) (node : NodeType) :
    List String :=
  ("// " ++ node.name ++ " " ++ what) :: objectLines (objects node) ++ [""]

def scriptLines (o : Ontology) : List String :=
  fileHeader "Neo4j schema" o ++
    (sectionLines "Constraints" ++ o.nodeTypes.flatMap (nodeLines "constraints" constraints)) ++
    (sectionLines "Indexes" ++ o.nodeTypes.flatMap (nodeLines "indexes" indexes)) ++
    (sectionLines "Relationship Indexes" ++
      o.relationshipTypes.flatMap fun rel => objectLines (relationshipIndexes rel))

def script (o : Ontology) : String := Text.joinLines (scriptLines o)

end Ontograph.Cypher
