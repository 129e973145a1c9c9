/-
Ontograph.Ontology.Basic — ontologies, and which of them are sound.

An ontology holds the node types and relationship types of one domain in the
order of their first registration; everything that is generated follows that
order. `validate` looks for the first defect: node types come before
relationship types, and within a type its name, its properties, its tools and
its identity keys are looked at in this order.
-/
import Ontograph.Text.Blank
import Ontograph.Ontology.Definition

namespace Ontograph

/-! ## Defects -/

inductive DefinitionError where
  | emptyTypeName
  | duplicateNodeType (name : String)
  | duplicateRelationshipType (name : String)
  | unknownNodeType (name : String)
  | emptyPropertyName (owner : String)
  | duplicateProperty (owner property : String)
  | undeclaredPlaceholder (tool placeholder : String)
  | unknownIdentityKey (nodeType key : String)
  deriving DecidableEq, Repr

def DefinitionError.message : DefinitionError → String
  | emptyTypeName => "type name must not be empty"
  | duplicateNodeType name => "node type '" ++ name ++ "' is defined more than once"
  | duplicateRelationshipType name =>
    "relationship type '" ++ name ++ "' is defined more than once"
  | unknownNodeType name => "unknown node type '" ++ name ++ "'"
  | emptyPropertyName owner => "'" ++ owner ++ "' has a property with an empty name"
  | duplicateProperty owner property =>
    "'" ++ owner ++ "' declares property '" ++ property ++ "' more than once"
  | undeclaredPlaceholder tool placeholder =>
    "query tool '" ++ tool ++ "' uses placeholder '$" ++ placeholder ++ "' without declaring it"
  | unknownIdentityKey nodeType key =>
    "node type '" ++ nodeType ++ "' uses identity key '" ++ key ++
      "' which is not one of its properties"

/-! ## Ontologies -/

structure Ontology where
  domain : String
  version : String
  description : String := ""
  nodes : Registry NodeType := .empty
  relationships : Registry RelationshipType := .empty
  deriving DecidableEq

namespace Ontology

def nodeTypes (o : Ontology) : List NodeType := o.nodes.entries

def relationshipTypes (o : Ontology) : List RelationshipType := o.relationships.entries

/-- The ontology with one more node type, or with another definition in its place. -/
def registerNode (o : Ontology) (node : NodeType) : Ontology :=
  { o with nodes := o.nodes.register node }

/-- The ontology with one more relationship type, or with another definition in its place. -/
def registerRelationship (o : Ontology) (rel : RelationshipType) : Ontology :=
  { o with relationships := o.relationships.register rel }

def nodeType? (o : Ontology) (key : String) : Option NodeType := o.nodes.find? key

def relationshipType? (o : Ontology) (key : String) : Option RelationshipType :=
  o.relationships.find? key

/-- The node type of a name, or the complaint that there is none. -/
def requireNodeType (o : Ontology) (key : String) : Except DefinitionError NodeType :=
  match o.nodeType? key with
  | some node => .ok node
  | none => .error (.unknownNodeType key)

/-! ## Soundness -/

def propertyDefect? (owner : String) (seen : List String) :
    List Property → Option DefinitionError
  | [] => none
  | p :: rest =>
    if Text.isBlankText p.name then some (.emptyPropertyName owner)
    else if p.name ∈ seen then some (.duplicateProperty owner p.name)
    else propertyDefect? owner (seen ++ [p.name]) rest

def toolDefect? (tool : QueryTool) : Option DefinitionError :=
  (tool.placeholders.find? (!tool.parameters.contains ·)).map (.undeclaredPlaceholder tool.name)

/-- The first identity key that is not a property. -/
def keyDefect? (node : NodeType) : Option DefinitionError :=
  (node.identityKeys.find? fun key => (node.property? key).isNone).map
    (.unknownIdentityKey node.name)

def nodeDefect? (node : NodeType) : Option DefinitionError :=
  if Text.isBlankText node.name then some .emptyTypeName
  else
    (propertyDefect? node.name [] node.properties).or
      ((node.queryTools.findSome? toolDefect?).or (keyDefect? node))

def relationshipDefect? (rel : RelationshipType) : Option DefinitionError :=
  if Text.isBlankText rel.name then some .emptyTypeName
  else propertyDefect? rel.name [] rel.properties

def defect? (o : Ontology) : Option DefinitionError :=
  (o.nodeTypes.findSome? nodeDefect?).or (o.relationshipTypes.findSome? relationshipDefect?)

/-- Accepts an ontology without a defect, or names the first one. -/
def validate (o : Ontology) : Except DefinitionError Unit :=
  match o.defect? with
  | none => .ok ()
  | some e => .error e

end Ontology

end Ontograph
