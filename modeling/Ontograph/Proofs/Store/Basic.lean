/-
Ontograph.Proofs.Store.Basic — a store that merges.

The store keeps one node for each identity, with the labels of the write that
made it, and one relationship for each pair of identities and kind. What is
written to either a second time overlays its properties. A relationship is
written only if both of its ends are there with the labels that are named.

As a session it never fails. It takes a statement for what its text says: the
names are read from between the quotes, everything else from the parameters
(`read?_nodeStatement`, `read?_edgeStatementOf`).
-/
import Ontograph.Proofs.Loader.Names
import Ontograph.Proofs.Loader.Statement
import Ontograph.Proofs.Store.Table

namespace Ontograph

structure EdgeKey where
  source : String
  kind : String
  target : String
  deriving DecidableEq

/-- Nodes by identity, tagged with their labels, and relationships. -/
@[ext]
structure Store where
  nodes : Table String (List String)
  edges : Table EdgeKey Unit

/-- What a statement asks of a store: to merge a node, or a relationship between nodes of which two
labels are named. -/
inductive Merge where
  | node (w : Write String (List String))
  | edge (sourceLabel targetLabel : String) (w : Write EdgeKey Unit)

namespace Store

def has (s : Store) (id label : String) : Bool :=
  match s.nodes.tag? id with
  | some labels => labels.contains label
  | none => false

/-- Whether the ends of a relationship are there. A node needs nothing to be there. -/
def finds (s : Store) : Merge → Bool
  | .node _ => true
  | .edge sourceLabel targetLabel w =>
    s.has w.key.source sourceLabel && s.has w.key.target targetLabel

def apply (s : Store) : Merge → Store
  | .node w => { s with nodes := s.nodes.write w }
  | .edge sourceLabel targetLabel w =>
    if s.finds (.edge sourceLabel targetLabel w) then { s with edges := s.edges.write w } else s

def applyAll (s : Store) (merges : List Merge) : Store := merges.foldl apply s

/-- The record that answers a merge; there is none if an end is missing. -/
def answer (s : Store) : Merge → List Record
  | .node w => [[("id", .string w.key)]]
  | .edge sourceLabel targetLabel w =>
    if s.finds (.edge sourceLabel targetLabel w) then [[("type", .string w.key.kind)]] else []

end Store

/-! ## Statements -/

def textParam? (key : String) (params : Json) : Option String :=
  (params.field? key).bind Json.string?

def propertyParams? (params : Json) : Option Fields := (params.field? "props").bind Json.object?

def Merge.read? (query : String) (params : Json) : Option Merge :=
  if "MERGE (n:".toList.isPrefixOf query.toList then do
    pure (.node ⟨← textParam? "id" params, quotedIn query, ← propertyParams? params⟩)
  else if "MATCH (a:".toList.isPrefixOf query.toList then
    match quotedIn query with
    | [source, target, kind] => do
      pure (.edge source target
        ⟨⟨← textParam? "from_id" params, kind, ← textParam? "to_id" params⟩, (),
          ← propertyParams? params⟩)
    | _ => none
  else none

/-- The store as a session. What asks for no merge is answered with no record. -/
def Store.session : GraphSession (StateM Store) where
  run query params := do
    let s ← get
    match Merge.read? query params with
    | none => pure (.ok [])
    | some merge => do
      set (s.apply merge)
      pure (.ok (s.answer merge))

def nodeMerge (node : NodeType) (e : Entity) : Merge :=
  let id := deriveIdentity e.type (some node) e.properties
  .node ⟨id, node.labels, Statement.nodeProperties node e id⟩

def edgeMerge (sourceType sourceId : String) (ref : RelationshipRef) : Merge :=
  .edge sourceType ref.targetType
    ⟨⟨sourceId, ref.kind, ref.targetId⟩, (), ref.properties.toFields⟩

/-- The statement for a node asks a store to merge this node. -/
theorem read?_nodeStatement {node : NodeType} (e : Entity)
    (h : ∀ label ∈ node.labels, isQuotable label = true) :
    Merge.read? (Loader.nodeStatement node e).query (.object (Loader.nodeStatement node e).params) =
      some (nodeMerge node e) := by
  have hstart :
      "MERGE (n:".toList.isPrefixOf (Loader.nodeStatement node e).query.toList = true := by
    rw [List.isPrefixOf_iff_prefix]
    simp only [Loader.nodeStatement, Statement.mergeNode, Statement.mergeNodeText,
      String.toList_append, List.append_assoc]
    exact List.prefix_append _ _
  have hlabels : quotedIn (Loader.nodeStatement node e).query = node.labels :=
    quotedIn_mergeNodeText h
  rw [Merge.read?, if_pos hstart, hlabels]
  rfl

/-- The statement for a relationship asks a store to merge it, between the ends that it names. -/
theorem read?_edgeStatementOf {registry : List String} {sourceType : String} (sourceId : String)
    {ref : RelationshipRef} (h : Loader.isSendable registry sourceType ref = true) :
    Merge.read? (Loader.edgeStatementOf sourceType sourceId ref).query
        (.object (Loader.edgeStatementOf sourceType sourceId ref).params) =
      some (edgeMerge sourceType sourceId ref) := by
  simp only [Loader.isSendable, Bool.and_eq_true] at h
  obtain ⟨⟨⟨-, hsource⟩, htarget⟩, hkind⟩ := h
  have hprefix : "MATCH (a:".toList <+:
      (Loader.edgeStatementOf sourceType sourceId ref).query.toList := by
    simp only [Loader.edgeStatementOf, Statement.mergeEdge, Statement.mergeEdgeText,
      String.toList_append, List.append_assoc]
    exact List.prefix_append _ _
  have hnode : ¬ "MERGE (n:".toList.isPrefixOf
      (Loader.edgeStatementOf sourceType sourceId ref).query.toList = true := by
    obtain ⟨rest, hrest⟩ := hprefix
    rw [← hrest]
    exact Bool.false_ne_true
  have hnames : quotedIn (Loader.edgeStatementOf sourceType sourceId ref).query =
      [sourceType, ref.targetType, ref.kind] :=
    quotedIn_mergeEdgeText hsource htarget hkind
  rw [Merge.read?, if_neg hnode, if_pos (List.isPrefixOf_iff_prefix.mpr hprefix), hnames]
  rfl

end Ontograph
