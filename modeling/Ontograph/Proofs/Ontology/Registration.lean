/-
Ontograph.Proofs.Ontology.Registration — what a sequence of registrations leaves.

Node types and relationship types are registered in any order, and a name may
be registered again. Each of the two registries only ever sees the calls of its
own kind (`enterAll_eq`), and of these it keeps one definition for each name:
in the place of the first, with the contents of the last (`Keeps`). So nothing
that is generated can tell a sequence from the sequence that it settles to, in
which no name is registered twice (`registrations_settle`).
-/
import Mathlib.Data.Finset.Card
import Ontograph.Artifacts
import Ontograph.Proofs.Registry

namespace Ontograph

/-- A call that registers a definition. -/
inductive Registration where
  | node (definition : NodeType)
  | relationship (definition : RelationshipType)
  deriving DecidableEq

namespace Registration

def node? : Registration → Option NodeType
  | node definition => some definition
  | relationship _ => none

def relationship? : Registration → Option RelationshipType
  | node _ => none
  | relationship definition => some definition

def key : Registration → String ⊕ String
  | node definition => .inl definition.name
  | relationship definition => .inr definition.name

def definedNodes (calls : List Registration) : List NodeType := calls.filterMap node?

def definedRelationships (calls : List Registration) : List RelationshipType :=
  calls.filterMap relationship?

theorem definedNodes_map_node (definitions : List NodeType) :
    definedNodes (definitions.map node) = definitions := by
  rw [definedNodes, List.filterMap_map]
  exact List.filterMap_some

theorem definedRelationships_map_relationship (definitions : List RelationshipType) :
    definedRelationships (definitions.map relationship) = definitions := by
  rw [definedRelationships, List.filterMap_map]
  exact List.filterMap_some

/-- Settling all calls settles the node types among them. -/
theorem definedNodes_settled (calls : List Registration) :
    definedNodes (settled key calls) = settled name (definedNodes calls) := by
  refine filterMap_settled Sum.getLeft? ?_ ?_ calls
  · rintro (k | k) (k' | k') m h h' <;> cases h <;> cases h'
    rfl
  · rintro (definition | definition) <;> rfl

theorem definedRelationships_settled (calls : List Registration) :
    definedRelationships (settled key calls) = settled name (definedRelationships calls) := by
  refine filterMap_settled Sum.getRight? ?_ ?_ calls
  · rintro (k | k) (k' | k') m h h' <;> cases h <;> cases h'
    rfl
  · rintro (definition | definition) <;> rfl

end Registration

/-! ## Sequences of calls -/

namespace Ontology

open Registration (definedNodes definedRelationships)

def enter (o : Ontology) : Registration → Ontology
  | .node definition => o.registerNode definition
  | .relationship definition => o.registerRelationship definition

def enterAll (o : Ontology) (calls : List Registration) : Ontology := calls.foldl enter o

def bare (domain version description : String) : Ontology := { domain, version, description }

/-- Each registry sees the calls of its own kind, and nothing else changes. -/
theorem enterAll_eq (o : Ontology) (calls : List Registration) :
    o.enterAll calls = { o with
      nodes := (definedNodes calls).foldl Registry.register o.nodes
      relationships := (definedRelationships calls).foldl Registry.register o.relationships } := by
  induction calls generalizing o with
  | nil => rfl
  | cons call rest ih =>
    rw [enterAll, List.foldl_cons]
    refine (ih (o.enter call)).trans ?_
    cases call <;> rfl

/-- The node types of an ontology are those that were registered, in order. -/
theorem nodes_enterAll_bare (domain version description : String) (calls : List Registration) :
    ((bare domain version description).enterAll calls).nodes = .ofList (definedNodes calls) := by
  rw [enterAll_eq]
  rfl

theorem relationships_enterAll_bare (domain version description : String)
    (calls : List Registration) :
    ((bare domain version description).enterAll calls).relationships =
      .ofList (definedRelationships calls) := by
  rw [enterAll_eq]
  rfl

/-- Calls that were overruled leave no trace. -/
theorem enterAll_settled (domain version description : String) (calls : List Registration) :
    (bare domain version description).enterAll (settled Registration.key calls) =
      (bare domain version description).enterAll calls := by
  rw [enterAll_eq, enterAll_eq, Registration.definedNodes_settled,
    Registration.definedRelationships_settled]
  have hnodes := Registry.ofList_settled (definedNodes calls)
  have hrelationships := Registry.ofList_settled (definedRelationships calls)
  exact congrArg₂ (fun ns rs => { bare domain version description with
    nodes := ns, relationships := rs }) hnodes hrelationships

end Ontology

/-! ## What is kept -/

/-- A registry keeps of some things one for each name: in the place of the first of this name, with
the contents of the last. -/
structure Registry.Keeps {α : Type} [Named α] (r : Registry α) (things : List α) : Prop where
  names : r.names = firstKeys name things
  once : r.names.Nodup
  find? : ∀ key, r.find? key = lastWith? name key things
  missing : ∀ key, r.find? key = none ↔ ∀ a ∈ things, name a ≠ key
  entries : r.entries = settled name things
  size : r.size = (things.map name).toFinset.card

/-- A list of things is kept once registered. -/
theorem Registry.keeps_ofList {α : Type} [Named α] (things : List α) :
    (ofList things).Keeps things where
  names := names_ofList things
  once := (ofList things).distinct
  find? := find?_ofList things
  missing key := by rw [find?_ofList, lastWith?_eq_none_iff]
  entries := entries_ofList_eq things
  size := by
    have hsame : (things.map name).toFinset = (ofList things).names.toFinset := by
      ext key
      rw [names_ofList, List.mem_toFinset, List.mem_toFinset, firstKeys, List.mem_eraseDups]
    rw [hsame, names, List.toFinset_card_of_nodup (ofList things).distinct, List.length_map, size]

namespace Ontology

open Registration (definedNodes definedRelationships)

example :
    let bill (description : String) : NodeType := { name := "Bill", description }
    let member : NodeType := { name := "Member" }
    let sponsors (target : String) : RelationshipType :=
      { name := "Bill", source := "Member", target }
    settled Registration.key [.node (bill "1"), .relationship (sponsors "x"), .node member,
        .node (bill "2"), .relationship (sponsors "Bill")] =
      [.node (bill "2"), .relationship (sponsors "Bill"), .node member] := by
  decide

end Ontology

end Ontograph
