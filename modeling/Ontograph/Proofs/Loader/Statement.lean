/-
Ontograph.Proofs.Loader.Statement — which statements an entity gives rise to.

An entity has a place if its type is registered and all labels of the type can
be quoted (`Placed`), and a relationship has a statement if its kind is
accepted and its three names can be quoted (`isSendable`). The lemmas say that
the loader decides by exactly this; `nodeStatement` and `edgeStatementOf` are
the statements themselves, without the tests that come before them.
-/
import Ontograph.Loader.Basic

namespace Ontograph

/-! ## Quoted names -/

theorem quotedName_of_quotable {name : String} (h : isQuotable name = true) :
    quotedName name = .ok (quoted name) := by
  simp [quotedName, h]

theorem quotedName_of_not_quotable {name : String} (h : isQuotable name = false) :
    quotedName name = .error (.invalidLabel name) := by
  simp [quotedName, h]

theorem quotedNames_of_quotable : ∀ {names : List String},
    (∀ name ∈ names, isQuotable name = true) → quotedNames names = .ok (names.map quoted)
  | [], _ => rfl
  | name :: rest, h => by
    have hname := quotedName_of_quotable (h name (by simp))
    have hrest := quotedNames_of_quotable fun n hn => h n (List.mem_cons_of_mem _ hn)
    simp only [quotedNames, hname, hrest, List.map_cons]

theorem quotedNames_of_not_quotable : ∀ {names : List String},
    (¬ ∀ name ∈ names, isQuotable name = true) → ∃ error, quotedNames names = .error error
  | [], h => absurd (by simp) h
  | name :: rest, h => by
    cases hname : isQuotable name with
    | false =>
      exact ⟨.invalidLabel name, by simp only [quotedNames, quotedName_of_not_quotable hname]⟩
    | true =>
      have hrest : ¬ ∀ n ∈ rest, isQuotable n = true := by
        intro hall
        exact h (List.forall_mem_cons.mpr ⟨hname, hall⟩)
      obtain ⟨error, herror⟩ := quotedNames_of_not_quotable hrest
      exact ⟨error, by simp only [quotedNames, quotedName_of_quotable hname, herror]⟩

namespace Loader

/-! ## Nodes -/

/-- The ontology has a place for an entity: its type is registered, and the labels of the type can
all be quoted. -/
def Placed (o : Ontology) (e : Entity) (node : NodeType) : Prop :=
  o.nodeType? e.type = some node ∧ ∀ label ∈ node.labels, isQuotable label = true

def nodeStatement (node : NodeType) (e : Entity) : Statement :=
  let id := deriveIdentity e.type (some node) e.properties
  .mergeNode (node.labels.map quoted) id (Statement.nodeProperties node e id)

def Placement.of (node : NodeType) (e : Entity) : Placement :=
  ⟨node, node.labels.map quoted, deriveIdentity e.type (some node) e.properties⟩

/-- Whatever vector an entity is given, its statement is that of its type. -/
theorem Placement.statement_of (node : NodeType) {e e' : Entity}
    (h : e'.type = e.type ∧ e'.properties = e.properties) :
    (Placement.of node e).statement e' = nodeStatement node e' := by
  simp only [Placement.of, Placement.statement, nodeStatement, h.1, h.2]

/-- An entity that the ontology has a place for is placed there. -/
theorem placement_of_placed {o : Ontology} {e : Entity} {node : NodeType} (h : Placed o e node) :
    placement o e = .ok (.of node e) := by
  obtain ⟨hnode, hlabels⟩ := h
  simp only [placement, hnode, quotedNames_of_quotable hlabels, Placement.of]

theorem placement_of_not_placed {o : Ontology} {e : Entity} (h : ∀ node, ¬ Placed o e node) :
    ∃ error, placement o e = .error error := by
  cases hnode : o.nodeType? e.type with
  | none => exact ⟨.unknownEntityType e.type, by simp only [placement, hnode]⟩
  | some node =>
    have hlabels : ¬ ∀ label ∈ node.labels, isQuotable label = true := fun hall =>
      h node ⟨hnode, hall⟩
    obtain ⟨error, herror⟩ := quotedNames_of_not_quotable hlabels
    exact ⟨error, by simp only [placement, hnode, herror]⟩

/-! ## Relationships -/

/-- Whether a relationship of an entity has a statement: its kind is accepted, and the three names
in its text can be quoted. -/
def isSendable (registry : List String) (sourceType : String) (ref : RelationshipRef) : Bool :=
  (registry.isEmpty || registry.contains ref.kind) && isQuotable sourceType &&
    isQuotable ref.targetType && isQuotable ref.kind

def edgeStatementOf (sourceType sourceId : String) (ref : RelationshipRef) : Statement :=
  .mergeEdge (quoted sourceType) (quoted ref.targetType) (quoted ref.kind) sourceId ref

/-- A relationship that can be sent has its statement. -/
theorem edgeStatement_of_sendable {registry : List String} {sourceType : String}
    (sourceId : String) {ref : RelationshipRef} (h : isSendable registry sourceType ref = true) :
    edgeStatement registry sourceType sourceId ref =
      .ok (edgeStatementOf sourceType sourceId ref) := by
  simp only [isSendable, Bool.and_eq_true] at h
  obtain ⟨⟨⟨haccepts, hsource⟩, htarget⟩, hkind⟩ := h
  simp only [edgeStatement, accepts, haccepts, if_true, quotedName_of_quotable hsource,
    quotedName_of_quotable htarget, quotedName_of_quotable hkind]
  rfl

/-- The tests come in the order kind, source, target, kind's name; any of them refuses. -/
theorem edgeStatement_of_not_sendable {registry : List String} {sourceType : String}
    (sourceId : String) {ref : RelationshipRef} (h : isSendable registry sourceType ref = false) :
    ∃ error, edgeStatement registry sourceType sourceId ref = .error error := by
  unfold edgeStatement
  split
  case isFalse => exact ⟨_, rfl⟩
  case isTrue haccepts =>
    cases hsource : isQuotable sourceType with
    | false => exact ⟨_, by rw [quotedName_of_not_quotable hsource]; rfl⟩
    | true =>
      cases htarget : isQuotable ref.targetType with
      | false =>
        exact ⟨_, by
          rw [quotedName_of_quotable hsource, quotedName_of_not_quotable htarget]; rfl⟩
      | true =>
        have hkind : isQuotable ref.kind = false := by
          simp only [accepts] at haccepts
          simpa only [isSendable, haccepts, hsource, htarget, Bool.and_self, Bool.true_and] using h
        exact ⟨_, by
          rw [quotedName_of_quotable hsource, quotedName_of_quotable htarget,
            quotedName_of_not_quotable hkind]
          rfl⟩

end Loader

end Ontograph
