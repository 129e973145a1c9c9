/-
Ontograph.Proofs.Loader.Batch — what a batch sends.

`Visit l e events` says which events one entity of a batch leaves in the log:
none if the ontology has no place for it; otherwise the request for a vector,
if one is wanted, the node statement, and, if that was answered with an
identity, one statement for each relationship that can be sent. What an event
is answered with decides about the events of its own entity only, so a batch
is its visits one after another (`loadEntities_visits`), whatever fails.

What became of an entity can be told from its visit. `Told` says how: it was
stored if its node statement was answered with an identity (`storedIn?`), and
then each of its relationships was tried. `traces_loadEach_loads` carries this
through a batch, an outcome and a visit for each entity. What is known of each
answer that a loader can get holds of every event of a batch besides
(`Gets.loadEntities`).
-/
import Mathlib.Data.List.Forall2
import Ontograph.Proofs.Observation
import Ontograph.Proofs.Loader.Report
import Ontograph.Proofs.Loader.Statement

namespace Ontograph

/-- The entity with the vector that a backend answered, if it answered one. -/
def Entity.withAnswer (e : Entity) : Except EmbeddingError (Option Embedding) → Entity
  | .ok (some vector) => { e with embedding := some vector }
  | .ok none | .error _ => e

namespace Loader

variable {m : Type → Type} {σ : Type}

/-! ## Vectors -/

/-- A vector is wanted for an entity that has none, if its type has a place for one and there is a
backend to ask. -/
def WantsVector (l : Loader m) (node : NodeType) (e : Entity) : Prop :=
  e.embedding = none ∧ node.vectorProperty?.isSome = true ∧ l.backend.isSome = true

/-- How an entity comes to be as it is written, and the events on the way. -/
inductive Attached (l : Loader m) (node : NodeType) (e : Entity) : Entity → List Event → Prop where
  | asked (h : l.WantsVector node e) (answer : Except EmbeddingError (Option Embedding)) :
      Attached l node e (e.withAnswer answer) [.embedded e.embeddedText answer]
  | kept (h : ¬ l.WantsVector node e) : Attached l node e e []

/-- A backend is asked only for a vector that is wanted. -/
theorem backendFor?_eq_some {l : Loader m} {node : NodeType} {e : Entity}
    {backend : EmbeddingBackend m} (h : l.backendFor? node e = some backend) :
    l.WantsVector node e := by
  unfold backendFor? at h
  split at h
  · cases h
  · rename_i hcond
    rw [Bool.not_eq_true, Bool.or_eq_false_iff] at hcond
    exact ⟨by simpa using hcond.1, by simpa using hcond.2, by simp [h]⟩

theorem not_wantsVector_of_backendFor? {l : Loader m} {node : NodeType} {e : Entity}
    (h : l.backendFor? node e = none) : ¬ l.WantsVector node e := by
  rintro ⟨hnone, hplace, hbackend⟩
  simp only [backendFor?, hnone, Option.isSome_none, Option.isNone_eq_false_iff.mpr hplace,
    Bool.or_self, Bool.false_eq_true, if_false] at h
  simp [h] at hbackend

theorem backendFor?_observed [Monad m] (l : Loader m) (node : NodeType) (e : Entity) :
    l.observed.backendFor? node e = (l.backendFor? node e).map EmbeddingBackend.observed := by
  unfold backendFor?
  split <;> rfl

/-- An entity is attached its vector, if one is wanted and answered. -/
theorem traces_withEmbedding (l : Loader (StateM σ)) (node : NodeType) (e : Entity) :
    Traces (l.observed.withEmbedding node e) (Attached l node e) := by
  unfold withEmbedding
  rw [backendFor?_observed]
  cases h : l.backendFor? node e with
  | none => exact Traces.pure (.kept (not_wantsVector_of_backendFor? h))
  | some backend =>
    refine Traces.bind (traces_embed backend e.embeddedText) ?_
    rintro answer _ rfl
    have hasked := Attached.asked (backendFor?_eq_some h) answer
    match answer with
    | .ok (some vector) => exact Traces.pure hasked
    | .ok none => exact Traces.pure hasked
    | .error error => exact Traces.pure hasked

/-- A vector is all that an entity is given before it is written. -/
theorem Attached.identity {l : Loader m} {node : NodeType} {e e' : Entity} {events : List Event}
    (h : Attached l node e e' events) : e'.type = e.type ∧ e'.properties = e.properties := by
  cases h with
  | kept => exact ⟨rfl, rfl⟩
  | asked _ answer => rcases answer with _ | _ | _ <;> exact ⟨rfl, rfl⟩

/-! ## Nodes -/

/-- The identity that an answer names: the text under `id` in its first record. -/
def answeredId? : Except GraphError (List Record) → Option String
  | .ok (first :: _) =>
    match Fields.get? "id" first with
    | some (.string id) => some id
    | _ => none
  | .ok [] | .error _ => none

/-- An answer with an identity counts as stored. -/
theorem Placement.outcome_of_answeredId? (p : Placement) (e : Entity)
    {answer : Except GraphError (List Record)} {id : String} (h : answeredId? answer = some id) :
    p.outcome e answer = .ok id := by
  unfold answeredId? at h
  split at h
  · split at h
    · rename_i hget
      cases h
      simp [outcome, storedId?, hget, Json.string?]
    · cases h
  · cases h
  · cases h

theorem Placement.outcome_of_not_answeredId? (p : Placement) (e : Entity)
    {answer : Except GraphError (List Record)} (h : answeredId? answer = none) :
    ∃ error, p.outcome e answer = .error error := by
  match answer with
  | .error error => exact ⟨_, rfl⟩
  | .ok [] => exact ⟨_, rfl⟩
  | .ok (first :: rest) =>
    have hstored : storedId? (first :: rest) = none := by
      simp only [storedId?, answeredId?] at h ⊢
      cases hget : Fields.get? "id" first with
      | none => rfl
      | some j => cases j <;> simp_all [Json.string?]
    exact ⟨.noResult e.type p.id, by simp only [outcome, hstored]⟩

/-- What is sent for an entity's node: nothing without a place for it, and else the request for its
vector and one statement. -/
inductive NodeVisit (l : Loader m) (e : Entity) :
    Except LoadError String × Entity → List Event → Prop where
  | refused (h : ∀ node, ¬ Placed l.ontology e node) (error : ValidationError) :
      NodeVisit l e (.error (.validation error), e) []
  | answered {node : NodeType} {e' : Entity} {asked : List Event}
      (h : Placed l.ontology e node) (hvector : Attached l node e e' asked)
      (answer : Except GraphError (List Record)) :
      NodeVisit l e ((Placement.of node e).outcome e' answer, e')
        (asked ++ [(nodeStatement node e').event answer])

theorem traces_loadEntity (l : Loader (StateM σ)) (e : Entity) :
    Traces (l.observed.loadEntity e) (NodeVisit l e) := by
  unfold loadEntity
  by_cases hplaced : ∃ node, Placed l.ontology e node
  · obtain ⟨node, hplaced⟩ := hplaced
    rw [show l.observed.ontology = l.ontology from rfl, placement_of_placed hplaced]
    refine Traces.bind (traces_withEmbedding l node e) fun e' asked hvector => ?_
    refine Traces.bind (traces_send l _) ?_
    rintro answer _ rfl
    refine Traces.pure ?_
    rw [Placement.statement_of node hvector.identity, List.append_nil]
    exact .answered hplaced hvector answer
  · have hrefused : ∀ node, ¬ Placed l.ontology e node := fun node h => hplaced ⟨node, h⟩
    obtain ⟨error, herror⟩ := placement_of_not_placed hrefused
    rw [show l.observed.ontology = l.ontology from rfl, herror]
    exact Traces.pure (.refused hrefused _)

/-! ## Relationships -/

/-- What is sent for a relationship: one statement, if it can be sent. -/
inductive EdgeVisit (l : Loader m) (sourceType sourceId : String) (ref : RelationshipRef) :
    Except LoadError Unit → List Event → Prop where
  | refused (h : isSendable l.registry sourceType ref = false) (error : ValidationError) :
      EdgeVisit l sourceType sourceId ref (.error (.validation error)) []
  | answered (h : isSendable l.registry sourceType ref = true)
      (answer : Except GraphError (List Record)) :
      EdgeVisit l sourceType sourceId ref (edgeOutcome sourceType sourceId ref answer)
        [(edgeStatementOf sourceType sourceId ref).event answer]

/-- Loading a relationship leaves one event, or none if it cannot be sent. -/
theorem traces_loadRelationship (l : Loader (StateM σ)) (sourceType sourceId : String)
    (ref : RelationshipRef) :
    Traces (l.observed.loadRelationship sourceType sourceId ref)
      (EdgeVisit l sourceType sourceId ref) := by
  unfold loadRelationship
  rw [show l.observed.registry = l.registry from rfl]
  cases hsendable : isSendable l.registry sourceType ref with
  | false =>
    obtain ⟨error, herror⟩ := edgeStatement_of_not_sendable sourceId hsendable
    rw [herror]
    exact Traces.pure (.refused hsendable error)
  | true =>
    rw [edgeStatement_of_sendable sourceId hsendable]
    refine Traces.bind (traces_send l _) ?_
    rintro answer _ rfl
    exact Traces.pure (.answered hsendable answer)

/-- One event for each relationship that can be sent, in order, whatever the answers. -/
def EdgeVisits (l : Loader m) (sourceType sourceId : String) (refs : List RelationshipRef)
    (events : List Event) : Prop :=
  List.Forall₂
    (fun ref event => ∃ answer, event = (edgeStatementOf sourceType sourceId ref).event answer)
    (refs.filter (isSendable l.registry sourceType)) events

/-- Each relationship is tried, whatever came of those before it. -/
theorem traces_loadRelationships (l : Loader (StateM σ)) (sourceType sourceId : String)
    (refs : List RelationshipRef) :
    Traces (l.observed.loadRelationships sourceType sourceId refs) fun outcomes events =>
      outcomes.length = refs.length ∧ EdgeVisits l sourceType sourceId refs events := by
  induction refs with
  | nil => exact Traces.pure ⟨rfl, List.Forall₂.nil⟩
  | cons ref rest ih =>
    refine Traces.bind (traces_loadRelationship l sourceType sourceId ref) ?_
    intro outcome visit hvisit
    refine Traces.bind ih fun outcomes events ⟨hlength, hevents⟩ => Traces.pure ?_
    refine ⟨by rw [List.length_cons, List.length_cons, hlength], ?_⟩
    unfold EdgeVisits at hevents ⊢
    cases hvisit with
    | refused hno => simpa [hno] using hevents
    | answered hsendable answer =>
      rw [List.filter_cons_of_pos hsendable]
      exact .cons ⟨answer, rfl⟩ (by simpa using hevents)

/-! ## Batches -/

/-- What a batch leaves in the log for one entity. Without a place for it, nothing is sent. With
one, its node statement is sent, after a request for a vector if one is wanted; if an identity is
answered, one statement follows for each relationship that can be sent, from that identity. -/
inductive Visit (l : Loader m) (e : Entity) : List Event → Prop where
  | refused (h : ∀ node, ¬ Placed l.ontology e node) : Visit l e []
  | failed {node : NodeType} {e' : Entity} {asked : List Event} (h : Placed l.ontology e node)
      (hvector : Attached l node e e' asked) {answer : Except GraphError (List Record)}
      (hanswer : answeredId? answer = none) :
      Visit l e (asked ++ [(nodeStatement node e').event answer])
  | written {node : NodeType} {e' : Entity} {asked edges : List Event}
      (h : Placed l.ontology e node) (hvector : Attached l node e e' asked)
      {answer : Except GraphError (List Record)} {id : String}
      (hanswer : answeredId? answer = some id)
      (hedges : EdgeVisits l e.type id e.relationships edges) :
      Visit l e (asked ++ (nodeStatement node e').event answer :: edges)

/-- The identity that an entity was stored under, as its visit tells: the one that its node
statement was answered with. -/
def storedIn? : List Event → Option String
  | [] => none
  | .embedded _ _ :: rest => storedIn? rest
  | .sent _ _ answer :: _ => answeredId? answer

theorem Attached.storedIn?_append {l : Loader m} {node : NodeType} {e e' : Entity}
    {asked : List Event} (h : Attached l node e e' asked) (events : List Event) :
    storedIn? (asked ++ events) = storedIn? events := by
  cases h <;> rfl

/-- What became of an entity, as its visit tells: it was stored if its node statement was answered
with an identity, and only then its relationships were tried. -/
structure Told (l : Loader m) (e : Entity) (outcome : Except LoadError EntityLoad)
    (events : List Event) : Prop where
  visit : Visit l e events
  id : LoadReport.idOf? outcome = storedIn? events
  tried : LoadReport.triedCount outcome =
    if (storedIn? events).isSome then e.relationships.length else 0

/-- What became of an entity is what its visit tells. -/
theorem traces_loadEntityWithRelationships (l : Loader (StateM σ)) (e : Entity) :
    Traces (l.observed.loadEntityWithRelationships e) (Told l e) := by
  unfold loadEntityWithRelationships
  refine Traces.bind (traces_loadEntity l e) ?_
  intro outcome events hnode
  cases hnode with
  | refused h => exact Traces.pure ⟨.refused h, rfl, rfl⟩
  | @answered node e' asked h hvector answer =>
    have hstored (edges : List Event) :
        storedIn? (asked ++ (nodeStatement node e').event answer :: edges) =
          answeredId? answer := hvector.storedIn?_append _
    cases hanswer : answeredId? answer with
    | none =>
      -- no identity came back, so no relationship is tried
      obtain ⟨error, herror⟩ := (Placement.of node e).outcome_of_not_answeredId? e' hanswer
      rw [herror]
      refine Traces.pure ?_
      rw [List.append_nil]
      refine ⟨.failed h hvector hanswer, ?_, ?_⟩
      · rw [hstored, hanswer]
        rfl
      · rw [hstored, hanswer]
        rfl
    | some id =>
      rw [(Placement.of node e).outcome_of_answeredId? e' hanswer]
      refine Traces.bind (traces_loadRelationships l e.type id e.relationships) ?_
      intro outcomes edges ⟨hlength, hedges⟩
      refine Traces.pure ?_
      rw [List.append_nil, List.append_assoc, List.singleton_append]
      refine ⟨.written h hvector hanswer hedges, ?_, ?_⟩
      · rw [hstored, hanswer]
        rfl
      · rw [hstored, hanswer]
        exact hlength

/-- The entities of a batch, what became of each, and their visits. -/
inductive Loads (l : Loader m) :
    List Entity → List (String × Except LoadError EntityLoad) → List (List Event) → Prop where
  | nil : Loads l [] [] []
  | cons {e : Entity} {outcome : Except LoadError EntityLoad} {visit : List Event}
      {es : List Entity} {outcomes : List (String × Except LoadError EntityLoad)}
      {visits : List (List Event)} (htold : Told l e outcome visit)
      (h : Loads l es outcomes visits) :
      Loads l (e :: es) ((e.type, outcome) :: outcomes) (visit :: visits)

/-- Forgetting the outcomes leaves a visit for each entity. -/
theorem Loads.visits {l : Loader m} {es : List Entity}
    {outcomes : List (String × Except LoadError EntityLoad)} {visits : List (List Event)}
    (h : Loads l es outcomes visits) : List.Forall₂ (Visit l) es visits := by
  induction h with
  | nil => exact .nil
  | cons htold _ ih => exact .cons htold.visit ih

/-- A batch is loaded entity by entity, each with its outcome and its visit. -/
theorem traces_loadEach_loads (l : Loader (StateM σ)) (es : List Entity) :
    Traces (l.observed.loadEach es) fun outcomes events =>
      ∃ visits : List (List Event), events = visits.flatten ∧ Loads l es outcomes visits := by
  induction es with
  | nil => exact Traces.pure ⟨[], rfl, .nil⟩
  | cons e rest ih =>
    refine Traces.bind (traces_loadEntityWithRelationships l e) fun _ visit htold => ?_
    refine Traces.bind ih ?_
    rintro _ _ ⟨visits, rfl, hloads⟩
    exact Traces.pure ⟨visit :: visits, by simp, .cons htold hloads⟩

theorem traces_loadEach (l : Loader (StateM σ)) (es : List Entity) :
    Traces (l.observed.loadEach es) fun _ events =>
      ∃ visits : List (List Event), events = visits.flatten ∧ List.Forall₂ (Visit l) es visits :=
  (traces_loadEach_loads l es).mono fun _ _ ⟨visits, hevents, hloads⟩ =>
    ⟨visits, hevents, hloads.visits⟩

/-- **What a batch sends.** For every ontology, registry, backend and session, a batch leaves in
the log the visits of its entities, in order and one for each, and nothing else. -/
theorem loadEntities_visits (l : Loader (StateM σ)) (es : List Entity) :
    Traces (l.observed.loadEntities es) fun _ events =>
      ∃ visits : List (List Event), events = visits.flatten ∧ List.Forall₂ (Visit l) es visits := by
  refine Traces.bind (traces_loadEach l es) fun _ events h => Traces.pure ?_
  rwa [List.append_nil]

/-! ## Kinds of events -/

/-- A loader gets answers of a kind only, whatever it asks for. -/
structure Gets (l : Loader (StateM σ)) (kind : Event → Prop) : Prop where
  sent : ∀ query params answer, kind (.sent query params answer)
  embedded : ∀ backend, l.backend = some backend → ∀ text,
    LogsOnly (backend.observed.embed text) kind

namespace Gets

variable {l : Loader (StateM σ)} {kind : Event → Prop}

theorem send (h : l.Gets kind) (s : Statement) : LogsOnly (l.observed.send s) kind :=
  (traces_send l s).mono fun _ _ hevents event hevent => by
    rw [hevents, List.mem_singleton] at hevent
    exact hevent ▸ h.sent _ _ _

theorem withEmbedding (h : l.Gets kind) (node : NodeType) (e : Entity) :
    LogsOnly (l.observed.withEmbedding node e) kind := by
  unfold Loader.withEmbedding
  rw [backendFor?_observed]
  cases hbackend : l.backendFor? node e with
  | none => exact LogsOnly.pure e
  | some backend =>
    have hgiven : l.backend = some backend := by
      unfold backendFor? at hbackend
      split at hbackend
      · cases hbackend
      · exact hbackend
    refine (h.embedded backend hgiven e.embeddedText).bind fun answer => ?_
    match answer with
    | .ok (some vector) => exact LogsOnly.pure _
    | .ok none => exact LogsOnly.pure _
    | .error error => exact LogsOnly.pure _

theorem loadEntity (h : l.Gets kind) (e : Entity) : LogsOnly (l.observed.loadEntity e) kind := by
  unfold Loader.loadEntity
  split
  · exact LogsOnly.pure _
  · exact (h.withEmbedding _ e).bind fun _ => (h.send _).bind fun _ => LogsOnly.pure _

theorem loadRelationship (h : l.Gets kind) (sourceType sourceId : String)
    (ref : RelationshipRef) :
    LogsOnly (l.observed.loadRelationship sourceType sourceId ref) kind := by
  unfold Loader.loadRelationship
  split
  · exact LogsOnly.pure _
  · exact (h.send _).bind fun _ => LogsOnly.pure _

theorem loadRelationships (h : l.Gets kind) (sourceType sourceId : String)
    (refs : List RelationshipRef) :
    LogsOnly (l.observed.loadRelationships sourceType sourceId refs) kind := by
  induction refs with
  | nil => exact LogsOnly.pure []
  | cons ref rest ih =>
    exact (h.loadRelationship sourceType sourceId ref).bind fun _ =>
      ih.bind fun _ => LogsOnly.pure _

theorem loadEntityWithRelationships (h : l.Gets kind) (e : Entity) :
    LogsOnly (l.observed.loadEntityWithRelationships e) kind := by
  refine (h.loadEntity e).bind fun outcome => ?_
  match outcome with
  | (.error error, _) => exact LogsOnly.pure _
  | (.ok id, _) =>
    exact (h.loadRelationships e.type id e.relationships).bind fun _ => LogsOnly.pure _

theorem loadEach (h : l.Gets kind) (es : List Entity) : LogsOnly (l.observed.loadEach es) kind := by
  induction es with
  | nil => exact LogsOnly.pure []
  | cons e rest ih =>
    exact (h.loadEntityWithRelationships e).bind fun _ => ih.bind fun _ => LogsOnly.pure _

/-- All events of a batch are of the kind of the answers. -/
theorem loadEntities (h : l.Gets kind) (es : List Entity) :
    LogsOnly (l.observed.loadEntities es) kind :=
  (h.loadEach es).bind fun _ => LogsOnly.pure _

/-- Loading the lines of a text gets the same kinds of answers as loading its entities. -/
theorem loadLines (h : l.Gets kind) (faultOf : String → String) (text : String) :
    LogsOnly (l.observed.loadLines faultOf text) kind :=
  (h.loadEntities _).bind fun _ => LogsOnly.pure _

end Gets

end Loader

end Ontograph
