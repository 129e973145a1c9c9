/-
Ontograph.Proofs.Loader.Rerun — loading a batch again.

Against a store that merges, and with a backend whose answer is a function of
the text, a loader does nothing but apply the merges of a batch to the store
(`run_loadEach`). Which merges these are depends on the batch and on the
ontology, not on the store; so loading the batch again applies the same
merges again, and what `Ontograph.Proofs.Store.Rerun` says of them holds of
loading (`loadEntities_again`). The loader reports every relationship of which
an end is not found; a report without such a line says that none was missing.
-/
import Ontograph.Proofs.Loader.Batch
import Ontograph.Proofs.Loader.Report
import Ontograph.Proofs.Store.Rerun

namespace Ontograph

/-! ## Loaders on a store -/

/-- An embedding service that answers a text always in the same way. -/
abbrev TextVectors := String → Except EmbeddingError (Option Embedding)

def EmbeddingBackend.ofFunction {m : Type → Type} [Monad m] (f : TextVectors) :
    EmbeddingBackend m where
  name := "function"
  dimensions := Cypher.vectorDimensions
  embed text := pure (f text)

/-- A loader on a store that merges, perhaps with a backend whose answer is a function. -/
def Store.loader (o : Ontology) (registry : List String) (vectors : Option TextVectors) :
    Loader (StateM Store) where
  ontology := o
  session := Store.session
  backend := vectors.map EmbeddingBackend.ofFunction
  registry := registry

namespace Loader

open LoadReport (NoneMissing NoneMissingIn)

variable (o : Ontology) (registry : List String) (vectors : Option TextVectors)

/-- On a store that merges, a statement that asks for a merge merges. -/
theorem run_send {s : Store} {st : Statement} {merge : Merge}
    (h : Merge.read? st.query (.object st.params) = some merge) :
    ((Store.loader o registry vectors).send st).run s = (.ok (s.answer merge), s.apply merge) := by
  simp only [send, Store.loader, Store.session, h]
  rfl

/-! ## Nodes -/

/-- The entity as it is written. -/
def vectored (vectors : Option TextVectors) (node : NodeType) (e : Entity) : Entity :=
  match vectors with
  | none => e
  | some f =>
    if e.embedding.isSome || node.vectorProperty?.isNone then e
    else e.withAnswer (f e.embeddedText)

theorem vectored_identity (node : NodeType) (e : Entity) :
    (vectored vectors node e).type = e.type ∧
      (vectored vectors node e).properties = e.properties := by
  unfold vectored
  split
  · exact ⟨rfl, rfl⟩
  · rename_i f
    split
    · exact ⟨rfl, rfl⟩
    · rcases f e.embeddedText with _ | _ | _ <;> exact ⟨rfl, rfl⟩

theorem run_withEmbedding (node : NodeType) (e : Entity) (s : Store) :
    ((Store.loader o registry vectors).withEmbedding node e).run s =
      (vectored vectors node e, s) := by
  cases vectors with
  | none =>
    simp only [withEmbedding, backendFor?, Store.loader, Option.map_none, ite_self]
    rfl
  | some f =>
    by_cases hkept : (e.embedding.isSome || node.vectorProperty?.isNone) = true
    · simp only [withEmbedding, backendFor?, vectored, if_pos hkept]
      rfl
    · simp only [withEmbedding, backendFor?, vectored, if_neg hkept, Store.loader,
        Option.map_some, EmbeddingBackend.ofFunction, pure_bind]
      rcases f e.embeddedText with _ | _ | _ <;> rfl

/-- A placed entity is merged, and the identity comes back that was sent. -/
theorem run_loadEntity_of_placed {e : Entity} {node : NodeType} (h : Placed o e node)
    (s : Store) :
    ((Store.loader o registry vectors).loadEntity e).run s =
      ((.ok (deriveIdentity e.type (some node) e.properties), vectored vectors node e),
        s.apply (nodeMerge node (vectored vectors node e))) := by
  have hsend := run_send o registry vectors (s := s)
    (read?_nodeStatement (vectored vectors node e) h.2)
  rw [loadEntity, show (Store.loader o registry vectors).ontology = o from rfl,
    placement_of_placed h]
  refine (run_bind_of_run (run_withEmbedding o registry vectors node e s)).trans ?_
  rw [Placement.statement_of node (vectored_identity vectors node e)]
  refine (run_bind_of_run hsend).trans ?_
  have hid : answeredId? (.ok (s.answer (nodeMerge node (vectored vectors node e)))) =
      some (deriveIdentity e.type (some node) e.properties) := by
    obtain ⟨htype, hproperties⟩ := vectored_identity vectors node e
    rw [← htype, ← hproperties]
    rfl
  rw [Placement.outcome_of_answeredId? _ _ hid]
  rfl

/-- An entity without a place leaves the store as it is. -/
theorem run_loadEntity_of_not_placed {e : Entity} (h : ∀ node, ¬ Placed o e node)
    (s : Store) :
    ∃ error, ((Store.loader o registry vectors).loadEntity e).run s =
      ((.error (.validation error), e), s) := by
  obtain ⟨error, herror⟩ := placement_of_not_placed h
  refine ⟨error, ?_⟩
  rw [loadEntity, show (Store.loader o registry vectors).ontology = o from rfl, herror]
  rfl

/-! ## Relationships -/

def edgeMerges (registry : List String) (sourceType sourceId : String)
    (refs : List RelationshipRef) : List Merge :=
  (refs.filter (isSendable registry sourceType)).map (edgeMerge sourceType sourceId)

/-- A relationship that can be sent is merged, unless its outcome says that an end is missing. -/
theorem run_loadRelationship_of_sendable {sourceType : String} (sourceId : String)
    {ref : RelationshipRef} (h : isSendable registry sourceType ref = true) (s : Store) :
    ∃ outcome, ((Store.loader o registry vectors).loadRelationship sourceType sourceId ref).run s =
        (outcome, s.apply (edgeMerge sourceType sourceId ref)) ∧
      (NoneMissing [outcome] → s.finds (edgeMerge sourceType sourceId ref) = true) := by
  have hsend := run_send o registry vectors (s := s)
    (read?_edgeStatementOf sourceId h)
  rw [loadRelationship, show (Store.loader o registry vectors).registry = registry from rfl,
    edgeStatement_of_sendable sourceId h]
  refine ⟨_, run_bind_of_run hsend, fun hnone => ?_⟩
  cases hfinds : s.finds (edgeMerge sourceType sourceId ref) with
  | true => rfl
  | false =>
    have hanswer : s.answer (edgeMerge sourceType sourceId ref) = [] := by
      unfold edgeMerge at hfinds ⊢
      simp only [Store.answer, hfinds, Bool.false_eq_true, if_false]
    rw [hanswer] at hnone
    have hmissing := hnone _ (List.mem_singleton_self _)
    cases hmissing

theorem run_loadRelationship_of_not_sendable {sourceType : String} (sourceId : String)
    {ref : RelationshipRef} (h : isSendable registry sourceType ref = false) (s : Store) :
    ∃ outcome, ((Store.loader o registry vectors).loadRelationship sourceType sourceId ref).run s =
      (outcome, s) := by
  obtain ⟨error, herror⟩ := edgeStatement_of_not_sendable sourceId h
  rw [loadRelationship, show (Store.loader o registry vectors).registry = registry from rfl,
    herror]
  exact ⟨_, rfl⟩

/-- Relationships merge one after another. -/
theorem run_loadRelationships (sourceType sourceId : String) (refs : List RelationshipRef)
    (s : Store) :
    ∃ outcomes,
      ((Store.loader o registry vectors).loadRelationships sourceType sourceId refs).run s =
        (outcomes, s.applyAll (edgeMerges registry sourceType sourceId refs)) ∧
      (NoneMissing outcomes → s.Complete (edgeMerges registry sourceType sourceId refs)) := by
  induction refs generalizing s with
  | nil => exact ⟨[], rfl, fun _ => trivial⟩
  | cons ref rest ih =>
    cases hsendable : isSendable registry sourceType ref with
    | false =>
      obtain ⟨outcome, hrun⟩ :=
        run_loadRelationship_of_not_sendable o registry vectors sourceId hsendable s
      obtain ⟨outcomes, hrest, hcomplete⟩ := ih s
      have hmerges : edgeMerges registry sourceType sourceId (ref :: rest) =
          edgeMerges registry sourceType sourceId rest := by
        simp [edgeMerges, hsendable]
      rw [hmerges]
      exact ⟨outcome :: outcomes, (run_bind_of_run hrun).trans (run_bind_of_run hrest),
        fun hnone => hcomplete fun error herror => hnone error (List.mem_cons_of_mem _ herror)⟩
    | true =>
      obtain ⟨outcome, hrun, hfound⟩ :=
        run_loadRelationship_of_sendable o registry vectors sourceId hsendable s
      obtain ⟨outcomes, hrest, hcomplete⟩ := ih (s.apply (edgeMerge sourceType sourceId ref))
      have hmerges : edgeMerges registry sourceType sourceId (ref :: rest) =
          edgeMerge sourceType sourceId ref :: edgeMerges registry sourceType sourceId rest := by
        simp [edgeMerges, hsendable]
      rw [hmerges]
      refine ⟨outcome :: outcomes, (run_bind_of_run hrun).trans (run_bind_of_run hrest),
        fun hnone => ⟨hfound fun error herror => hnone error ?_, hcomplete fun error herror => ?_⟩⟩
      · exact List.mem_singleton.mp herror ▸ List.mem_cons_self
      · exact hnone error (List.mem_cons_of_mem _ herror)

/-! ## Batches -/

/-- The merges that an entity asks for: none without a place for it, and else one for its node and
one for each relationship that can be sent. -/
def entityMerges (e : Entity) : List Merge :=
  match placement o e with
  | .error _ => []
  | .ok p =>
    nodeMerge p.node (vectored vectors p.node e) :: edgeMerges registry e.type p.id e.relationships

/-- An entity merges its node and then its relationships. -/
theorem run_loadEntityWithRelationships (e : Entity) (s : Store) :
    ∃ outcome, ((Store.loader o registry vectors).loadEntityWithRelationships e).run s =
        (outcome, s.applyAll (entityMerges o registry vectors e)) ∧
      (NoneMissingIn outcome → s.Complete (entityMerges o registry vectors e)) := by
  by_cases hplaced : ∃ node, Placed o e node
  · obtain ⟨node, hplaced⟩ := hplaced
    have hnode := run_loadEntity_of_placed o registry vectors hplaced s
    obtain ⟨outcomes, hrun, hcomplete⟩ := run_loadRelationships o registry vectors
      e.type (deriveIdentity e.type (some node) e.properties) e.relationships
      (s.apply (nodeMerge node (vectored vectors node e)))
    rw [entityMerges, placement_of_placed hplaced]
    exact ⟨_, (run_bind_of_run hnode).trans (run_bind_of_run hrun),
      fun hnone => ⟨rfl, hcomplete hnone.relationships⟩⟩
  · have hrefused : ∀ node, ¬ Placed o e node := fun node h => hplaced ⟨node, h⟩
    obtain ⟨error, hrun⟩ :=
      run_loadEntity_of_not_placed o registry vectors hrefused s
    obtain ⟨error', herror⟩ := placement_of_not_placed hrefused
    rw [entityMerges, herror]
    exact ⟨_, run_bind_of_run hrun, fun _ => trivial⟩

def batchMerges (es : List Entity) : List Merge :=
  es.flatMap (entityMerges o registry vectors)

theorem run_loadEach (es : List Entity) (s : Store) :
    ∃ outcomes, ((Store.loader o registry vectors).loadEach es).run s =
        (outcomes, s.applyAll (batchMerges o registry vectors es)) ∧
      ((∀ outcome ∈ outcomes, NoneMissingIn outcome.2) →
        s.Complete (batchMerges o registry vectors es)) := by
  induction es generalizing s with
  | nil => exact ⟨[], rfl, fun _ => trivial⟩
  | cons e rest ih =>
    obtain ⟨outcome, hrun, hfirst⟩ := run_loadEntityWithRelationships o registry vectors e s
    obtain ⟨outcomes, hrest, hcomplete⟩ := ih (s.applyAll (entityMerges o registry vectors e))
    have hmerges : batchMerges o registry vectors (e :: rest) =
        entityMerges o registry vectors e ++ batchMerges o registry vectors rest :=
      List.flatMap_cons
    rw [hmerges, Store.applyAll_append, Store.complete_append]
    refine ⟨(e.type, outcome) :: outcomes, (run_bind_of_run hrun).trans (run_bind_of_run hrest),
      fun hnone => ⟨hfirst ?_, hcomplete fun other hother => ?_⟩⟩
    · exact hnone (e.type, outcome) List.mem_cons_self
    · exact hnone other (List.mem_cons_of_mem _ hother)

/-- The store that a batch leaves. -/
theorem run_loadEntities (es : List Entity) (s : Store) :
    (((Store.loader o registry vectors).loadEntities es).run s).2 =
      s.applyAll (batchMerges o registry vectors es) := by
  obtain ⟨outcomes, hrun, -⟩ := run_loadEach o registry vectors es s
  exact congrArg Prod.snd (run_bind_of_run hrun)

/-- **Loading a batch again.** Against a store that merges, a second run changes no node and loses
no relationship, a third run changes nothing, and neither does a second if nothing was missing in
the first: by the outcomes of its entities, or by its report. -/
theorem loadEntities_again (es : List Entity) (s : Store) :
    let l := Store.loader o registry vectors
    let s₁ := ((l.loadEntities es).run s).2
    let s₂ := ((l.loadEntities es).run s₁).2
    let s₃ := ((l.loadEntities es).run s₂).2
    s₂.nodes = s₁.nodes ∧
      (∀ key, (s₁.edges key).isSome = true → (s₂.edges key).isSome = true) ∧
      s₃ = s₂ ∧
      ((∀ outcome ∈ ((l.loadEach es).run s).1, NoneMissingIn outcome.2) → s₂ = s₁) ∧
      (¬ ((l.loadEntities es).run s).1.TellsOfMissing → s₂ = s₁) := by
  intro l s₁ s₂ s₃
  have h₁ : s₁ = s.applyAll (batchMerges o registry vectors es) :=
    run_loadEntities o registry vectors es s
  have h₂ : s₂ = s₁.applyAll (batchMerges o registry vectors es) :=
    run_loadEntities o registry vectors es s₁
  have h₃ : s₃ = s₂.applyAll (batchMerges o registry vectors es) :=
    run_loadEntities o registry vectors es s₂
  obtain ⟨outcomes, hrun, hcomplete⟩ := run_loadEach o registry vectors es s
  have houtcomes : ((l.loadEach es).run s).1 = outcomes := congrArg Prod.fst hrun
  have hreport : ((l.loadEntities es).run s).1 = LoadReport.ofOutcomes outcomes :=
    congrArg Prod.fst (run_bind_of_run hrun)
  have hsecond : (∀ outcome ∈ outcomes, NoneMissingIn outcome.2) → s₂ = s₁ := by
    intro hnone
    rw [h₂, h₁]
    exact Store.applyAll_applyAll_of_complete (hcomplete hnone)
  refine ⟨?_, ?_, ?_, ?_, ?_⟩
  · rw [h₂, h₁]
    exact Store.nodes_applyAll_applyAll s _
  · intro key hkey
    rw [h₂]
    exact Store.edges_isSome_applyAll _ hkey
  · rw [h₃, h₂]
    exact Store.applyAll_applyAll_of_ready (h₁ ▸ Store.ready_applyAll s _)
  · rw [houtcomes]
    exact hsecond
  · rw [hreport]
    exact fun hnone => hsecond (LoadReport.noneMissingIn_of_ofOutcomes hnone)

end Loader

end Ontograph
