/-
Ontograph.Proofs.Loader.EmbeddingFailure — a backend that fails is as good as none.

An entity is loaded by a program in the monad of its session and its backend.
`AsksVector` says for which entities the backend comes in at all. For those the
program is one request to the backend and then the program of a loader without
any, for the entity with the vector that was answered (`loadEntity_of_asks`);
for all others it is the program of a loader without a backend
(`loadEntity_of_not_asks`). Since an answer that is no vector leaves the entity
as it is, nothing is left of a failure but the effects of the request itself.

The equations hold in every monad, so of every session and backend and of
whatever they do to each other's state. The loader is given the parts of itself
to compare with: `withBackend none` and `withBackend (some b)` differ in the
backend only.
-/
import Mathlib.Tactic.Choose
import Ontograph.Proofs.Loader.NodeProperties
import Ontograph.Proofs.Loader.Rerun

namespace Ontograph.Loader

variable {m : Type → Type}

def withBackend (l : Loader m) (backend : Option (EmbeddingBackend m)) : Loader m :=
  { l with backend }

@[simp]
theorem withBackend_ontology (l : Loader m) (backend : Option (EmbeddingBackend m)) :
    (l.withBackend backend).ontology = l.ontology :=
  rfl

/-- A vector is asked for: the type is registered, its labels can be quoted, it has a place for a
vector, and the entity has none yet. -/
def AsksVector (o : Ontology) (e : Entity) : Prop :=
  ∃ node, Placed o e node ∧ node.vectorProperty?.isSome = true ∧ e.embedding = none

/-! ## Answers -/

/-- The answer of a backend that has no vector: it finds none available, or fails. -/
def withoutVector : Option EmbeddingError → Except EmbeddingError (Option Embedding)
  | none => .ok none
  | some error => .error error

/-- An answer without a vector leaves an entity as it is. -/
theorem withAnswer_withoutVector (e : Entity) (failure : Option EmbeddingError) :
    e.withAnswer (withoutVector failure) = e := by
  cases failure <;> rfl

/-- An answer changes the embedding at most. -/
theorem withAnswer_eq (e : Entity) (answer : Except EmbeddingError (Option Embedding)) :
    e.withAnswer answer = { e with embedding := (e.withAnswer answer).embedding } := by
  rcases answer with _ | _ | _ <;> rfl

theorem placed_withAnswer {o : Ontology} {e : Entity} {node : NodeType}
    (answer : Except EmbeddingError (Option Embedding)) :
    Placed o (e.withAnswer answer) node ↔ Placed o e node := by
  rw [withAnswer_eq]
  rfl

theorem placementOf_withAnswer (node : NodeType) (e : Entity)
    (answer : Except EmbeddingError (Option Embedding)) :
    Placement.of node (e.withAnswer answer) = Placement.of node e := by
  rw [withAnswer_eq]
  rfl

/-! ## Programs -/

section
variable [Monad m]

/-- Without a place for it, an entity is refused before any backend is asked. -/
theorem loadEntity_of_not_placed (l : Loader m) {e : Entity}
    (h : ∀ node, ¬ Placed l.ontology e node) :
    ∃ error, ∀ backend, (l.withBackend backend).loadEntity e =
      pure (.error (.validation error), e) := by
  obtain ⟨error, herror⟩ := placement_of_not_placed h
  refine ⟨error, fun backend => ?_⟩
  rw [loadEntity, withBackend_ontology, herror]

theorem withEmbedding_without (l : Loader m) (node : NodeType) (e : Entity) :
    (l.withBackend none).withEmbedding node e = pure e := by
  simp [withEmbedding, backendFor?, withBackend]

theorem withEmbedding_of_not_wanted (l : Loader m) (b : EmbeddingBackend m) {node : NodeType}
    {e : Entity} (h : ¬ (node.vectorProperty?.isSome = true ∧ e.embedding = none)) :
    (l.withBackend (some b)).withEmbedding node e = pure e := by
  have hbackend : (l.withBackend (some b)).backendFor? node e = none := by
    refine if_pos ?_
    cases hplace : node.vectorProperty? <;> cases hvector : e.embedding <;> simp_all
  rw [withEmbedding, hbackend]

variable [LawfulMonad m]

/-- An entity that is written as it is takes one statement. -/
theorem loadEntity_of_kept {l : Loader m} {e : Entity} {node : NodeType}
    (h : Placed l.ontology e node) (hkept : l.withEmbedding node e = pure e) :
    l.loadEntity e = (fun answer => ((Placement.of node e).outcome e answer, e)) <$>
      l.send (nodeStatement node e) := by
  rw [loadEntity, placement_of_placed h]
  show l.withEmbedding node e >>= _ = _
  rw [hkept, pure_bind, Placement.statement_of node ⟨rfl, rfl⟩, map_eq_pure_bind]

/-- A vector that is wanted is asked for once. -/
theorem withEmbedding_of_asks (l : Loader m) (b : EmbeddingBackend m) {node : NodeType} {e : Entity}
    (hplace : node.vectorProperty?.isSome = true) (hnone : e.embedding = none) :
    (l.withBackend (some b)).withEmbedding node e =
      e.withAnswer <$> b.embed e.embeddedText := by
  have hbackend : (l.withBackend (some b)).backendFor? node e = some b := by
    simp [backendFor?, withBackend, hnone, Option.isNone_eq_false_iff.mpr hplace]
  rw [withEmbedding, hbackend, map_eq_pure_bind]
  refine bind_congr fun answer => ?_
  rcases answer with _ | _ | _ <;> rfl

/-- Where a vector is asked for, loading is a request for it and then loading without a backend. -/
theorem loadEntity_of_asks (l : Loader m) (b : EmbeddingBackend m) {e : Entity}
    (h : AsksVector l.ontology e) :
    (l.withBackend (some b)).loadEntity e = b.embed e.embeddedText >>= fun answer =>
      (l.withBackend none).loadEntity (e.withAnswer answer) := by
  obtain ⟨node, hplaced, hplace, hnone⟩ := h
  rw [loadEntity, withBackend_ontology, placement_of_placed hplaced]
  show (l.withBackend (some b)).withEmbedding node e >>= _ = _
  rw [withEmbedding_of_asks l b hplace hnone, bind_map_left]
  refine bind_congr fun answer => ?_
  have hplaced' : Placed (l.withBackend none).ontology (e.withAnswer answer) node :=
    (placed_withAnswer answer).mpr hplaced
  rw [loadEntity_of_kept hplaced' (withEmbedding_without l node _), placementOf_withAnswer,
    map_eq_pure_bind, ← placementOf_withAnswer node e answer,
    Placement.statement_of node ⟨rfl, rfl⟩]
  rfl

/-- Where none is asked for, the backend does not matter. -/
theorem loadEntity_of_not_asks (l : Loader m) (b : EmbeddingBackend m) {e : Entity}
    (h : ¬ AsksVector l.ontology e) :
    (l.withBackend (some b)).loadEntity e = (l.withBackend none).loadEntity e := by
  by_cases hplaced : ∃ node, Placed l.ontology e node
  · obtain ⟨node, hplaced⟩ := hplaced
    have hkept := withEmbedding_of_not_wanted l b fun hwanted => h ⟨node, hplaced, hwanted⟩
    rw [loadEntity_of_kept (l := l.withBackend (some b)) hplaced hkept,
      loadEntity_of_kept (l := l.withBackend none) hplaced (withEmbedding_without l node e)]
    rfl
  · obtain ⟨error, herror⟩ := loadEntity_of_not_placed l fun node h => hplaced ⟨node, h⟩
    rw [herror, herror]

/-- A failure leaves nothing but the effects of the request. -/
theorem loadEntity_of_failure (l : Loader m) {b : EmbeddingBackend m} {e : Entity}
    {attempt : m (Option EmbeddingError)} (h : AsksVector l.ontology e)
    (hfails : b.embed e.embeddedText = withoutVector <$> attempt) :
    (l.withBackend (some b)).loadEntity e =
      attempt >>= fun _ => (l.withBackend none).loadEntity e := by
  rw [loadEntity_of_asks l b h, hfails, bind_map_left]
  refine bind_congr fun failure => ?_
  rw [withAnswer_withoutVector]

/-- Without a backend the entity comes back as it was. -/
theorem exists_loadEntity_without (l : Loader m) (e : Entity) :
    ∃ x : m (Except LoadError String),
      (l.withBackend none).loadEntity e = (fun result => (result, e)) <$> x := by
  by_cases hplaced : ∃ node, Placed l.ontology e node
  · obtain ⟨node, hplaced⟩ := hplaced
    refine ⟨(Placement.of node e).outcome e <$> l.send (nodeStatement node e), ?_⟩
    rw [loadEntity_of_kept (l := l.withBackend none) hplaced (withEmbedding_without l node e),
      Functor.map_map]
    rfl
  · obtain ⟨error, herror⟩ := loadEntity_of_not_placed l fun node h => hplaced ⟨node, h⟩
    exact ⟨pure (.error (.validation error)), by rw [herror, map_pure]⟩

/-- With any backend, no more than the embedding is changed. -/
theorem exists_loadEntity_eq (l : Loader m) (backend : Option (EmbeddingBackend m)) (e : Entity) :
    ∃ x : m (Except LoadError String × Option Embedding), (l.withBackend backend).loadEntity e =
      (fun r => (r.1, { e with embedding := r.2 })) <$> x := by
  obtain ⟨kept, hkept⟩ := exists_loadEntity_without l e
  have hunchanged : (l.withBackend none).loadEntity e =
      (fun r => (r.1, { e with embedding := r.2 })) <$>
        (fun result => (result, e.embedding)) <$> kept := by
    rw [hkept, Functor.map_map]
  cases backend with
  | none => exact ⟨_, hunchanged⟩
  | some b =>
    by_cases hasks : AsksVector l.ontology e
    · choose after hafter using fun answer => exists_loadEntity_without l (e.withAnswer answer)
      refine ⟨b.embed e.embeddedText >>= fun answer =>
        (fun result => (result, (e.withAnswer answer).embedding)) <$> after answer, ?_⟩
      rw [loadEntity_of_asks l b hasks, map_bind]
      refine bind_congr fun answer => ?_
      rw [hafter, Functor.map_map]
      refine congrArg (· <$> after answer) (funext fun result => ?_)
      exact congrArg (result, ·) (withAnswer_eq e answer)
    · exact ⟨_, (loadEntity_of_not_asks l b hasks).trans hunchanged⟩

end

/-! ## Statements -/

/-- Two statements that write a node, alike but for what stands under the vector property. -/
def AlikeButVector (node : NodeType) (s s' : Statement) : Prop :=
  s'.query = s.query ∧ ∃ id fields fields',
    s.params = [("id", .string id), ("props", .object fields)] ∧
    s'.params = [("id", .string id), ("props", .object fields')] ∧
    ∀ key, (∀ p, node.vectorProperty? = some p → key ≠ p.name) →
      Fields.get? key fields' = Fields.get? key fields

theorem vectorUnder?_eq_none {node : NodeType} {key : String}
    (h : ∀ p, node.vectorProperty? = some p → key ≠ p.name) (e : Entity) :
    vectorUnder? node e key = none := by
  unfold vectorUnder?
  split
  · rename_i vector p hvector hp
    exact if_neg (h p hp)
  · rfl

/-- An answer changes the statement at the place of the vector only. -/
theorem alikeButVector_nodeStatement (node : NodeType) (e : Entity)
    (answer : Except EmbeddingError (Option Embedding)) :
    AlikeButVector node (nodeStatement node e) (nodeStatement node (e.withAnswer answer)) := by
  rw [withAnswer_eq]
  refine ⟨rfl, deriveIdentity e.type (some node) e.properties, _, _, rfl, rfl, ?_⟩
  intro key hkey
  rw [get?_nodeProperties, get?_nodeProperties, storedUnder?, storedUnder?,
    vectorUnder?_eq_none hkey, vectorUnder?_eq_none hkey]
  rfl

/-! ## Failures -/

/-- **An embedding failure is invisible.** Whatever the entity, the ontology and the session. A
backend is asked once, for the text of the entity, if a vector is asked for, and otherwise not at
all; then the entity is loaded as without a backend, with the vector if one was answered. So loading
with a backend that fails, or that has no vector, is loading without one, but for the effects of the
request. Without one a placed entity is one statement, whose answer alone decides on the result; a
vector changes the statement under the vector property at most, and the entity only in its
embedding. An entity without a place is refused in the same way by all. -/
theorem loadEntity_backend [Monad m] [LawfulMonad m] (l : Loader m) (e : Entity) :
    (∀ b, AsksVector l.ontology e → (l.withBackend (some b)).loadEntity e =
      b.embed e.embeddedText >>= fun answer =>
        (l.withBackend none).loadEntity (e.withAnswer answer)) ∧
    (∀ b, ¬ AsksVector l.ontology e →
      (l.withBackend (some b)).loadEntity e = (l.withBackend none).loadEntity e) ∧
    (∀ b attempt, AsksVector l.ontology e → b.embed e.embeddedText = withoutVector <$> attempt →
      (l.withBackend (some b)).loadEntity e =
        attempt >>= fun _ => (l.withBackend none).loadEntity e) ∧
    (∀ b failure, b.embed e.embeddedText = pure (withoutVector failure) →
      (l.withBackend (some b)).loadEntity e = (l.withBackend none).loadEntity e) ∧
    (∀ node, Placed l.ontology e node → ∀ answer,
      (l.withBackend none).loadEntity (e.withAnswer answer) =
        (fun reply => ((Placement.of node e).outcome e reply, e.withAnswer answer)) <$>
          l.send (nodeStatement node (e.withAnswer answer)) ∧
      AlikeButVector node (nodeStatement node e) (nodeStatement node (e.withAnswer answer))) ∧
    ((∀ node, ¬ Placed l.ontology e node) → ∃ error, ∀ backend,
      (l.withBackend backend).loadEntity e = pure (.error (.validation error), e)) ∧
    ∀ backend, ∃ x : m (Except LoadError String × Option Embedding),
      (l.withBackend backend).loadEntity e =
        (fun r => (r.1, { e with embedding := r.2 })) <$> x := by
  refine ⟨fun b => loadEntity_of_asks l b, fun b => loadEntity_of_not_asks l b,
    fun b attempt => loadEntity_of_failure l, fun b failure hfails => ?_,
    fun node hplaced answer => ⟨?_, alikeButVector_nodeStatement node e answer⟩,
    loadEntity_of_not_placed l, fun backend => exists_loadEntity_eq l backend e⟩
  · by_cases hasks : AsksVector l.ontology e
    · have hpure : b.embed e.embeddedText = withoutVector <$> pure failure := by
        rw [hfails, map_pure]
      rw [loadEntity_of_failure l hasks hpure, pure_bind]
    · exact loadEntity_of_not_asks l b hasks
  · have hplaced' : Placed (l.withBackend none).ontology (e.withAnswer answer) node :=
      (placed_withAnswer answer).mpr hplaced
    rw [loadEntity_of_kept hplaced' (withEmbedding_without l node _), withAnswer_eq]
    rfl

def countedFailure : StateM Nat (Option EmbeddingError) := do
  modify (· + 1)
  pure (some .missingEmbedding)

def failingBackend : EmbeddingBackend (StateM Nat) where
  name := "failing"
  dimensions := 1
  embed _ := withoutVector <$> countedFailure

def chartCounter : Loader (StateM Nat) where
  ontology := chartLoader.ontology
  session := { run := fun _ _ => pure (.ok [[("id", .string "7")]]) }

/-- One failure is counted for a chart without a vector, and none for a chart with one or for what
is no chart; a backend that has no vector leaves no trace. -/
theorem seaChart_without_vector :
    let fails := chartCounter.withBackend (some failingBackend)
    let bare := chartCounter.withBackend none
    let globe : Entity := { type := "Globe" }
    let drawn : Entity := { seaChart with embedding := some [Confidence.certain] }
    (AsksVector chartCounter.ontology seaChart ∧
      fails.loadEntity seaChart = countedFailure >>= fun _ => bare.loadEntity seaChart) ∧
    (¬ AsksVector chartCounter.ontology drawn ∧ fails.loadEntity drawn = bare.loadEntity drawn) ∧
    ((∀ node, ¬ Placed chartCounter.ontology globe node) ∧ ∃ error,
      fails.loadEntity globe = pure (.error (.validation error), globe)) ∧
    (chartCounter.withBackend (some (.ofFunction fun _ => .ok none))).loadEntity seaChart =
      bare.loadEntity seaChart ∧
    AlikeButVector chart (nodeStatement chart seaChart) (nodeStatement chart drawn) := by
  intro fails bare globe drawn
  have hplaced : Placed chartCounter.ontology seaChart chart := ⟨by decide, by decide⟩
  have hasks : AsksVector chartCounter.ontology seaChart := ⟨chart, hplaced, by decide, rfl⟩
  have hdrawn : ¬ AsksVector chartCounter.ontology drawn := by
    rintro ⟨node, -, -, hnone⟩
    cases hnone
  have hglobe : ∀ node, ¬ Placed chartCounter.ontology globe node := by
    rintro node ⟨hnode, -⟩
    have hunknown : chartCounter.ontology.nodeType? globe.type = none := by decide
    rw [hunknown] at hnode
    cases hnode
  obtain ⟨-, -, hfailure, hunavailable, hbare, -⟩ := loadEntity_backend chartCounter seaChart
  obtain ⟨-, hkept, -⟩ := loadEntity_backend chartCounter drawn
  obtain ⟨-, -, -, -, -, hrefused, -⟩ := loadEntity_backend chartCounter globe
  obtain ⟨error, herror⟩ := hrefused hglobe
  exact ⟨⟨hasks, hfailure failingBackend countedFailure hasks rfl⟩,
    ⟨hdrawn, hkept failingBackend hdrawn⟩, ⟨hglobe, error, herror _⟩,
    hunavailable (.ofFunction fun _ => .ok none) none rfl,
    (hbare chart hplaced (.ok (some [Confidence.certain]))).2⟩

end Ontograph.Loader
