/-
Ontograph.Proofs.Loader.StoredVector — which vectors come to be stored.

An entity's vector is stored under the first property of its type that is of
type vector. It is the vector that the entity brings along, or else the one
that the backend answers in the entity's visit (`Visit.stores`); if there is
neither, what stands there is what the entity has among its own properties.

A vector that a backend answers has the dimensions of its settings, and the
schema declares the same dimensions for every vector index. So what is stored
fits its index and comes from the backend exactly as far as `Faithful` says
(`fitsIndex_iff`): the entity must bring no vector along, the settings must ask
for the dimensions that are declared, and where the backend has no answer the
entity must have no array of its own in the vector's place.
-/
import Ontograph.CommandLine.Run
import Ontograph.Proofs.Client.Accounts
import Ontograph.Proofs.Cypher.VectorIndex
import Ontograph.Proofs.Json.Record
import Ontograph.Proofs.Loader.Balance

namespace Ontograph

/-- The entity with a vector that was found for it, unless it brings one along. -/
def Entity.orVector (e : Entity) (found : Option Embedding) : Entity :=
  { e with embedding := e.embedding.or found }

namespace Loader

open Cypher (Declares)

variable {m : Type → Type} {σ : Type}

/-! ## What a visit stores -/

def answeredVector? : List Event → Option Embedding
  | .embedded _ (.ok (some vector)) :: _ => some vector
  | _ => none

/-- The properties that are stored in a visit: those of its first statement. -/
def storedFields? : List Event → Option Fields
  | [] => none
  | .embedded _ _ :: rest => storedFields? rest
  | .sent _ params _ :: _ => (params.field? "props").bind Json.object?

/-- A vector that was answered stands in the visit, behind its text. -/
theorem mem_of_answeredVector? {visit : List Event} {vector : Embedding}
    (h : answeredVector? visit = some vector) :
    ∃ text, .embedded text (.ok (some vector)) ∈ visit := by
  unfold answeredVector? at h
  split at h
  · rename_i text answered rest
    cases h
    exact ⟨text, List.mem_cons_self⟩
  · cases h

/-- An entity is written with the vector that it brings along, or else with the one answered. -/
theorem Attached.eq_orVector {l : Loader m} {node : NodeType} {e e' : Entity}
    {asked : List Event} (h : Attached l node e e' asked) (s : Statement)
    (answer : Except GraphError (List Record)) (rest : List Event) :
    e' = e.orVector (answeredVector? (asked ++ s.event answer :: rest)) := by
  have hkept : e = e.orVector none := by rw [Entity.orVector, Option.or_none]
  cases h with
  | asked hwanted answer =>
    match answer with
    | .ok (some vector) =>
      rw [Entity.orVector, hwanted.1]
      rfl
    | .ok none => exact hkept
    | .error error => exact hkept
  | kept => exact hkept

/-- An entity that has a place is written in its visit, with its vector. -/
theorem Visit.stores {l : Loader m} {e : Entity} {visit : List Event} (h : Visit l e visit)
    {node : NodeType} (hplaced : Placed l.ontology e node) :
    ∃ id, storedFields? visit =
      some (Statement.nodeProperties node (e.orVector (answeredVector? visit)) id) := by
  have hwritten {node' : NodeType} {e' : Entity} {asked : List Event}
      (hplaced' : Placed l.ontology e node') (hvector : Attached l node' e e' asked)
      (answer : Except GraphError (List Record)) (rest : List Event) :
      ∃ id, storedFields? (asked ++ (nodeStatement node' e').event answer :: rest) =
        some (Statement.nodeProperties node (e.orVector
          (answeredVector? (asked ++ (nodeStatement node' e').event answer :: rest))) id) := by
    rw [← hvector.eq_orVector]
    obtain rfl : node' = node := Option.some.inj (hplaced'.1.symm.trans hplaced.1)
    refine ⟨deriveIdentity e'.type (some node') e'.properties, ?_⟩
    cases hvector <;> rfl
  cases h with
  | refused hno => exact absurd hplaced (hno node)
  | failed hplaced' hvector hanswer => exact hwritten hplaced' hvector _ []
  | written hplaced' hvector hanswer hedges => exact hwritten hplaced' hvector _ _

/-- A vector is answered only for an entity that brings none along. -/
theorem Visit.embedding_eq_none {l : Loader m} {e : Entity} {visit : List Event}
    (h : Visit l e visit) {vector : Embedding} (hanswered : answeredVector? visit = some vector) :
    e.embedding = none := by
  cases h with
  | refused => cases hanswered
  | failed _ hvector =>
    cases hvector with
    | asked hwanted => exact hwanted.1
    | kept => cases hanswered
  | written _ hvector =>
    cases hvector with
    | asked hwanted => exact hwanted.1
    | kept => cases hanswered

/-- The request for a wanted vector comes first in a visit. -/
theorem Visit.exists_embedded {l : Loader m} {e : Entity} {visit : List Event}
    (h : Visit l e visit) {node : NodeType} (hplaced : Placed l.ontology e node)
    (hwanted : l.WantsVector node e) :
    ∃ answer rest, visit = .embedded e.embeddedText answer :: rest := by
  have hasked {node' : NodeType} {e' : Entity} {asked : List Event}
      (hplaced' : Placed l.ontology e node') (hvector : Attached l node' e e' asked)
      (others : List Event) :
      ∃ answer rest, asked ++ others = .embedded e.embeddedText answer :: rest := by
    obtain rfl : node' = node := Option.some.inj (hplaced'.1.symm.trans hplaced.1)
    cases hvector with
    | asked _ answer => exact ⟨answer, others, rfl⟩
    | kept hno => exact absurd hwanted hno
  cases h with
  | refused hno => exact absurd hplaced (hno node)
  | failed hplaced' hvector hanswer => exact hasked hplaced' hvector _
  | written hplaced' hvector hanswer hedges => exact hasked hplaced' hvector _

/-! ## What stands under a property -/

theorem get?_nodeProperties_identity (node : NodeType) (e : Entity) (id : String) :
    Fields.get? identityProperty (Statement.nodeProperties node e id) = some (.string id) :=
  Fields.get?_insert_self _ _ _

/-- Under the vector property stands the vector of the entity, if there is one. -/
theorem get?_nodeProperties_vector {node : NodeType} {p : Property}
    (hp : node.vectorProperty? = some p) (hid : p.name ≠ identityProperty) (e : Entity)
    (found : Option Embedding) (id : String) :
    Fields.get? p.name (Statement.nodeProperties node (e.orVector found) id) =
      match e.embedding.or found with
      | some vector => some (PropertyValue.vectorJson vector)
      | none => Fields.get? p.name e.graphProperties := by
  unfold Statement.nodeProperties
  rw [Fields.get?_insert_of_ne _ hid, hp, Entity.orVector]
  cases e.embedding.or found with
  | some vector => exact Fields.get?_insert_self _ _ _
  | none => rfl

/-- Under any other property stands what the entity has there itself. -/
theorem get?_nodeProperties_of_ne {node : NodeType} {p : Property}
    (hp : node.vectorProperty? = some p) {key : String} (hid : key ≠ identityProperty)
    (hne : key ≠ p.name) (e : Entity) (id : String) :
    Fields.get? key (Statement.nodeProperties node e id) =
      Fields.get? key e.graphProperties := by
  unfold Statement.nodeProperties
  rw [Fields.get?_insert_of_ne _ hid, hp]
  cases e.embedding with
  | some vector => exact Fields.get?_insert_of_ne _ hne _
  | none => rfl

/-! ## Vectors and their index -/

/-- What is stored in a visit fits the index on a property: an array that is stored there is a
vector that was answered in the visit, and has the dimensions that the schema declares. -/
def FitsIndex (o : Ontology) (node : NodeType) (p : Property) (visit : List Event) : Prop :=
  ∀ fields items, storedFields? visit = some fields →
    Fields.get? p.name fields = some (.array items) →
      (∃ vector, answeredVector? visit = some vector ∧
        PropertyValue.vectorJson vector = .array items) ∧
      ∀ n, Declares o node p n → items.length = n

/-- What it takes for that. The identity is always stored over the property of its name. For any
other property the entity must bring no vector along; if one was answered, the dimensions that are
asked for must be the declared ones, and otherwise no array of the entity's own may take its
place. -/
def Faithful (o : Ontology) (node : NodeType) (p : Property) (dimensions : Nat) (e : Entity)
    (visit : List Event) : Prop :=
  p.name = identityProperty ∨ e.embedding = none ∧
    match answeredVector? visit with
    | some _ => ∀ n, Declares o node p n → dimensions = n
    | none => ∀ items, Fields.get? p.name e.graphProperties ≠ some (.array items)

/-- What is stored in a visit is right exactly if the visit is faithful. -/
theorem fitsIndex_iff {l : Loader m} {e : Entity} {visit : List Event} (h : Visit l e visit)
    {node : NodeType} (hplaced : Placed l.ontology e node) {p : Property}
    (hp : node.vectorProperty? = some p) {dimensions : Nat}
    (hlength : ∀ vector, answeredVector? visit = some vector → vector.length = dimensions) :
    FitsIndex l.ontology node p visit ↔ Faithful l.ontology node p dimensions e visit := by
  obtain ⟨id, hfields⟩ := h.stores hplaced
  unfold FitsIndex Faithful
  rw [hfields]
  by_cases hid : p.name = identityProperty
  · refine iff_of_true ?_ (.inl hid)
    rintro _ items ⟨⟩ harray
    rw [hid, get?_nodeProperties_identity] at harray
    cases harray
  have hstored := get?_nodeProperties_vector hp hid e (answeredVector? visit) id
  rw [or_iff_right hid]
  cases hown : e.embedding with
  | some vector =>
    -- The vector that is brought along was not answered.
    rw [hown, Option.some_or] at hstored
    refine iff_of_false (fun hfits => ?_) nofun
    obtain ⟨⟨answered, hanswered, -⟩, -⟩ := hfits _ _ rfl hstored
    rw [h.embedding_eq_none hanswered] at hown
    cases hown
  | none =>
    rw [hown, Option.none_or] at hstored
    rw [and_iff_right rfl]
    cases hanswered : answeredVector? visit with
    | some vector =>
      rw [hanswered] at hstored
      have hwidth := hlength vector hanswered
      constructor
      · intro hfits n hn
        obtain ⟨-, hdeclared⟩ := hfits _ _ rfl hstored
        rw [← hwidth, ← hdeclared n hn, List.length_map]
      · rintro hdeclared _ items ⟨⟩ harray
        have hitems := Option.some.inj (hstored.symm.trans harray)
        refine ⟨⟨vector, rfl, hitems⟩, fun n hn => ?_⟩
        rw [← Json.array.inj hitems, List.length_map, hwidth, hdeclared n hn]
    | none =>
      rw [hanswered] at hstored
      constructor
      · intro hfits items harray
        obtain ⟨⟨vector, hvector, -⟩, -⟩ := hfits _ _ rfl (hstored.trans harray)
        cases hvector
      · rintro hnone _ items ⟨⟩ harray
        exact absurd (hstored.symm.trans harray) (hnone items)

/-! ## Loaders that are built from settings -/

/-- A vector that is answered has the dimensions that the settings ask for. -/
def Sized (s : EmbeddingSettings) (event : Event) : Prop :=
  ∀ text vector, event = .embedded text (.ok (some vector)) → s.Fits vector

/-- A request for a vector leaves one event, with the answer of the backend. -/
theorem logsOnly_embed {backend : EmbeddingBackend (StateM σ)} {text : String}
    {kind : Event → Prop} (h : ∀ state, kind (.embedded text ((backend.embed text).run state).1)) :
    LogsOnly (backend.observed.embed text) kind := by
  intro log state
  refine ⟨((backend.embed text).run state).1, _, _, rfl, ?_⟩
  exact List.forall_mem_singleton.mpr (h state)

/-- Both backends answer with the vectors that are fetched. -/
theorem logsOnly_sized_of_ofName {transport : Http.Transport (StateM σ)} {name : String}
    {s : EmbeddingSettings} {backend : EmbeddingBackend (StateM σ)}
    (h : EmbeddingBackend.ofName transport name s = .ok backend) (text : String) :
    LogsOnly (backend.observed.embed text) (Sized s) := by
  refine logsOnly_embed fun state text' vector hevent => ?_
  have hvector := (Event.embedded.inj hevent).2
  have hfetched : ((s.fetch transport text).run state).1 = .ok vector := by
    unfold EmbeddingBackend.ofName at h
    split at h
    · cases h
      rw [EmbeddingBackend.run_strict] at hvector
      generalize ((s.fetch transport text).run state).1 = fetched at hvector ⊢
      cases fetched <;> cases hvector
      rfl
    · split at h
      · cases h
        rw [EmbeddingBackend.run_lenient] at hvector
        generalize ((s.fetch transport text).run state).1 = fetched at hvector ⊢
        cases fetched <;> cases hvector
        rfl
      · cases h
  exact EmbeddingSettings.fits_of_fetch hfetched

/-- A loader that is built from settings gets vectors of the dimensions that they ask for. -/
theorem gets_sized_of_buildLoader {host : CommandLine.Host (StateM σ)} {s : Settings}
    {o : Ontology} {l : Loader (StateM σ)} (h : CommandLine.buildLoader host s o = .ok l) :
    l.ontology = o ∧ l.Gets (Sized s.embedding) := by
  unfold CommandLine.buildLoader at h
  dsimp only at h
  split at h
  · cases h
    exact ⟨rfl, fun _ _ _ _ _ => nofun, nofun⟩
  · split at h
    · rename_i backend hbackend
      cases h
      refine ⟨rfl, fun _ _ _ _ _ => nofun, ?_⟩
      rintro _ ⟨⟩ text
      exact logsOnly_sized_of_ofName hbackend text
    · cases h

/-- **Which stored vectors are right.** Take a loader that is built from settings, and a text with
an entity on each line. In the visit of an entity that has a place, what is stored under the vector
property of its type fits the index on it and comes from the backend exactly as far as `Faithful`
says; under any other property but the identity stands what the entity has there itself, unchecked.
The schema declares the same dimensions for every vector index, whatever the settings ask for. -/
theorem loadLines_vectors {host : CommandLine.Host (StateM σ)} {s : Settings} {o : Ontology}
    {l : Loader (StateM σ)} (hbuilt : CommandLine.buildLoader host s o = .ok l)
    (faultOf : String → String) (text : String) :
    Traces (l.observed.loadLines faultOf text) (fun _ events => ∃ visits : List (List Event),
      events = visits.flatten ∧ List.Forall₂ (fun e visit =>
        Visit l e visit ∧ ∀ node, Placed o e node → ∀ p, node.vectorProperty? = some p →
          (FitsIndex o node p visit ↔ Faithful o node p s.embedding.dimensions e visit) ∧
          ∀ fields key, storedFields? visit = some fields → key ≠ identityProperty →
            key ≠ p.name → Fields.get? key fields = Fields.get? key e.graphProperties)
        (entitiesOf text) visits) ∧
    (∀ node p n, Declares o node p n → n = Cypher.vectorDimensions) := by
  refine ⟨?_, fun _ _ _ h => h.eq⟩
  obtain ⟨rfl, hgets⟩ := gets_sized_of_buildLoader hbuilt
  have hloads := (traces_loadEntities l (entitiesOf text)).and (hgets.loadEntities _)
  refine Traces.bind hloads ?_
  rintro report _ ⟨⟨visits, rfl, hvisits, -⟩, hsized⟩
  refine Traces.pure ⟨visits, List.append_nil _, ?_⟩
  have hlength : ∀ visit ∈ visits, ∀ vector, answeredVector? visit = some vector →
      vector.length = s.embedding.dimensions := by
    intro visit hvisit vector hanswered
    obtain ⟨asked, hmem⟩ := mem_of_answeredVector? hanswered
    exact (hsized _ (List.mem_flatten_of_mem hvisit hmem) asked vector rfl).2
  have hboth := (List.forall₂_and_left _ _).mpr ⟨hlength, hvisits.flip⟩
  refine hboth.flip.imp fun e visit ⟨hwidth, hvisit⟩ => ⟨hvisit, ?_⟩
  intro node hplaced p hp
  refine ⟨fitsIndex_iff hvisit hplaced hp hwidth, ?_⟩
  intro fields key hfields hid hne
  obtain ⟨id, hstored⟩ := hvisit.stores hplaced
  rw [hfields] at hstored
  rw [Option.some.inj hstored, get?_nodeProperties_of_ne hp hid hne]
  rfl

/-! ## Services that answer with a vector -/

def vectorBody (components : List Int) : String :=
  (Json.object [("embedding", .array (components.map .int))]).compact

/-- A vector of whole numbers is read component by component, each as the number nearest to it. -/
theorem vectorOfText?_vectorBody {components : List Int}
    (h : ∀ i ∈ components, -(2 ^ 63 : Int) ≤ i ∧ i < 2 ^ 64) :
    EmbeddingSettings.vectorOfText? (vectorBody components) =
      some (some (components.map Binary.ofInt)) := by
  have hitems : (Json.array (components.map .int)).reread? =
      some (.array (components.map .int)) :=
    Json.reread?_array (Json.rereadItems?_map fun i hi => Json.parse_toString (h i hi).1 (h i hi).2)
  have hbody : (Json.object [("embedding", .array (components.map .int))]).reread? =
      some (.object [("embedding", .array (components.map .int))]) :=
    Json.reread?_object (by simp [Json.rereadFields?, hitems])
  have hcomponents : Json.listOf Json.Shape.single? (Json.array (components.map .int)).shape =
      some (components.map Binary.ofInt) := by
    rw [Json.shape, Json.shapeItems_eq_map, List.map_map]
    exact Json.mapM_map_eq_map fun i _ => rfl
  have hrecord : (Json.object [("embedding", .array (components.map .int))]).shape.record?
      ["embedding"] = some [("embedding", (Json.array (components.map .int)).shape)] :=
    Json.record?_shape (List.Sublist.refl _) (List.nodup_singleton _)
  unfold EmbeddingSettings.vectorOfText? vectorBody
  rw [Json.read_compact hbody, Option.bind_eq_bind, Option.bind_some, hrecord]
  rw [Json.shape] at hcomponents ⊢
  show (Json.listOf Json.Shape.single? _).map some = _
  rw [hcomponents, Option.map_some]

/-- A vector of the dimensions that are asked for is accepted. -/
theorem outcome_vectorBody {s : EmbeddingSettings} {components : List Int}
    (hbounds : ∀ i ∈ components, -(2 ^ 63 : Int) ≤ i ∧ i < 2 ^ 64) (hne : components ≠ [])
    (hlength : components.length = s.dimensions) :
    s.outcome (.answered 200 (vectorBody components)) = .ok (components.map Binary.ofInt) := by
  obtain ⟨i, rest, rfl⟩ := List.exists_cons_of_ne_nil hne
  have hsuccess : Http.isSuccess 200 = true := rfl
  simp only [EmbeddingSettings.outcome, hsuccess, if_true, vectorOfText?_vectorBody hbounds]
  exact if_pos ((List.length_map _).trans hlength)

/-- A backend that always has the same answer leaves no other in the log. -/
theorem gets_answer {l : Loader (StateM σ)} {backend : EmbeddingBackend (StateM σ)}
    (hbackend : l.backend = some backend) {answer : Except EmbeddingError (Option Embedding)}
    (h : ∀ text state, ((backend.embed text).run state).1 = answer) :
    l.Gets fun event => ∀ text answer', event = .embedded text answer' → answer' = answer where
  sent _ _ _ _ _ := nofun
  embedded backend' hbackend' text := by
    obtain rfl : backend = backend' := Option.some.inj (hbackend.symm.trans hbackend')
    refine logsOnly_embed fun state text' answer' hevent => ?_
    rw [← (Event.embedded.inj hevent).2, h]

/-- An outcome that is a vector ends the attempts. -/
theorem run_fetch_of_outcome {transport : Http.Transport (StateM σ)} {s : EmbeddingSettings}
    {text : String} {state state' : σ} {reply : Http.Reply} {vector : Embedding}
    (hsend : (Http.send transport (s.message text)).run state = (reply, state'))
    (houtcome : s.outcome reply = .ok vector) :
    (s.fetch transport text).run state = (.ok vector, state') := by
  have hrun : (do pure (s.outcome (← Http.send transport (s.message text))) :
      StateM σ (Except EmbeddingError Embedding)).run state = (.ok vector, state') := by
    rw [StateT.run_bind, hsend, ← houtcome]
    rfl
  rw [EmbeddingSettings.fetch_eq, Http.attempts,
    run_bind_of_run (Http.run_attempt_of_final hrun id s.maxRetries)]
  rfl

/-! ## Two bills -/

/-- The log of a single entity is its visit. -/
theorem of_forall₂_singleton {R : Entity → List Event → Prop} {e : Entity}
    {visits : List (List Event)} (h : List.Forall₂ R [e] visits) : R e visits.flatten := by
  obtain ⟨visit, rest, hvisit, hrest, rfl⟩ := List.forall₂_cons_left_iff.mp h
  rwa [List.forall₂_nil_left_iff.mp hrest, List.flatten_singleton]

def deafHost : CommandLine.Host (StateM Unit) where
  read _ := pure none
  write _ _ := pure false
  transport _ := pure .dropped

def ones : List Int := List.replicate Cypher.vectorDimensions 1

def onesHost : CommandLine.Host (StateM Unit) where
  read _ := pure none
  write _ _ := pure false
  transport _ := pure (.answered 200 (vectorBody ones))

/-- With the default settings, every text has the vector of ones there. -/
theorem embed_onesHost (text : String) (state : Unit) :
    ((EmbeddingBackend.lenient onesHost.transport {}).embed text).run state =
      (.ok (some (ones.map Binary.ofInt)), state) := by
  have haddress : (Http.Address.ofText? (EmbeddingSettings.message {} text).url).isSome = true := by
    show (Http.Address.ofText? (Http.baseAddress "http://localhost:11434" ++ _)).isSome = true
    decide +kernel
  obtain ⟨address, haddress⟩ := Option.isSome_iff_exists.mp haddress
  have hsend : (Http.send onesHost.transport (EmbeddingSettings.message {} text)).run state =
      (.answered 200 (vectorBody ones), state) := by
    unfold Http.send
    rw [haddress]
    rfl
  have hbounds : ∀ i ∈ ones, -(2 ^ 63 : Int) ≤ i ∧ i < 2 ^ 64 := by
    intro i hi
    rw [List.eq_of_mem_replicate hi]
    decide
  have houtcome := outcome_vectorBody (s := {}) hbounds (by decide) List.length_replicate
  rw [EmbeddingBackend.run_lenient, run_fetch_of_outcome hsend houtcome]
  rfl

def plainBill : String := "\x7b\"entity_type\":\"Bill\",\"properties\":\x7b\"title\":\"t\"\x7d\x7d"

def vectorBill : String :=
  "\x7b\"entity_type\":\"Bill\",\"embedding\":[0.5],\"properties\":\x7b\"title\":\"t\"\x7d\x7d"

def billVector : Property where
  name := embeddingProperty
  type := .standard .vector
  description := "Semantic embedding vector for similarity search"

theorem vectorProperty?_bill : Congressional.bill.vectorProperty? = some billVector := by
  decide

theorem placed_bill {e : Entity} (h : e.type = "Bill") :
    Placed Congressional.ontology e Congressional.bill := by
  rw [Placed, h]
  decide +kernel

/-- With the default settings, what is stored for a bill without a vector is right: the vector that
the service answers, of as many components as the schema declares. -/
theorem plainBill_fits :
    ∃ l, CommandLine.buildLoader onesHost {} Congressional.ontology = .ok l ∧
      Traces (l.observed.loadLines onesHost.faultOf plainBill) fun _ events =>
        FitsIndex Congressional.ontology Congressional.bill billVector events ∧
        ∃ fields, storedFields? events = some fields ∧
          Fields.get? billVector.name fields =
            some (PropertyValue.vectorJson (ones.map Binary.ofInt)) := by
  obtain ⟨l, hbuilt, hbackend⟩ : ∃ l, CommandLine.buildLoader onesHost {} Congressional.ontology =
      .ok l ∧ l.backend = some (.lenient onesHost.transport {}) := ⟨_, rfl, rfl⟩
  refine ⟨l, hbuilt, ?_⟩
  obtain ⟨hloads, hdeclared⟩ := loadLines_vectors hbuilt onesHost.faultOf plainBill
  have hread : (entitiesOf plainBill).map (fun e => (e.type, e.embedding)) =
      [("Bill", none)] := by
    decide +kernel
  obtain ⟨e, hentities, he⟩ := List.map_eq_singleton_iff.mp hread
  simp only [Prod.mk.injEq] at he
  obtain ⟨htype, hnone⟩ := he
  rw [hentities] at hloads
  have hanswers := gets_answer hbackend fun text state => by rw [embed_onesHost]
  refine (hloads.and (hanswers.loadLines onesHost.faultOf plainBill)).mono ?_
  rintro _ events ⟨⟨visits, hevents, hvisits⟩, hanswered⟩
  obtain ⟨hvisit, hright⟩ := of_forall₂_singleton hvisits
  rw [← hevents] at hvisit hright
  have hplaced : Placed l.ontology e Congressional.bill :=
    (gets_sized_of_buildLoader hbuilt).1 ▸ placed_bill htype
  have hwanted : l.WantsVector Congressional.bill e :=
    ⟨hnone, by rw [vectorProperty?_bill]; rfl, by rw [hbackend]; rfl⟩
  obtain ⟨hfits, -⟩ := hright _ (placed_bill htype) _ vectorProperty?_bill
  obtain ⟨answer, others, rfl⟩ := hvisit.exists_embedded hplaced hwanted
  obtain rfl := hanswered _ List.mem_cons_self _ _ rfl
  obtain ⟨id, hfields⟩ := hvisit.stores hplaced
  refine ⟨hfits.mpr (.inr ⟨hnone, fun n hn => (hdeclared _ _ n hn).symm⟩), _, hfields, ?_⟩
  rw [get?_nodeProperties_vector vectorProperty?_bill (by decide), hnone]
  rfl

/-- Without any backend, the vector of the other bill is stored as it is, though the schema declares
other dimensions. -/
theorem vectorBill_not_fits :
    ∃ l, CommandLine.buildLoader deafHost { embeddingBackend := "none" } Congressional.ontology =
        .ok l ∧
      Traces (l.observed.loadLines deafHost.faultOf vectorBill) fun _ events =>
        (∃ fields, storedFields? events = some fields ∧
          Fields.get? billVector.name fields =
            some (PropertyValue.vectorJson [Confidence.unknown])) ∧
        answeredVector? events = none ∧
        Declares Congressional.ontology Congressional.bill billVector 384 ∧
        ¬ FitsIndex Congressional.ontology Congressional.bill billVector events := by
  refine ⟨_, rfl, ?_⟩
  have hread : (entitiesOf vectorBill).map (fun e => (e.type, e.embedding)) =
      [("Bill", some [Confidence.unknown])] := by
    decide +kernel
  obtain ⟨e, hentities, he⟩ := List.map_eq_singleton_iff.mp hread
  simp only [Prod.mk.injEq] at he
  obtain ⟨htype, hvector⟩ := he
  unfold loadLines
  rw [hentities]
  refine Traces.bind (traces_loadEntities _ [e]) ?_
  rintro _ _ ⟨visits, rfl, hvisits, -⟩
  have hvisit := of_forall₂_singleton hvisits
  refine Traces.pure ?_
  rw [List.append_nil]
  obtain ⟨id, hfields⟩ := hvisit.stores (placed_bill htype)
  have hstored := get?_nodeProperties_vector vectorProperty?_bill (by decide) e
    (answeredVector? visits.flatten) id
  rw [hvector, Option.some_or] at hstored
  have hanswered : answeredVector? visits.flatten = none := by
    cases h : answeredVector? visits.flatten with
    | none => rfl
    | some vector =>
      rw [hvisit.embedding_eq_none h] at hvector
      cases hvector
  refine ⟨⟨_, hfields, hstored⟩, hanswered, ?_, fun hfits => ?_⟩
  · exact Cypher.declares_of_hasVectorIndex (by decide) (by decide) ⟨rfl, by decide, rfl⟩
  · obtain ⟨⟨vector, hvector', -⟩, -⟩ := hfits _ _ hfields hstored
    rw [hanswered] at hvector'
    cases hvector'

end Loader

end Ontograph
