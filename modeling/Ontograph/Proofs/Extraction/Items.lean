/-
Ontograph.Proofs.Extraction.Items — what extraction makes of a completion.

A completion is any text. If it holds items, each of them is looked at by
itself: an object whose type is registered becomes an entity, whatever else is
in it (`entity?_eq_some_iff`), and `Extracted` says which. So the entities are
those of the items that are kept, in their order (`entities_of_items`), and two
lists of items give what each of them gives.

Only the service can fail, and then nothing is loaded (`ingest_eq`). What was
extracted has a registered type, so that a loader of the same ontology never
finds a type that it does not know; with that, `extraction_tolerates` has the
whole.
-/
import Ontograph.Proofs.Extraction.Saved
import Ontograph.Proofs.Loader.Refusals

namespace Ontograph

namespace Extraction

/-! ## Items -/

def itemType? (item : Json) : Option String := (item.field? "type").bind Json.string?

def isKept (o : Ontology) (item : Json) : Bool := (itemType? item).any o.nodes.contains

/-- What an entity has of the item that it was extracted from: the type, those of the properties and
relationships that can be decoded, and a confidence between zero and one. What does not have the
expected form counts as absent, each field by itself and each relationship by itself. -/
structure Extracted (o : Ontology) (item : Json) (e : Entity) : Prop where
  type : itemType? item = some e.type
  registered : ∃ node, o.nodeType? e.type = some node
  properties : e.properties =
    (((item.field? "properties").bind Json.object?).map Properties.ofFields).getD .empty
  relationships : e.relationships =
    (((item.field? "relationships").bind Json.array?).getD []).filterMap fun j =>
      RelationshipRef.ofShape? Json.depthLimit j.shape
  confidence : Confidence.InUnit e.confidence
  domain : e.domain = o.domain
  embedding : e.embedding = none

/-- Properties are what can be decoded of an object; without one there are none. -/
theorem itemProperties_eq (fields : Fields) : itemProperties fields =
    (((Fields.get? "properties" fields).bind Json.object?).map Properties.ofFields).getD
      .empty := by
  unfold itemProperties
  cases (Fields.get? "properties" fields).bind Json.object? <;> rfl

/-- Of the relationships of an item those are left out that have not the form of one. -/
theorem itemRelationships_eq (fields : Fields) : itemRelationships fields =
    (((Fields.get? "relationships" fields).bind Json.array?).getD []).filterMap fun j =>
      RelationshipRef.ofShape? Json.depthLimit j.shape := by
  unfold itemRelationships
  cases (Fields.get? "relationships" fields).bind Json.array? <;> rfl

theorem extracted_of_entity? {o : Ontology} {item : Json} {e : Entity}
    (h : entity? o item = some e) : Extracted o item e := by
  simp only [entity?, Option.bind_eq_bind, Option.bind_eq_some_iff, Option.pure_def] at h
  obtain ⟨fields, hitem, value, hvalue, type, htype, node, hnode, he⟩ := h
  cases item <;> cases hitem
  cases he
  have hname : node.name = type := Registry.name_of_find? hnode
  refine ⟨?_, ⟨node, hname ▸ hnode⟩, itemProperties_eq fields, itemRelationships_eq fields,
    inUnit_itemConfidence fields, rfl, rfl⟩
  show (Fields.get? "type" fields).bind Json.string? = some node.name
  rw [hvalue, Option.bind_some, htype, hname]

/-- An item is extracted exactly if it is an object that gives a registered type. -/
theorem isSome_entity? (o : Ontology) (item : Json) : (entity? o item).isSome = isKept o item := by
  cases item with
  | object fields =>
    have hentity : (entity? o (.object fields)).isSome =
        (((Fields.get? "type" fields).bind Json.string?).bind o.nodeType?).isSome := by
      simp only [entity?, Json.object?, Option.bind_eq_bind, Option.bind_some, Option.pure_def]
      cases hvalue : Fields.get? "type" fields with
      | none => rfl
      | some value =>
        cases htype : value.string? with
        | none => simp [htype]
        | some type => cases hnode : o.nodeType? type <;> simp [htype, hnode]
    rw [hentity, isKept, itemType?, Json.field?]
    cases (Fields.get? "type" fields).bind Json.string? <;> rfl
  | null | bool | int | double | single | string | array => rfl

/-! ## Completions -/

/-- The entities of items are those of the items that are kept, one for each and in their order. -/
theorem forall₂_extracted (o : Ontology) (items : List Json) :
    List.Forall₂ (Extracted o) (items.filter (isKept o)) (items.filterMap (entity? o)) := by
  induction items with
  | nil => exact .nil
  | cons item rest ih =>
    have hkept := isSome_entity? o item
    cases hentity : entity? o item with
    | none =>
      rw [hentity, Option.isSome_none] at hkept
      rw [List.filter_cons_of_neg (by simp [← hkept]), List.filterMap_cons_none hentity]
      exact ih
    | some e =>
      rw [hentity, Option.isSome_some] at hkept
      rw [List.filter_cons_of_pos hkept.symm, List.filterMap_cons_some hentity]
      exact .cons (extracted_of_entity? hentity) ih

/-- The items of a completion give an entity each, or are left out, one by one. -/
theorem entities_of_items {o : Ontology} {completion : String} {items : List Json}
    (h : items? completion = some items) :
    entities o completion = items.filterMap (entity? o) := by
  unfold entities
  rw [h]

theorem entities_of_no_items {o : Ontology} {completion : String} (h : items? completion = none) :
    entities o completion = [] := by
  unfold entities
  rw [h]

/-- The type of every entity is in the ontology. -/
theorem registered_of_mem_entities {o : Ontology} {completion : String} {e : Entity}
    (h : e ∈ entities o completion) : ∃ node, o.nodeType? e.type = some node := by
  obtain ⟨item, hitem⟩ := exists_item_of_mem_entities h
  exact (extracted_of_entity? hitem).registered

end Extraction

/-! ## Extractors -/

namespace Extractor

open Extraction (Extracted entities isKept items? prompt)
open Loader (Recognized)

section
variable {m : Type → Type} [Monad m] [LawfulMonad m]

/-- Extraction fails with the service and not otherwise. -/
theorem extract_eq (x : Extractor m) (text : String) :
    x.extract text =
      Except.map (entities x.ontology) <$> x.backend.complete (prompt x.ontology text) := by
  rw [extract, map_eq_pure_bind]
  refine bind_congr fun answer => ?_
  cases answer <;> rfl

/-- What was extracted is loaded, if the service answered. -/
theorem ingest_eq (x : Extractor m) (l : Loader m) (text : String) :
    x.ingest l text = (do
      match ← x.backend.complete (prompt x.ontology text) with
      | .error error => pure (.error error)
      | .ok completion => Except.ok <$> l.loadEntities (entities x.ontology completion)) := by
  rw [ingest, extract, bind_assoc]
  refine bind_congr fun answer => ?_
  cases answer with
  | error error => simp
  | ok completion =>
    simp only [pure_bind]
    -- an empty batch is not loaded at all, with the report that it would have
    cases entities x.ontology completion with
    | nil => simp [Loader.loadEntities_nil]
    | cons e es => exact (map_eq_pure_bind ..).symm

end

variable {σ : Type}

def observed (x : Extractor (StateM σ)) : Extractor (Observed σ) where
  ontology := x.ontology
  backend := { name := x.backend.name, complete := fun text => liftM (x.backend.complete text) }

/-- What does not know of the log leaves it alone. -/
theorem traces_lift {α : Type} (x : StateM σ α) :
    Traces (liftM x : Observed σ α) fun _ events => events = [] := by
  intro log s
  exact ⟨_, [], _, by rw [List.append_nil]; rfl, rfl⟩

/-- If a text cannot be completed, nothing is sent. -/
theorem traces_ingest_error (x : Extractor (StateM σ)) (l : Loader (StateM σ)) (text : String) :
    Traces (x.observed.ingest l.observed text) fun outcome events =>
      ∀ error, outcome = .error error → events = [] := by
  rw [ingest_eq]
  refine Traces.bind (traces_lift (x.backend.complete (prompt x.ontology text))) ?_
  rintro answer _ rfl
  cases answer with
  | error error => exact Traces.pure fun _ _ => rfl
  | ok completion =>
    show Traces (Except.ok <$> l.observed.loadEntities _) _
    rw [Loader.loadEntities, map_eq_pure_bind, bind_assoc]
    refine Traces.bind (l.traces_loadEach _) fun outcomes events _ => ?_
    rw [pure_bind]
    exact Traces.pure fun error herror => by cases herror

/-- **Any completion will do.** Extraction fails with the service and not otherwise; then ingestion
fails as well and sends nothing. If a completion holds items, just those that are objects of a
registered type become entities, one each and in their order, so that more items give more entities
behind the others; if it holds none, there are none. A loader of the same ontology has one outcome
for each extracted entity, and never the one that its type is not known. -/
theorem extraction_tolerates (x : Extractor (StateM σ)) (l : Loader (StateM σ)) (text : String) :
    x.extract text =
        Except.map (entities x.ontology) <$> x.backend.complete (prompt x.ontology text) ∧
      (∀ completion, items? completion = none → entities x.ontology completion = []) ∧
      (∀ completion items, items? completion = some items →
        List.Forall₂ (Extracted x.ontology) (items.filter (isKept x.ontology))
          (entities x.ontology completion)) ∧
      (∀ first second whole xs ys, items? first = some xs → items? second = some ys →
        items? whole = some (xs ++ ys) → entities x.ontology whole =
          entities x.ontology first ++ entities x.ontology second) ∧
      x.ingest l text = (do
        match ← x.backend.complete (prompt x.ontology text) with
        | .error error => pure (.error error)
        | .ok completion => Except.ok <$> l.loadEntities (entities x.ontology completion)) ∧
      Traces (x.observed.ingest l.observed text)
        (fun outcome events => ∀ error, outcome = .error error → events = []) ∧
      (l.ontology = x.ontology → ∀ completion,
        Traces (l.observed.loadEntities (entities x.ontology completion)) fun report _ =>
          ∃ outcomes, report = LoadReport.ofOutcomes outcomes ∧
            List.Forall₂ Recognized (entities x.ontology completion) outcomes) := by
  refine ⟨extract_eq x text, fun _ => Extraction.entities_of_no_items,
    fun completion items hitems => ?_, fun first second whole xs ys hxs hys hwhole => ?_,
    ingest_eq x l text, traces_ingest_error x l text, fun hsame completion => ?_⟩
  · rw [Extraction.entities_of_items hitems]
    exact Extraction.forall₂_extracted x.ontology items
  · rw [Extraction.entities_of_items hxs, Extraction.entities_of_items hys,
      Extraction.entities_of_items hwhole, List.filterMap_append]
  · refine l.traces_loadEntities_recognized fun e he => ?_
    rw [hsame]
    exact Extraction.registered_of_mem_entities he

/-- A number, an object of no registered type, and a bill with a confidence of seven and with two
relationships, of which one has nothing in it. -/
def mixedCompletion : String :=
  "[1,\x7b\"type\":\"Ghost\"\x7d,\x7b\"type\":\"Bill\",\"confidence\":7,\"relationships\":[" ++
    "\x7b\x7d,\x7b\"target_type\":\"Bill\",\"target_id\":\"b2\"," ++
    "\"relationship_type\":\"CITES\"\x7d]\x7d]"

/-- One bill is left of them, and a text without items gives none. -/
theorem bill_extracted :
    entities billExtractor.ontology "none" = [] ∧
      (∃ items, items? mixedCompletion = some items ∧ items.length = 3 ∧
        List.Forall₂ (Extracted billExtractor.ontology)
          (items.filter (isKept billExtractor.ontology))
          (entities billExtractor.ontology mixedCompletion)) ∧
      ((entities billExtractor.ontology mixedCompletion).map fun e =>
        (e.type, e.relationships.map RelationshipRef.targetId, e.confidence)) =
          [("Bill", ["b2"], Confidence.certain)] ∧
      Traces (billLoader.observed.loadEntities (entities billExtractor.ontology mixedCompletion))
        (fun report _ => ∃ outcomes, report = LoadReport.ofOutcomes outcomes ∧
          List.Forall₂ Recognized (entities billExtractor.ontology mixedCompletion) outcomes) := by
  obtain ⟨-, hnone, hitems, -, -, -, hknown⟩ := extraction_tolerates billExtractor billLoader ""
  have hempty : (items? "none").isNone = true := by decide +kernel
  have hread : (items? mixedCompletion).map (fun items => (items.length,
      (items.filterMap (Extraction.entity? billExtractor.ontology)).map fun e =>
        (e.type, e.relationships.map RelationshipRef.targetId, e.confidence))) =
          some (3, [("Bill", ["b2"], Confidence.certain)]) := by
    decide +kernel
  obtain ⟨items, hsome, hresult⟩ := Option.map_eq_some_iff.mp hread
  obtain ⟨hlength, hbill⟩ := Prod.mk.inj hresult
  refine ⟨hnone _ (Option.isNone_iff_eq_none.mp hempty),
    ⟨items, hsome, hlength, hitems mixedCompletion items hsome⟩, ?_, hknown rfl mixedCompletion⟩
  rw [Extraction.entities_of_items hsome]
  exact hbill

end Extractor

end Ontograph
