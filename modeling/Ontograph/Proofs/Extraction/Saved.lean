/-
Ontograph.Proofs.Extraction.Saved — entities that are saved before they are
loaded.

Extraction takes a completion apart by its own rules and leaves out what does
not fit; a saved entity is read by the decoder of records. The values that
extraction makes are those that JSON values stand for, its annotation holds
texts only and its confidence is finite, so what it makes comes back from its
text as long as its numbers do (`ofText?_of_entity?`).

A compact text is one line that is not blank and does not end in a carriage
return. A file with one entity on each line is therefore read entity by entity,
without a complaint, and loaded like the batch (`loadLines_of_filledLines`).
Whether extracted entities are loaded at once or saved in between is then the
same program, with the same statements, answers and report
(`ingest_eq_saveAndLoad`).
-/
import Ontograph.Extraction.Basic
import Ontograph.Proofs.Entity.Confidence
import Ontograph.Proofs.Entity.Document
import Ontograph.Proofs.Loader.Balance

namespace Ontograph

open Json (Plain)

/-! ## Extracted entities -/

namespace Extraction

theorem plain_toolJson (depth : Nat) (tool : QueryTool) : Plain (depth + 2) (toolJson tool) := by
  have hparameters : Plain (depth + 1)
      (.object (tool.parameters.entries.map fun p => (p.1, .string p.2))) := by
    refine Json.plain_object ?_ fun e he => ?_
    · rw [Fields.keys, List.map_map]
      exact tool.parameters.distinct
    · obtain ⟨p, -, rfl⟩ := List.mem_map.mp he
      exact Json.plain_string depth p.2
  exact Json.plain_object (by simp [Fields.keys]) (by simp [hparameters])

theorem plain_annotation (depth : Nat) (o : Ontology) (node : NodeType) :
    Plain (depth + 4) <| annotation o node := by
  have hcontext : Plain (depth + 3) (.object [("@vocab", .string LinkedData.schemaNamespace),
      ("mcp", .string LinkedData.toolNamespace), ("kg", .string LinkedData.graphNamespace)]) :=
    Json.plain_object (by simp [Fields.keys]) (by simp)
  have htools : Plain (depth + 3) (.array (node.queryTools.map toolJson)) := by
    refine Json.plain_array fun item hitem => ?_
    obtain ⟨tool, -, rfl⟩ := List.mem_map.mp hitem
    exact plain_toolJson depth tool
  unfold annotation
  split
  · exact Json.plain_object (by simp [Fields.keys]) (by simp [hcontext])
  · exact Json.plain_object (by simp [Fields.keys]) (by simp [hcontext, htools])

theorem decoded_itemProperties (fields : Fields) : (itemProperties fields).Decoded := by
  unfold itemProperties
  split
  · exact Properties.decoded_ofFields _
  · exact Properties.decoded_empty

theorem decoded_itemRelationships {fields : Fields} :
    ∀ r ∈ itemRelationships fields, r.properties.Decoded := by
  intro r hr
  unfold itemRelationships at hr
  split at hr
  · obtain ⟨j, -, hj⟩ := List.mem_filterMap.mp hr
    exact RelationshipRef.decoded_of_ofShape? hj
  · exact absurd hr List.not_mem_nil

theorem inUnit_itemConfidence (fields : Fields) :
    Confidence.InUnit (itemConfidence fields) := by
  unfold itemConfidence
  split
  · exact Confidence.inUnit_clamp _
  · exact Confidence.inUnit_unknown

/-- An entity that was extracted can be written as a line. -/
theorem textual_of_entity? {o : Ontology} {item : Json} {e : Entity}
    (h : entity? o item = some e) : e.Textual ∧ e.confidence.isFinite = true := by
  simp only [entity?, Option.bind_eq_bind, Option.bind_eq_some_iff, Option.pure_def] at h
  obtain ⟨fields, -, _, -, _, -, node, -, he⟩ := h
  cases he
  exact ⟨⟨decoded_itemProperties fields, decoded_itemRelationships, plain_annotation 122 o node,
    rfl⟩, (inUnit_itemConfidence fields).finite⟩

end Extraction

namespace Entity

/-- Every number that was decoded into the properties of an entity or of its relationships is
finite. -/
structure HasFiniteNumbers (e : Entity) : Prop where
  doubles : ∀ x ∈ e.doubles, x.isFinite = true
  singles : ∀ x ∈ e.singles, x.isFinite = true

/-- Every finite number of an entity is read back from its text. -/
structure KeepsNumbers (e : Entity) : Prop where
  doubles : ∀ x ∈ e.doubles, x.isFinite = true → Json.KeepsDouble x
  singles : ∀ x ∈ e.singles, x.isFinite = true → Json.KeepsSingle x
  confidence : e.confidence.isFinite = true → Json.KeepsSingle e.confidence

end Entity

namespace Extraction

/-- An extracted entity comes back from its text. -/
theorem ofText?_of_entity? {o : Ontology} {item : Json} {e : Entity} (h : entity? o item = some e)
    (hfinite : e.HasFiniteNumbers) (hkept : e.KeepsNumbers) :
    Entity.ofText? e.toJson.compact = some e := by
  obtain ⟨htextual, hconfidence⟩ := textual_of_entity? h
  exact Entity.ofText?_compact htextual
    (fun x hx => hkept.doubles x hx (hfinite.doubles x hx))
    (fun x hx => hkept.singles x hx (hfinite.singles x hx)) (hkept.confidence hconfidence)

theorem exists_item_of_mem_entities {o : Ontology} {completion : String} {e : Entity}
    (h : e ∈ entities o completion) : ∃ item, entity? o item = some e := by
  unfold entities at h
  split at h
  · obtain ⟨item, -, hitem⟩ := List.mem_filterMap.mp h
    exact ⟨item, hitem⟩
  · exact absurd h List.not_mem_nil

/-! ## Saved entities -/

/-- Entities as a file, the compact text of one on each line. -/
def saved (es : List Entity) : String := Text.closed (es.map fun e => e.toJson.compact)

/-- An entity is saved on one line. -/
theorem isLine_compact (e : Entity) : Text.IsLine e.toJson.compact where
  feedFree := Json.feedFree_compact _
  last := by
    rw [Entity.toJson, Json.compact, String.toList_append, List.getLast?_append]
    simp

theorem isBlankText_compact (e : Entity) : Text.isBlankText e.toJson.compact = false := by
  rw [Entity.toJson, Json.compact, Text.isBlankText, String.append_assoc, String.toList_append,
    List.all_append]
  rfl

end Extraction

namespace Loader

variable {m : Type → Type} [Monad m] [LawfulMonad m]

open Extraction (saved)

/-- The filled lines of what was saved are the entities, one by one. -/
theorem filledLines_saved (es : List Entity) :
    filledLines (saved es) = es.map fun e => e.toJson.compact := by
  rw [filledLines, saved, Text.lines_closed]
  · refine List.filter_eq_self.mpr fun line hline => ?_
    obtain ⟨e, -, rfl⟩ := List.mem_map.mp hline
    rw [Extraction.isBlankText_compact]
    rfl
  · intro line hline
    obtain ⟨e, -, rfl⟩ := List.mem_map.mp hline
    exact Extraction.isLine_compact e

/-- Entities that come back from their texts are loaded like any batch from a file that has the text
of one on each line that is not blank. -/
theorem loadLines_of_filledLines (l : Loader m) (faultOf : String → String) {es : List Entity}
    (h : ∀ e ∈ es, Entity.ofText? e.toJson.compact = some e) {file : String}
    (hfile : filledLines file = es.map fun e => e.toJson.compact) :
    l.loadLines faultOf file = l.loadEntities es := by
  have hread : (es.filterMap fun e => Entity.ofText? e.toJson.compact) = es :=
    (List.filterMap_congr h).trans List.filterMap_some
  have hentities : entitiesOf file = es := by
    rw [(readings file).entities_eq, hfile, List.filterMap_map, Function.comp_def]
    exact hread
  have hreadable : ∀ line ∈ filledLines file, (Entity.ofText? line).isNone = false := by
    rw [hfile, List.forall_mem_map]
    exact fun e he => by rw [h e he, Option.isNone_some]
  have hrejected : rejectionsOf faultOf file = [] := by
    rw [rejectionsOf_eq, rejectedLines, List.map_eq_nil_iff, List.filter_eq_nil_iff]
    intro entry hentry
    rw [← map_snd_entityLines, List.forall_mem_map] at hreadable
    rw [hreadable entry hentry]
    exact Bool.false_ne_true
  rw [loadLines, hentities, hrejected]
  exact bind_pure _

theorem loadEntities_nil (l : Loader m) : l.loadEntities [] = pure {} := by
  simp only [loadEntities, loadEach, pure_bind]
  rfl

end Loader

/-! ## Both ways -/

/-- A completion all of whose decoded numbers are finite and are read back from their texts. -/
def Extraction.Keeps (o : Ontology) (completion : String) : Prop :=
  ∀ e ∈ Extraction.entities o completion, e.HasFiniteNumbers ∧ e.KeepsNumbers

namespace Extractor

variable {m : Type → Type} [Monad m]

open Extraction (entities saved Keeps)

/-- Extracts the entities of a text, saves them and loads what was saved. -/
def saveAndLoad (x : Extractor m) (l : Loader m) (faultOf : String → String) (text : String) :
    m (Except CompletionError LoadReport) := do
  match ← x.extract text with
  | .error error => pure (.error error)
  | .ok es => pure (.ok (← l.loadLines faultOf (saved es)))

variable [LawfulMonad m]

/-- Extracted entities are loaded like any batch from a file of their texts. -/
theorem loadLines_entities (l : Loader m) (faultOf : String → String) {o : Ontology}
    {completion : String} (h : Keeps o completion) {file : String}
    (hfile : Loader.filledLines file = (entities o completion).map fun e => e.toJson.compact) :
    l.loadLines faultOf file = l.loadEntities (entities o completion) := by
  refine l.loadLines_of_filledLines faultOf (fun e he => ?_) hfile
  obtain ⟨item, hitem⟩ := Extraction.exists_item_of_mem_entities he
  exact Extraction.ofText?_of_entity? hitem (h e he).1 (h e he).2

/-- **Saved entities are loaded like extracted ones.** Whatever the completion, if its numbers are
finite and read back from their texts, a file with the text of one of its entities on each line is
loaded like the entities themselves. So to save what was extracted from a text and to load the file
is the same program as to load it at once, in any monad: whatever the service answers, an error or
such a completion, the same is sent in the same order, and the outcome is the same. -/
theorem ingest_eq_saveAndLoad (x : Extractor m) (l : Loader m) (faultOf : String → String) :
    (∀ (completion file : String), Keeps x.ontology completion →
      Loader.filledLines file =
        (entities x.ontology completion).map (fun e => e.toJson.compact) →
      l.loadLines faultOf file = l.loadEntities (entities x.ontology completion)) ∧
    ∀ (text : String)
      (answer : m (Except CompletionError { completion // Keeps x.ontology completion })),
      x.backend.complete (Extraction.prompt x.ontology text) =
        Except.map Subtype.val <$> answer →
      x.ingest l text = x.saveAndLoad l faultOf text := by
  refine ⟨fun completion file hkeeps => loadLines_entities l faultOf hkeeps,
    fun text answer hanswer => ?_⟩
  simp only [ingest, saveAndLoad, extract, hanswer, map_eq_pure_bind, bind_assoc]
  refine bind_congr fun outcome => ?_
  cases outcome with
  | error e => simp [Except.map]
  | ok completion =>
    obtain ⟨completion, hkeeps⟩ := completion
    have hsaved := loadLines_entities l faultOf hkeeps (Loader.filledLines_saved _)
    simp only [Except.map, pure_bind, hsaved]
    -- an empty batch is not loaded at all, with the report that it would have
    cases entities x.ontology completion with
    | nil => simp [Loader.loadEntities_nil]
    | cons e es => simp

def billCompletion : String :=
  "[\x7b\"type\":\"Bill\",\"properties\":\x7b\"n\":0.1,\"v\":[2,0.3]\x7d,\"confidence\":0.9\x7d]"

/-- An extractor of bills, with a service that counts its calls and always answers the same. -/
def billExtractor : Extractor (StateM Nat) where
  ontology := ({ domain := "library", version := "1" } : Ontology).registerNode { name := "Bill" }
  backend :=
    { name := "fixed"
      complete := fun _ => do
        modify (· + 1)
        pure (.ok billCompletion) }

/-- The two numbers of the bill come back from their texts. -/
theorem keeps_bill : Keeps billExtractor.ontology billCompletion := by
  have hnumbers : ∀ e ∈ entities billExtractor.ontology billCompletion,
      (∀ x ∈ e.doubles, x.isFinite = true ∧ Json.KeepsDouble x) ∧
        (∀ x ∈ e.singles, x.isFinite = true ∧ Json.KeepsSingle x) ∧
        Json.KeepsSingle e.confidence := by
    decide +kernel
  intro e he
  obtain ⟨hdoubles, hsingles, hconfidence⟩ := hnumbers e he
  exact ⟨⟨fun x hx => (hdoubles x hx).1, fun x hx => (hsingles x hx).1⟩,
    fun x hx _ => (hdoubles x hx).2, fun x hx _ => (hsingles x hx).2, fun _ => hconfidence⟩

def billLoader : Loader (StateM Nat) where
  ontology := billExtractor.ontology
  session :=
    { run := fun _ _ => do
        let n ← getModify (· + 1)
        pure (if n % 2 = 0 then .error .http else .ok []) }

/-- Loading the bill directly and through a file comes to the same. -/
theorem ingest_bill :
    (entities billExtractor.ontology billCompletion).length = 1 ∧
      ∀ faultOf text, billExtractor.ingest billLoader text =
        billExtractor.saveAndLoad billLoader faultOf text := by
  refine ⟨by decide +kernel, fun faultOf text => ?_⟩
  obtain ⟨-, hpipelines⟩ := ingest_eq_saveAndLoad billExtractor billLoader faultOf
  refine hpipelines text ?_ ?_
  · exact do
      modify (· + 1)
      pure (.ok ⟨billCompletion, keeps_bill⟩)
  · rfl

end Extractor

end Ontograph
