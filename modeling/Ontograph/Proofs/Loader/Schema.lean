/-
Ontograph.Proofs.Loader.Schema — how a schema is applied.

The statements of an ontology are sent one after another until one fails;
`Applied` says what that leaves in the log. Together with the reading of the
script (`Cypher.statements_script`) this is the whole of `applySchema`: what is
sent is the list of the ontology's statements, or the part of it up to the
first that fails.

Ontologies with the same types give rise to the same list, whatever their
domains and versions, exactly as long as these are harmless in the script's
header (`applySchema_sends_same_iff`). A version with a line feed in it need
not be: what follows the line feed is sent (`applySchema_sends_version`).
-/
import Mathlib.Data.List.Forall2
import Ontograph.Proofs.Observation
import Ontograph.Proofs.Cypher.Schema
import Ontograph.Proofs.Cypher.Header

namespace Ontograph.Loader

variable {σ : Type}

def bareEvent (text : String) (answer : Except GraphError (List Record)) : Event :=
  .sent text (.object []) answer

/-- Each of some texts was sent once, in order, and none failed. -/
def AllSent (texts : List String) (events : List Event) : Prop :=
  List.Forall₂ (fun text event => ∃ records, event = bareEvent text (.ok records)) texts events

/-- Some texts were sent, in order: all of them, and their number is the outcome; or those up to the
first that failed, and its failure is the outcome. -/
inductive Applied (texts : List String) : Except GraphError Nat → List Event → Prop where
  | completed {events : List Event} (h : AllSent texts events) :
      Applied texts (.ok texts.length) events
  | stopped {done rest : List String} {text : String} {events : List Event}
      (htexts : texts = done ++ text :: rest) (hdone : AllSent done events) (error : GraphError) :
      Applied texts (.error error) (events ++ [bareEvent text (.error error)])

/-- Texts are sent in order, up to the first failure. -/
theorem traces_sendEach (l : Loader (StateM σ)) (texts : List String) :
    Traces (l.observed.sendEach texts) (Applied texts) := by
  induction texts with
  | nil => exact Traces.pure (.completed .nil)
  | cons text rest ih =>
    refine Traces.bind (traces_run l.session text (.object [])) ?_
    rintro answer _ rfl
    cases answer with
    | error error =>
      have hstopped : Applied (text :: rest) (.error error)
          ([] ++ [bareEvent text (.error error)]) :=
        .stopped (List.nil_append _).symm .nil error
      exact Traces.pure hstopped
    | ok records =>
      refine Traces.bind ih fun outcome events happlied => ?_
      cases happlied with
      | completed hall =>
        have hcompleted : Applied (text :: rest) (.ok (rest.length + 1)) _ :=
          .completed (.cons ⟨records, rfl⟩ hall)
        exact Traces.pure (by simpa [bareEvent] using hcompleted)
      | stopped htexts hdone error =>
        have hstopped : Applied (text :: rest) (.error error) _ :=
          .stopped (congrArg (text :: ·) htexts) (.cons ⟨records, rfl⟩ hdone) error
        exact Traces.pure (by simpa [bareEvent] using hstopped)

/-- What is applied are the statements of the script. -/
theorem applySchema_eq {l : Loader (StateM σ)} {texts : List String}
    (h : Cypher.statements (Cypher.script l.ontology) = texts) :
    l.observed.applySchema = l.observed.sendEach texts := by
  rw [← h]
  rfl

/-- **Applying a schema.** If no name of the ontology holds a line feed, its script is read as the
list of its statements, and these are sent in order until one fails. -/
theorem applySchema_sends (l : Loader (StateM σ)) (h : Cypher.FeedFreeNames l.ontology) :
    Cypher.statements (Cypher.script l.ontology) = Cypher.schemaTexts l.ontology ∧
      Traces l.observed.applySchema (Applied (Cypher.schemaTexts l.ontology)) := by
  have hscript := Cypher.statements_script h
  refine ⟨hscript, ?_⟩
  rw [← hscript]
  exact traces_sendEach l _

/-- An ontology with the characters in its names that scripts are read by. -/
def oddlyNamed : Ontology :=
  ({ domain := "a;b", version := "// 1" } : Ontology).registerNode {
    name := "Bill; //"
    properties := [
      { name := "x`;", type := .standard .string, unique := true, indexed := true },
      { name := "//", type := .standard .text, required := true, fulltext := true }] }

def oddLoader : Loader (StateM Unit) where
  ontology := oddlyNamed
  session := { run := fun _ _ => pure (.ok []) }

/-- The statements of a script with the characters in its names that scripts are read by. -/
theorem applySchema_sends_oddLoader :
    Cypher.FeedFreeNames oddLoader.ontology ∧
      Cypher.statements (Cypher.script oddLoader.ontology) =
        ["CREATE CONSTRAINT `bill; //_x``;_unique` IF NOT EXISTS " ++
            "FOR (n:`Bill; //`) REQUIRE n.`x``;` IS UNIQUE",
          "CREATE CONSTRAINT `bill; //_//_exists` IF NOT EXISTS " ++
            "FOR (n:`Bill; //`) REQUIRE n.`//` IS NOT NULL",
          "CREATE FULLTEXT INDEX `bill; //_//_fulltext` IF NOT EXISTS " ++
            "FOR (n:`Bill; //`) ON EACH [n.`//`]"] ∧
      Traces oddLoader.observed.applySchema (Applied (Cypher.schemaTexts oddlyNamed)) := by
  have hfree : Cypher.FeedFreeNames oddLoader.ontology :=
    ⟨by decide, by decide, by decide, by decide⟩
  obtain ⟨hscript, hsent⟩ := applySchema_sends oddLoader hfree
  exact ⟨hfree, hscript.trans (by decide +kernel), hsent⟩

/-! ## Domains and versions -/

/-- **The same types, the same statements.** Beside an ontology with a harmless header, another with
the same types has the same statements exactly if its header is harmless too; it is if neither its
domain nor its version holds a line feed. Descriptions are in no statement at all. -/
theorem applySchema_sends_same_iff {σ' : Type} (l : Loader (StateM σ)) (l' : Loader (StateM σ'))
    (hnodes : l'.ontology.nodeTypes = l.ontology.nodeTypes)
    (hrelationships : l'.ontology.relationshipTypes = l.ontology.relationshipTypes)
    (h : Cypher.HarmlessHeader l.ontology) :
    Traces l.observed.applySchema
        (Applied (Cypher.statements (Cypher.script l.ontology))) ∧
      Traces l'.observed.applySchema
        (Applied (Cypher.statements (Cypher.script l'.ontology))) ∧
      (Cypher.statements (Cypher.script l'.ontology) =
          Cypher.statements (Cypher.script l.ontology) ↔
        Cypher.HarmlessHeader l'.ontology) ∧
      (Text.FeedFree l'.ontology.domain → Text.FeedFree l'.ontology.version →
        Cypher.HarmlessHeader l'.ontology) := by
  have hbody : Cypher.statements (Cypher.script l.ontology) =
      Cypher.bodyStatements l'.ontology.nodeTypes l'.ontology.relationshipTypes := by
    rw [hnodes, hrelationships]
    exact (Cypher.statements_script_eq_iff l.ontology).mpr h
  refine ⟨traces_sendEach l _, traces_sendEach l' _, ?_, Cypher.harmlessHeader_of_feedFree⟩
  rw [hbody, Cypher.statements_script_eq_iff]

/-- The types of the oddly named ontology under a domain and a version of two lines each. -/
def renamed : Ontology :=
  { oddlyNamed with domain := "a;b\n // second", version := "2\n", description := "\nx;" }

def renamedLoader : Loader (StateM Bool) where
  ontology := renamed
  session := { run := fun _ _ refuses =>
    (if refuses then .error (.query "Refused" "") else .ok [], !refuses) }

/-- A domain of two lines that does no harm. -/
theorem applySchema_sends_same_renamed :
    renamed.nodeTypes = oddlyNamed.nodeTypes ∧
      renamed.relationshipTypes = oddlyNamed.relationshipTypes ∧
      Cypher.HarmlessHeader oddlyNamed ∧ Cypher.HarmlessHeader renamed ∧
      ¬ Text.FeedFree renamed.domain ∧
      Traces renamedLoader.observed.applySchema
        (Applied (Cypher.statements (Cypher.script oddlyNamed))) := by
  have hharmless : Cypher.HarmlessHeader oddlyNamed := by decide
  have hrenamed : Cypher.HarmlessHeader renamed := by decide
  obtain ⟨-, hsent, hsame, -⟩ :=
    applySchema_sends_same_iff oddLoader renamedLoader rfl rfl hharmless
  refine ⟨rfl, rfl, hharmless, hrenamed, by decide, ?_⟩
  have htexts : Cypher.statements (Cypher.script renamed) =
      Cypher.statements (Cypher.script oddlyNamed) := hsame.mpr hrenamed
  exact htexts ▸ hsent

def bareLoader (version : String) : Loader (StateM Unit) where
  ontology := { domain := "library", version }
  session := { run := fun _ _ => pure (.ok []) }

/-- Of two accepted ontologies that differ in the version only, one has no statements. The other has
a line feed in its version; what follows is a line of the script, and it is sent. -/
theorem applySchema_sends_version :
    (bareLoader "1").ontology.validate = .ok () ∧
      (bareLoader "1\nDROP DATABASE neo4j;").ontology.validate = .ok () ∧
      (bareLoader "1\nDROP DATABASE neo4j;").ontology =
        { (bareLoader "1").ontology with version := "1\nDROP DATABASE neo4j;" } ∧
      (bareLoader "1").observed.applySchema.run [] () = ((.ok 0, []), ()) ∧
      (bareLoader "1\nDROP DATABASE neo4j;").observed.applySchema.run [] () =
        ((.ok 1, [bareEvent "DROP DATABASE neo4j" (.ok [])]), ()) := by
  have hnone : Cypher.statements (Cypher.script (bareLoader "1").ontology) = [] := by
    rw [Cypher.statements, Cypher.statementsOf_script]
    decide
  have hone : Cypher.statements (Cypher.script (bareLoader "1\nDROP DATABASE neo4j;").ontology) =
      ["DROP DATABASE neo4j"] := by
    rw [Cypher.statements, Cypher.statementsOf_script]
    decide
  refine ⟨by decide, by decide, rfl, ?_, ?_⟩
  · rw [applySchema_eq hnone]
    rfl
  · rw [applySchema_eq hone]
    rfl

end Ontograph.Loader
