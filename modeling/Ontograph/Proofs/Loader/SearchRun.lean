/-
Ontograph.Proofs.Loader.SearchRun — how a search runs.

A search goes through its targets in their order and sends one statement for
each, until it comes to a name that cannot be quoted or to a statement that
fails. `Searched` has one case for each way this goes on, `SemanticRun` one for
each way a search ends before it comes so far; the loader runs in just these
ways (`traces_searchEach_searched`, `traces_semanticSearch_run`). What is to be
known of searches follows from the cases.
-/
import Ontograph.Proofs.Cypher.VectorIndex
import Ontograph.Proofs.Loader.Statement
import Ontograph.Proofs.Observation

namespace Ontograph.Loader

open Cypher (vectorIndexOn)

variable {σ : Type}

/-! ## Targets -/

def searchOf (target : NodeType × Property) (limit : Nat) (vector : Embedding) : Statement :=
  .search (quoted target.1.name) (vectorIndexOn target.1 target.2).name limit vector

/-- A type whose name can be quoted has a statement that searches it. -/
theorem searchStatement_of_quotable {target : NodeType × Property}
    (h : isQuotable target.1.name = true) (limit : Nat) (vector : Embedding) :
    searchStatement target.1 target.2 limit vector = .ok (searchOf target limit vector) := by
  rw [searchStatement, quotedName_of_quotable h]
  rfl

theorem searchStatement_of_not_quotable {target : NodeType × Property}
    (h : isQuotable target.1.name = false) (limit : Nat) (vector : Embedding) :
    searchStatement target.1 target.2 limit vector = .error (.invalidLabel target.1.name) := by
  rw [searchStatement, quotedName_of_not_quotable h]

def hitsOf (target : NodeType × Property) (records : List Record) : List SearchHit :=
  records.filterMap (SearchHit.ofRecord? target.1.name target.2.name)

/-- The outcome of a search and the events of it: one target after another. -/
inductive Searched (limit : Nat) (vector : Embedding) :
    List (NodeType × Property) → Except LoadError (List SearchHit) → List Event → Prop where
  | done : Searched limit vector [] (.ok []) []
  | refused {target rest} (h : isQuotable target.1.name = false) :
    Searched limit vector (target :: rest)
      (.error (.validation (.invalidLabel target.1.name))) []
  | failed {target rest error} (h : isQuotable target.1.name = true) :
    Searched limit vector (target :: rest) (.error (.graph error))
      [(searchOf target limit vector).event (.error error)]
  | answered {target rest records outcome events} (h : isQuotable target.1.name = true)
      (hrest : Searched limit vector rest outcome events) :
    Searched limit vector (target :: rest) (outcome.map (hitsOf target records ++ ·))
      ((searchOf target limit vector).event (.ok records) :: events)

/-- Targets are searched one after another. -/
theorem traces_searchEach_searched (l : Loader (StateM σ)) (limit : Nat) (vector : Embedding)
    (targets : List (NodeType × Property)) :
    Traces (l.observed.searchEach limit vector targets) (Searched limit vector targets) := by
  induction targets with
  | nil => exact Traces.pure .done
  | cons target rest ih =>
    unfold searchEach
    cases hname : isQuotable target.1.name with
    | false =>
      rw [searchStatement_of_not_quotable hname]
      exact Traces.pure (.refused hname)
    | true =>
      rw [searchStatement_of_quotable hname]
      refine Traces.bind (traces_send l (searchOf target limit vector)) ?_
      rintro answer _ rfl
      cases answer with
      | error error => exact Traces.pure (.failed hname)
      | ok records =>
        refine Traces.bind ih fun outcome events hrest => ?_
        have hanswered : Searched limit vector (target :: rest)
            (outcome.map (hitsOf target records ++ ·))
            ([(searchOf target limit vector).event (.ok records)] ++ (events ++ [])) := by
          rw [List.append_nil]
          exact .answered hname hrest
        cases outcome with
        | error error => exact Traces.pure hanswered
        | ok hits => exact Traces.pure hanswered

/-! ## Searches -/

/-- The outcome of a search by a text and the events of it. -/
inductive SemanticRun (l : Loader (StateM σ)) (query : String) (type : Option String)
    (limit : Nat) : Except LoadError (List SearchHit) → List Event → Prop where
  | idle (h : Text.isBlankText query = true ∨ limit = 0 ∨ l.backend = none ∨
      searchTargets l.ontology type = .ok []) : SemanticRun l query type limit (.ok []) []
  | unknown {error} (h : searchTargets l.ontology type = .error error) :
    SemanticRun l query type limit (.error (.validation error)) []
  | withoutVector : SemanticRun l query type limit (.ok [])
      [.embedded (Text.trim query) (.ok none)]
  | failed {error} : SemanticRun l query type limit (.error (.embedding error))
      [.embedded (Text.trim query) (.error error)]
  | searched {targets vector outcome events} (h : searchTargets l.ontology type = .ok targets)
      (hrun : Searched limit vector targets outcome events) :
    SemanticRun l query type limit (outcome.map (SearchHit.best limit))
      (.embedded (Text.trim query) (.ok (some vector)) :: events)

/-- A search embeds its text and then searches its targets. -/
theorem traces_semanticSearch_run (l : Loader (StateM σ)) (query : String)
    (type : Option String) (limit : Nat) :
    Traces (l.observed.semanticSearch query type limit) (SemanticRun l query type limit) := by
  unfold semanticSearch
  split
  · rename_i hidle
    have hidle : Text.isBlankText query = true ∨ limit = 0 := by simpa using hidle
    exact Traces.pure (.idle (hidle.imp_right .inl))
  rw [show l.observed.backend = l.backend.map EmbeddingBackend.observed from rfl,
    show l.observed.ontology = l.ontology from rfl]
  cases hbackend : l.backend with
  | none => exact Traces.pure (.idle (.inr (.inr (.inl hbackend))))
  | some backend =>
    cases htargets : searchTargets l.ontology type with
    | error error => exact Traces.pure (.unknown htargets)
    | ok targets =>
      cases targets with
      | nil => exact Traces.pure (.idle (.inr (.inr (.inr htargets))))
      | cons first rest =>
        refine Traces.bind (traces_embed backend (Text.trim query)) ?_
        rintro answer _ rfl
        match answer with
        | .error error => exact Traces.pure .failed
        | .ok none => exact Traces.pure .withoutVector
        | .ok (some vector) =>
          refine Traces.bind (traces_searchEach_searched l limit vector (first :: rest)) ?_
          intro outcome events hrun
          have hsearched : SemanticRun l query type limit (outcome.map (SearchHit.best limit))
              ([.embedded (Text.trim query) (.ok (some vector))] ++ (events ++ [])) := by
            rw [List.append_nil]
            exact .searched htargets hrun
          cases outcome with
          | error error => exact Traces.pure hsearched
          | ok hits => exact Traces.pure hsearched

end Ontograph.Loader
