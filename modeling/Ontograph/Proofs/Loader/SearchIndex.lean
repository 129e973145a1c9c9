/-
Ontograph.Proofs.Loader.SearchIndex — which indexes a search goes to.

A search of a node type names the vector index on the first of its properties
that is of type vector, whatever else that property is. The script creates the
index of such a property only if the property has neither a range index nor a
fulltext index, and no name with a line feed comes through the script. So a
search may name an index that does not exist; `semanticSearch_indexes` says
exactly when, and `searched_index_not_created` is a case of it.
-/
import Ontograph.Proofs.Loader.Schema
import Ontograph.Proofs.Loader.SearchRun

namespace Ontograph.Loader

open Cypher (Creates FeedFreeNames vectorIndexOn)

variable {σ : Type}

/-! ## What is sent -/

/-- Every statement of a search is for one of its targets. -/
theorem Searched.targets {limit : Nat} {vector : Embedding} {targets : List (NodeType × Property)}
    {outcome : Except LoadError (List SearchHit)} {events : List Event}
    (h : Searched limit vector targets outcome events) :
    ∀ event ∈ events, ∃ target ∈ targets, ∃ answer,
      event = (searchOf target limit vector).event answer := by
  induction h with
  | done => simp
  | refused => simp
  | @failed target rest error _ =>
    rw [List.forall_mem_singleton]
    exact ⟨target, List.mem_cons_self, .error error, rfl⟩
  | @answered target rest records outcome events _ _ ih =>
    refine List.forall_mem_cons.mpr
      ⟨⟨target, List.mem_cons_self, .ok records, rfl⟩, fun event hevent => ?_⟩
    obtain ⟨other, hother, hanswer⟩ := ih event hevent
    exact ⟨other, List.mem_cons_of_mem _ hother, hanswer⟩

/-- A target is a registered type, with its first property of type vector. -/
def IsTarget (o : Ontology) (target : NodeType × Property) : Prop :=
  target.1 ∈ o.nodeTypes ∧ target.1.vectorProperty? = some target.2

theorem isTarget_of_withVector {o : Ontology} {nodes : List NodeType}
    (hnodes : ∀ node ∈ nodes, node ∈ o.nodeTypes) {target : NodeType × Property}
    (h : target ∈ nodes.filterMap fun node => node.vectorProperty?.map (node, ·)) :
    IsTarget o target := by
  obtain ⟨node, hnode, hmap⟩ := List.mem_filterMap.mp h
  obtain ⟨p, hp, rfl⟩ := Option.map_eq_some_iff.mp hmap
  exact ⟨hnodes node hnode, hp⟩

/-- What is selected for a search are targets. -/
theorem isTarget_of_searchTargets {o : Ontology} {type : Option String}
    {targets : List (NodeType × Property)} (h : searchTargets o type = .ok targets) :
    ∀ target ∈ targets, IsTarget o target := by
  intro target htarget
  unfold searchTargets at h
  split at h
  · cases h
    exact isTarget_of_withVector (fun node hnode => hnode) htarget
  · split at h
    · cases h
    · rename_i node hfind
      cases h
      refine isTarget_of_withVector (fun n hn => ?_) htarget
      rw [List.mem_singleton.mp hn]
      exact List.mem_of_find?_eq_some hfind

/-- All statements among some events search targets. -/
def SearchesTargets (o : Ontology) (limit : Nat) (events : List Event) : Prop :=
  ∀ text params answer, .sent text params answer ∈ events →
    ∃ target vector, IsTarget o target ∧
      (searchOf target limit vector).query = text ∧
      .object (searchOf target limit vector).params = params

theorem SearchesTargets.after_embedded {o : Ontology} {limit : Nat} {text : String}
    {answer : Except EmbeddingError (Option Embedding)} {events : List Event}
    (h : SearchesTargets o limit events) :
    SearchesTargets o limit (.embedded text answer :: events) := by
  intro text params answer hmem
  rcases List.mem_cons.mp hmem with heq | hmem
  · cases heq
  · exact h text params answer hmem

/-- Every statement of a search is for a target, whatever the session answers. -/
theorem traces_semanticSearch (l : Loader (StateM σ)) (query : String) (type : Option String)
    (limit : Nat) :
    Traces (l.observed.semanticSearch query type limit) fun _ events =>
      SearchesTargets l.ontology limit events := by
  have hnothing : SearchesTargets l.ontology limit [] :=
    fun text params answer hmem => absurd hmem List.not_mem_nil
  refine (traces_semanticSearch_run l query type limit).mono fun outcome events hrun => ?_
  cases hrun with
  | idle => exact hnothing
  | unknown => exact hnothing
  | withoutVector => exact hnothing.after_embedded
  | failed => exact hnothing.after_embedded
  | @searched targets vector result events htargets hsearched =>
    have hall : SearchesTargets l.ontology limit events := by
      intro text params answer hmem
      obtain ⟨target, htarget, answer', heq⟩ := hsearched.targets _ hmem
      cases heq
      exact ⟨target, vector, isTarget_of_searchTargets htargets target htarget, rfl, rfl⟩
    exact hall.after_embedded

/-! ## What is searched -/

/-- **Which indexes are searched.** Every search of a type names the vector index on its first
property of type vector. Among the statements that are sent for the schema there is one that creates
this index exactly if the property is not indexed (or is unique) and has no fulltext index, for
names without line feeds; there is none if the name of the type or of the property has one. -/
theorem semanticSearch_indexes (l : Loader (StateM σ)) (hvalid : l.ontology.validate = .ok ())
    (query : String) (type : Option String) (limit : Nat) :
    Traces l.observed.applySchema (Applied (Cypher.statements (Cypher.script l.ontology))) ∧
      Traces (l.observed.semanticSearch query type limit) fun _ events =>
        ∀ text params answer, .sent text params answer ∈ events →
          ∃ node ∈ l.ontology.nodeTypes, ∃ p, node.vectorProperty? = some p ∧
            text = Statement.searchText (quoted node.name) ∧
            params.field? "index_name" = some (.string (vectorIndexOn node p).name) ∧
            (FeedFreeNames l.ontology →
              (Creates l.ontology (vectorIndexOn node p) ↔
                ¬ (p.indexed = true ∧ p.unique = false) ∧ p.fulltext = false)) ∧
            (¬ (Text.FeedFree node.name ∧ Text.FeedFree p.name) →
              ¬ Creates l.ontology (vectorIndexOn node p)) := by
  refine ⟨traces_sendEach l _, (traces_semanticSearch l query type limit).mono ?_⟩
  intro outcome events hevents text params answer hmem
  obtain ⟨⟨node, p⟩, vector, ⟨hnode, hp⟩, rfl, rfl⟩ := hevents text params answer hmem
  refine ⟨node, hnode, p, hp, rfl, rfl, fun hfree => ?_,
    fun hfeed => Cypher.not_creates_of_feed l.ontology hfeed⟩
  have hvector : p.type.isVector = true := by
    have h := List.find?_some hp
    exact h
  rw [Cypher.creates_iff hvalid hfree hnode (List.mem_of_find?_eq_some hp), Cypher.HasVectorIndex]
  exact and_iff_right hvector

/-! ## A type with vectors -/

def documents (indexed : Bool) : Ontology :=
  ({ domain := "library", version := "1" } : Ontology).registerNode {
    name := "Doc"
    properties := [{ name := "embedding", type := .standard .vector, indexed }] }

/-- A loader for them, with a session that answers nothing and a backend that has one vector. -/
def documentLoader (indexed : Bool) : Loader (StateM Unit) where
  ontology := documents indexed
  session := { run := fun _ _ => pure (.ok []) }
  backend := some { name := "one", dimensions := 0, embed := fun _ => pure (.ok (some [])) }

theorem feedFreeNames_documents (indexed : Bool) : FeedFreeNames (documents indexed) := by
  cases indexed <;> exact ⟨by decide, by decide, by decide, by decide⟩

theorem documents_indexName :
    Cypher.indexName "Doc" "embedding" .vector = "doc_embedding_vector" := by
  decide +kernel

/-- If the property is not indexed, whatever is searched is there. -/
theorem searched_index_created :
    (documents false).validate = .ok () ∧
      Traces ((documentLoader false).observed.semanticSearch "fish" none 5) fun _ events =>
        ∀ text params answer, .sent text params answer ∈ events →
          params.field? "index_name" = some (.string "doc_embedding_vector") ∧
            Creates (documents false)
              { name := "doc_embedding_vector", type := "Doc", property := "embedding" } := by
  have hvalid : (documents false).validate = .ok () := by decide
  obtain ⟨-, hsearch⟩ := semanticSearch_indexes (documentLoader false) hvalid "fish" none 5
  refine ⟨hvalid, hsearch.mono fun _ events h text params answer hmem => ?_⟩
  obtain ⟨node, hnode, p, hp, -, hname, hcreates, -⟩ := h text params answer hmem
  obtain rfl : node = _ := List.mem_singleton.mp hnode
  cases hp
  have hindex := (hcreates (feedFreeNames_documents false)).mpr ⟨by decide, rfl⟩
  simp only [vectorIndexOn, documents_indexName] at hname hindex
  exact ⟨hname, hindex⟩

/-- If it is indexed, a search names an index that no statement creates. -/
theorem searched_index_not_created :
    (documents true).validate = .ok () ∧
      ((((documentLoader true).observed.semanticSearch "fish" none 5).run []).run ()).1.2 =
        [.embedded "fish" (.ok (some [])),
          (Statement.search "`Doc`" "doc_embedding_vector" 5 []).event (.ok [])] ∧
      ∀ text ∈ Cypher.statements (Cypher.script (documents true)),
        Cypher.vectorIndex? text = none := by
  refine ⟨by decide, ?_, fun text htext => ?_⟩
  · have hlabel : quotedName "Doc" = .ok "`Doc`" :=
      (quotedName_of_quotable (by decide)).trans (congrArg Except.ok (by decide +kernel))
    have hwanted : ¬ (Text.isBlankText "fish" || (5 : Nat) = 0) = true := by decide
    have htrim : Text.trim "fish" = "fish" := by decide +kernel
    unfold semanticSearch
    rw [if_neg hwanted, htrim]
    simp only [documentLoader, Loader.observed, Option.map_some]
    rw [show searchTargets (documents true) none = .ok [(_, _)] from rfl]
    simp only [searchEach, searchStatement, hlabel, documents_indexName]
    rfl
  · rw [Cypher.statements_script (feedFreeNames_documents true)] at htext
    cases hindex : Cypher.vectorIndex? text with
    | none => rfl
    | some index =>
      obtain ⟨node, hnode, p, hp, hhas, -⟩ := Cypher.vectorIndex?_schemaTexts htext hindex
      obtain rfl : node = _ := List.mem_singleton.mp hnode
      obtain rfl : p = _ := List.mem_singleton.mp hp
      exact absurd hhas.2.1 (by decide)

end Ontograph.Loader
