/-
Ontograph.Proofs.Loader.Refusals — what is refused for a label.

A name goes into a statement between quotes, and one that is blank or holds the
quote itself is refused with everything that needs it. `validate` accepts the
quote in a name, and it does not look at additional labels at all. An accepted
ontology may therefore have a type whose entities are never written; and a
search of all types ends at the first type with such a name, whatever the
others would answer.

The lemmas give the first refused name as what is found in a list of names, for
a node (`placement_eq_error_iff`), for a relationship
(`edgeStatement_eq_error_iff`) and for a search, where it is the first target
that is not answered (`Searched.refused_iff`). `labels_refused` puts them
together. They also say what is not among the failures: a batch of registered
types has none that a type is not known (`traces_loadEntities_recognized`).
-/
import Ontograph.Proofs.Loader.Batch
import Ontograph.Proofs.Loader.SearchIndex
import Ontograph.Proofs.Registry

namespace Ontograph

/-! ## Refused names -/

def holdsQuote (name : String) : Bool := name.toList.contains labelQuote

theorem isQuotable_eq (name : String) :
    isQuotable name = !(Text.isBlankText name || holdsQuote name) := by
  rw [isQuotable, holdsQuote, Bool.not_or]

def refused? (names : List String) : Option String := names.find? (!isQuotable ·)

/-- Names are refused exactly for the first of them that is refused. -/
theorem quotedNames_eq_error_iff {names : List String} {error : ValidationError} :
    quotedNames names = .error error ↔
      ∃ name, refused? names = some name ∧ error = .invalidLabel name := by
  induction names with
  | nil => simp [quotedNames, refused?]
  | cons name rest ih =>
    cases hname : isQuotable name with
    | false =>
      simp [quotedNames, refused?, quotedName_of_not_quotable hname, hname, eq_comm]
    | true =>
      have hrest : refused? (name :: rest) = refused? rest := by simp [refused?, hname]
      rw [hrest, ← ih, quotedNames, quotedName_of_quotable hname]
      cases quotedNames rest <;> simp

/-- If none is blank, a name is refused for a quote in it. -/
theorem refused?_of_not_blank {names : List String}
    (h : ∀ name ∈ names, Text.isBlankText name = false) :
    refused? names = names.find? holdsQuote := by
  induction names with
  | nil => rfl
  | cons name rest ih =>
    rw [List.forall_mem_cons] at h
    have hrest := ih h.2
    rw [refused?] at hrest ⊢
    rw [List.find?_cons, List.find?_cons, isQuotable_eq, h.1, Bool.false_or, Bool.not_not, hrest]

/-- Whether a failure is that the type of an entity is not in the ontology. -/
def LoadError.isUnknownType : LoadError → Bool
  | validation (.unknownEntityType _) => true
  | _ => false

theorem LoadError.isUnknownType_iff {error : LoadError} :
    error.isUnknownType = true ↔ ∃ type, error = .validation (.unknownEntityType type) := by
  unfold isUnknownType
  split <;> simp_all

namespace Loader

variable {σ : Type}

/-! ## Nodes -/

/-- An entity of a registered type is refused exactly for the first of its labels that is refused.
-/
theorem placement_eq_error_iff {o : Ontology} {e : Entity} {node : NodeType}
    (hnode : o.nodeType? e.type = some node) {error : ValidationError} :
    placement o e = .error error ↔
      ∃ label, refused? node.labels = some label ∧ error = .invalidLabel label := by
  rw [← quotedNames_eq_error_iff]
  simp only [placement, hnode]
  cases quotedNames node.labels <;> simp

/-- Validation fails before anything is sent, and nothing that is answered fails so. -/
theorem traces_loadEntity_refusal (l : Loader (StateM σ)) (e : Entity) :
    Traces (l.observed.loadEntity e) fun outcome events =>
      (∀ error, outcome.1 = .error (.validation error) ↔ placement l.ontology e = .error error) ∧
        ((∃ error, placement l.ontology e = .error error) → events = []) := by
  unfold loadEntity
  rw [show l.observed.ontology = l.ontology from rfl]
  cases hplacement : placement l.ontology e with
  | error error => exact Traces.pure (by simp)
  | ok p =>
    refine Traces.bind (traces_withEmbedding l p.node e) fun e' asked _ => ?_
    refine Traces.bind (traces_send l (p.statement e')) fun answer sent _ => Traces.pure ?_
    have houtcome (error : ValidationError) : p.outcome e' answer ≠ .error (.validation error) := by
      unfold Placement.outcome
      split
      · simp
      · split <;> simp
    simp [houtcome]

/-- The label for which the entities of a type are refused: its name for a quote in it, or else the
first additional label that is blank or holds one. -/
def refusedLabel? (node : NodeType) : Option String :=
  if holdsQuote node.name then some node.name
  else node.additionalLabels.find? fun label => Text.isBlankText label || holdsQuote label

theorem refused?_labels {node : NodeType} (h : Text.isBlankText node.name = false) :
    refused? node.labels = refusedLabel? node := by
  simp only [refused?, NodeType.labels, refusedLabel?, isQuotable_eq, Bool.not_not]
  rw [List.find?_cons, h, Bool.false_or]
  cases holdsQuote node.name <;> rfl

/-! ## Relationships -/

/-- A relationship is refused for its kind, or else for one of its three names. -/
theorem edgeStatement_eq_error_iff {registry : List String} {sourceType sourceId : String}
    {ref : RelationshipRef} {error : ValidationError} :
    edgeStatement registry sourceType sourceId ref = .error error ↔
      (accepts registry ref.kind = false ∧ error = .unknownRelationshipType ref.kind) ∨
        (accepts registry ref.kind = true ∧
          ∃ label, refused? [sourceType, ref.targetType, ref.kind] = some label ∧
            error = .invalidLabel label) := by
  rw [← quotedNames_eq_error_iff]
  cases haccepts : accepts registry ref.kind with
  | false => simp [edgeStatement, haccepts, eq_comm]
  | true =>
    -- both take the names in the same order and stop at the first that is refused
    simp only [edgeStatement, haccepts, if_true, quotedNames, bind, Except.bind, pure, Except.pure]
    cases quotedName sourceType with
    | error => simp
    | ok source =>
      cases quotedName ref.targetType with
      | error => simp
      | ok target => cases quotedName ref.kind <;> simp

/-- A relationship is refused for a name only if its kind is accepted. -/
theorem edgeStatement_invalidLabel_iff {registry : List String} {sourceType sourceId : String}
    {ref : RelationshipRef} {label : String} :
    edgeStatement registry sourceType sourceId ref = .error (.invalidLabel label) ↔
      accepts registry ref.kind = true ∧
        refused? [sourceType, ref.targetType, ref.kind] = some label := by
  simp [edgeStatement_eq_error_iff]

/-- Loading a relationship is refused as its statement is, and then nothing is sent. -/
theorem traces_loadRelationship_refusal (l : Loader (StateM σ)) (sourceType sourceId : String)
    (ref : RelationshipRef) :
    Traces (l.observed.loadRelationship sourceType sourceId ref) fun outcome events =>
      (∀ error, outcome = .error (.validation error) ↔
          edgeStatement l.registry sourceType sourceId ref = .error error) ∧
        ((∃ error, edgeStatement l.registry sourceType sourceId ref = .error error) →
          events = []) := by
  unfold loadRelationship
  rw [show l.observed.registry = l.registry from rfl]
  cases hstatement : edgeStatement l.registry sourceType sourceId ref with
  | error error => exact Traces.pure (by simp)
  | ok s =>
    refine Traces.bind (traces_send l s) fun answer sent _ => Traces.pure ?_
    have houtcome (error : ValidationError) :
        edgeOutcome sourceType sourceId ref answer ≠ .error (.validation error) := by
      unfold edgeOutcome
      split <;> simp
    simp [houtcome]

/-! ## Batches of registered types -/

theorem edgeStatement_ne_unknownType {registry : List String} {sourceType sourceId : String}
    {ref : RelationshipRef} {type : String} :
    edgeStatement registry sourceType sourceId ref ≠ .error (.unknownEntityType type) := by
  simp [edgeStatement_eq_error_iff]

theorem traces_loadRelationships_known (l : Loader (StateM σ)) (sourceType sourceId : String)
    (refs : List RelationshipRef) :
    Traces (l.observed.loadRelationships sourceType sourceId refs) fun outcomes _ =>
      ∀ error, .error error ∈ outcomes → error.isUnknownType = false := by
  induction refs with
  | nil => exact Traces.pure (by simp)
  | cons ref rest ih =>
    refine Traces.bind (traces_loadRelationship_refusal l sourceType sourceId ref) ?_
    intro outcome events hrefused
    refine Traces.bind ih fun outcomes more hrest => Traces.pure ?_
    intro error herror
    rcases List.mem_cons.mp herror with rfl | herror
    · by_contra hunknown
      obtain ⟨type, rfl⟩ := LoadError.isUnknownType_iff.mp (by simpa using hunknown)
      exact edgeStatement_ne_unknownType ((hrefused.1 _).mp rfl)
    · exact hrest error herror

/-- An entity of a registered type fails for other reasons than that its type is not known. -/
theorem traces_loadEntityWithRelationships_known (l : Loader (StateM σ)) {e : Entity}
    (h : ∃ node, l.ontology.nodeType? e.type = some node) :
    Traces (l.observed.loadEntityWithRelationships e) fun outcome _ =>
      ∀ error ∈ LoadReport.failures outcome, error.isUnknownType = false := by
  obtain ⟨node, hnode⟩ := h
  refine Traces.bind (traces_loadEntity_refusal l e) ?_
  rintro ⟨outcome, e'⟩ events ⟨hrefused, -⟩
  cases outcome with
  | error error =>
    refine Traces.pure ?_
    rw [LoadReport.failures, List.forall_mem_singleton]
    by_contra hunknown
    obtain ⟨type, rfl⟩ := LoadError.isUnknownType_iff.mp (by simpa using hunknown)
    obtain ⟨label, -, hlabel⟩ := (placement_eq_error_iff hnode).mp ((hrefused _).mp rfl)
    cases hlabel
  | ok id =>
    refine Traces.bind (traces_loadRelationships_known l e.type id e.relationships) ?_
    intro outcomes more houtcomes
    refine Traces.pure fun error herror => houtcomes error ?_
    obtain ⟨outcome, hmem, hfailed⟩ := List.mem_filterMap.mp herror
    cases outcome with
    | ok => cases hfailed
    | error error' =>
      cases hfailed
      exact hmem

/-- An outcome of an entity, under its type, with no failure that says that this type is not
known. -/
structure Recognized (e : Entity) (outcome : String × Except LoadError EntityLoad) : Prop where
  type : outcome.1 = e.type
  known : ∀ error ∈ LoadReport.failures outcome.2, error.isUnknownType = false

/-- If every type is registered, no outcome says that one is not known. -/
theorem traces_loadEach_recognized (l : Loader (StateM σ)) {es : List Entity}
    (h : ∀ e ∈ es, ∃ node, l.ontology.nodeType? e.type = some node) :
    Traces (l.observed.loadEach es) fun outcomes _ => List.Forall₂ Recognized es outcomes := by
  induction es with
  | nil => exact Traces.pure .nil
  | cons e rest ih =>
    rw [List.forall_mem_cons] at h
    refine Traces.bind (traces_loadEntityWithRelationships_known l h.1) fun outcome _ hfirst => ?_
    refine Traces.bind (ih h.2) fun outcomes _ hrest => Traces.pure ?_
    exact .cons ⟨rfl, hfirst⟩ hrest

/-- A batch of entities of registered types is reported on without a type that is not known. -/
theorem traces_loadEntities_recognized (l : Loader (StateM σ)) {es : List Entity}
    (h : ∀ e ∈ es, ∃ node, l.ontology.nodeType? e.type = some node) :
    Traces (l.observed.loadEntities es) fun report _ =>
      ∃ outcomes, report = LoadReport.ofOutcomes outcomes ∧ List.Forall₂ Recognized es outcomes :=
  Traces.bind (traces_loadEach_recognized l h) fun outcomes _ hrecognized =>
    Traces.pure ⟨outcomes, rfl, hrecognized⟩

/-! ## Searches -/

/-- A search of a target that was sent and answered. -/
def AnsweredBy (limit : Nat) (vector : Embedding) (target : NodeType × Property) (event : Event) :
    Prop :=
  ∃ records, event = (searchOf target limit vector).event (.ok records)

theorem map_eq_error_iff {ε α β : Type} {f : α → β} {outcome : Except ε α} {error : ε} :
    outcome.map f = .error error ↔ outcome = .error error := by
  cases outcome <;> simp [Except.map]

/-- A search is refused for a label exactly if it is the name of the first target that was not
searched, all before being answered. -/
theorem Searched.refused_iff {limit : Nat} {vector : Embedding}
    {targets : List (NodeType × Property)} {outcome : Except LoadError (List SearchHit)}
    {events : List Event} (h : Searched limit vector targets outcome events) {label : String} :
    outcome = .error (.validation (.invalidLabel label)) ↔
      ∃ before target rest, targets = before ++ target :: rest ∧
        List.Forall₂ (AnsweredBy limit vector) before events ∧
        isQuotable target.1.name = false ∧ target.1.name = label := by
  induction h with
  | done => simp
  | @refused target rest hname =>
    constructor
    · intro heq
      simp only [Except.error.injEq, LoadError.validation.injEq,
        ValidationError.invalidLabel.injEq] at heq
      exact ⟨[], target, rest, rfl, .nil, hname, heq⟩
    · rintro ⟨before, target', rest', htargets, hbefore, -, rfl⟩
      cases hbefore
      rw [List.nil_append, List.cons.injEq] at htargets
      rw [htargets.1]
  | @failed target rest error _ =>
    -- a search failed, and all in front of a refused target were answered
    refine iff_of_false (by simp) ?_
    rintro ⟨before, target', rest', htargets, hbefore, -⟩
    cases hbefore with
    | cons hevent =>
      obtain ⟨records, hevent⟩ := hevent
      exact absurd (Event.sent.inj hevent).2.2 (by simp)
  | @answered target rest records outcome events hname _ ih =>
    rw [map_eq_error_iff, ih]
    constructor
    · rintro ⟨before, target', rest', rfl, hbefore, hlast⟩
      exact ⟨target :: before, target', rest', rfl, .cons ⟨records, rfl⟩ hbefore, hlast⟩
    · rintro ⟨before, target', rest', htargets, hbefore, hlast⟩
      cases hbefore with
      | @cons first _ before _ _ hbefore =>
        rw [List.cons_append, List.cons.injEq] at htargets
        exact ⟨before, target', rest', htargets.2, hbefore, hlast⟩

/-- A search of some node types came to one that is refused: the text was embedded, and the types
before it were all answered. -/
def ComesTo (o : Ontology) (type : Option String) (limit : Nat) (label : String)
    (events : List Event) : Prop :=
  ∃ text vector before target rest sent,
    searchTargets o type = .ok (before ++ target :: rest) ∧
      events = .embedded text (.ok (some vector)) :: sent ∧
      List.Forall₂ (AnsweredBy limit vector) before sent ∧
      holdsQuote target.1.name = true ∧ target.1.name = label

/-- The name of a searched type is refused for a quote only. -/
theorem isQuotable_eq_of_isTarget {o : Ontology} (hvalid : o.validate = .ok ())
    {target : NodeType × Property} (h : IsTarget o target) :
    isQuotable target.1.name = !holdsQuote target.1.name := by
  rw [isQuotable_eq, Ontology.node_name_of_validate hvalid h.1, Bool.false_or]

/-- Selecting what to search refuses no label. -/
theorem searchTargets_ne_invalidLabel {o : Ontology} {type : Option String} {label : String} :
    searchTargets o type ≠ .error (.invalidLabel label) := by
  unfold searchTargets
  split
  · simp
  · split <;> simp

/-- A search is refused for a label exactly if it comes to a type whose name holds a quote. -/
theorem SemanticRun.refused_iff {l : Loader (StateM σ)} (hvalid : l.ontology.validate = .ok ())
    {query : String} {type : Option String} {limit : Nat}
    {outcome : Except LoadError (List SearchHit)} {events : List Event}
    (h : SemanticRun l query type limit outcome events) {label : String} :
    outcome = .error (.validation (.invalidLabel label)) ↔
      ComesTo l.ontology type limit label events := by
  cases h with
  | idle => exact iff_of_false (by simp) (by simp [ComesTo])
  | @unknown error hunknown =>
    refine iff_of_false (fun heq => ?_) (by simp [ComesTo])
    cases heq
    exact searchTargets_ne_invalidLabel hunknown
  | withoutVector => exact iff_of_false (by simp) (by simp [ComesTo])
  | failed => exact iff_of_false (by simp) (by simp [ComesTo])
  | @searched targets vector outcome events htargets hrun =>
    rw [map_eq_error_iff, hrun.refused_iff]
    constructor
    · rintro ⟨before, target, rest, rfl, hbefore, hname, hlabel⟩
      have htarget : IsTarget l.ontology target :=
        isTarget_of_searchTargets htargets target (by simp)
      rw [isQuotable_eq_of_isTarget hvalid htarget, Bool.not_eq_false'] at hname
      exact ⟨_, vector, before, target, rest, events, htargets, rfl, hbefore, hname, hlabel⟩
    · rintro ⟨text, vector', before, target, rest, sent, htargets', hevents, hbefore, hname, hlabel⟩
      obtain ⟨hembedded, rfl⟩ := List.cons.inj hevents
      cases hembedded
      cases htargets.symm.trans htargets'
      have htarget : IsTarget l.ontology target :=
        isTarget_of_searchTargets htargets' target (by simp)
      refine ⟨before, target, rest, rfl, hbefore, ?_, hlabel⟩
      rw [isQuotable_eq_of_isTarget hvalid htarget, hname]
      rfl

/-! ## Accepted ontologies -/

/-- In an accepted ontology, no registered node type has a blank name. -/
theorem node_type_not_blank {o : Ontology} (hvalid : o.validate = .ok ()) {key : String}
    (h : o.nodes.contains key = true) : Text.isBlankText key = false := by
  obtain ⟨node, hnode, rfl⟩ := Registry.exists_mem_of_contains h
  exact Ontology.node_name_of_validate hvalid hnode

theorem relationship_type_not_blank {o : Ontology} (hvalid : o.validate = .ok ()) {key : String}
    (h : o.relationships.contains key = true) : Text.isBlankText key = false := by
  obtain ⟨rel, hrel, rfl⟩ := Registry.exists_mem_of_contains h
  exact Ontology.relationship_name_of_validate hvalid hrel

/-- Something is refused for a label. -/
def Refuses {α : Type} (outcome : Except LoadError α) (label : String) : Prop :=
  outcome = .error (.validation (.invalidLabel label))

/-- **Which names cannot be used.** With an accepted ontology, an entity of a registered type is
refused for a label exactly if the type's name holds a quote or one of its additional labels is
blank or holds one, and then nothing is sent. A search is refused so exactly if it comes to a type
whose name holds a quote, of all types or of the one asked for. A relationship of a registered kind
between registered types is refused so exactly if its kind is accepted by the loader and one of the
three names holds a quote. -/
theorem labels_refused (l : Loader (StateM σ)) (hvalid : l.ontology.validate = .ok ()) :
    (∀ e node, l.ontology.nodeType? e.type = some node →
      Traces (l.observed.loadEntity e) fun outcome events =>
        (∀ label, Refuses outcome.1 label ↔ refusedLabel? node = some label) ∧
          (refusedLabel? node ≠ none → events = [])) ∧
      (∀ query type limit, Traces (l.observed.semanticSearch query type limit)
        fun outcome events =>
          ∀ label, Refuses outcome label ↔ ComesTo l.ontology type limit label events) ∧
      ∀ sourceType sourceId ref, l.ontology.nodes.contains sourceType →
        l.ontology.nodes.contains ref.targetType → l.ontology.relationships.contains ref.kind →
          Traces (l.observed.loadRelationship sourceType sourceId ref) fun outcome _ =>
            ∀ label, Refuses outcome label ↔ accepts l.registry ref.kind = true ∧
              [sourceType, ref.targetType, ref.kind].find? holdsQuote = some label := by
  refine ⟨fun e node hnode => ?_, fun query type limit => ?_,
    fun sourceType sourceId ref hsource htarget hkind => ?_⟩
  · have hname := Ontology.node_name_of_validate hvalid (List.mem_of_find?_eq_some hnode)
    have hplacement (error : ValidationError) : placement l.ontology e = .error error ↔
        ∃ label, refusedLabel? node = some label ∧ error = .invalidLabel label := by
      rw [placement_eq_error_iff hnode, refused?_labels hname]
    refine (traces_loadEntity_refusal l e).mono fun outcome events ⟨hrefused, hnothing⟩ => ?_
    refine ⟨fun label => ?_, fun hlabel => hnothing ?_⟩
    · rw [Refuses, hrefused, hplacement]
      simp
    · obtain ⟨label, hlabel⟩ := Option.ne_none_iff_exists'.mp hlabel
      exact ⟨_, (hplacement _).mpr ⟨label, hlabel, rfl⟩⟩
  · exact (traces_semanticSearch_run l query type limit).mono fun _ _ hrun _ =>
      hrun.refused_iff hvalid
  · have hnames : ∀ name ∈ [sourceType, ref.targetType, ref.kind],
        Text.isBlankText name = false := by
      simp only [List.forall_mem_cons]
      exact ⟨node_type_not_blank hvalid hsource, node_type_not_blank hvalid htarget,
        relationship_type_not_blank hvalid hkind, by simp⟩
    refine (traces_loadRelationship_refusal l sourceType sourceId ref).mono ?_
    rintro outcome events ⟨hrefused, -⟩ label
    rw [Refuses, hrefused, edgeStatement_invalidLabel_iff, refused?_of_not_blank hnames]

def citingNode (type : String) : NodeType where
  name := type
  properties := [{ name := "embedding", type := .standard .vector }]

def citing (type : String) : Ontology :=
  (({ domain := "library", version := "1" } : Ontology).registerNode
    (citingNode type)).registerRelationship { name := "CITES", source := type, target := type }

/-- A loader for it, with a session that answers nothing and a backend that has one vector. -/
def citingLoader (type : String) : Loader (StateM Unit) where
  ontology := citing type
  session := { run := fun _ _ => pure (.ok []) }
  backend := some { name := "one", dimensions := 0, embed := fun _ => pure (.ok (some [])) }

/-- Without a quote in a name nothing is refused for its label. -/
theorem bill_not_refused :
    (citing "Bill").validate = .ok () ∧
      Traces ((citingLoader "Bill").observed.loadEntity { type := "Bill" })
        (fun outcome _ => ∀ label, ¬ Refuses outcome.1 label) ∧
      Traces ((citingLoader "Bill").observed.semanticSearch "fish" none 5)
        (fun outcome _ => ∀ label, ¬ Refuses outcome label) ∧
      Traces ((citingLoader "Bill").observed.loadRelationship "Bill" "b1"
          { targetType := "Bill", targetId := "b2", kind := "CITES" })
        (fun outcome _ => ∀ label, ¬ Refuses outcome label) := by
  have hvalid : (citing "Bill").validate = .ok () := by decide
  obtain ⟨hentity, hsearch, hedge⟩ := labels_refused (citingLoader "Bill") hvalid
  refine ⟨hvalid, (hentity { type := "Bill" } (citingNode "Bill") rfl).mono ?_,
    (hsearch "fish" none 5).mono ?_,
    (hedge "Bill" "b1" { targetType := "Bill", targetId := "b2", kind := "CITES" } (by decide)
      (by decide) (by decide)).mono ?_⟩
  · rintro outcome events ⟨hrefused, -⟩ label hlabel
    have hnone : refusedLabel? (citingNode "Bill") = none := by decide
    cases hnone.symm.trans ((hrefused label).mp hlabel)
  · intro outcome events hrefused label hlabel
    obtain ⟨_, _, before, target, rest, _, htargets, _, _, hquote, -⟩ :=
      (hrefused label).mp hlabel
    have htarget := isTarget_of_searchTargets htargets target (by simp)
    rw [List.mem_singleton.mp htarget.1] at hquote
    exact absurd hquote (by decide)
  · intro outcome events hrefused label hlabel
    have hnone : ["Bill", "Bill", "CITES"].find? holdsQuote = none := by decide
    cases hnone.symm.trans ((hrefused label).mp hlabel).2

/-- The ontology is accepted, and nothing can be done with its type: no entity is written, no search
ends, and no relationship is written, for the quote in the type's name. -/
theorem quoted_bill_refused :
    (citing "Bill`s").validate = .ok () ∧
      ((((citingLoader "Bill`s").observed.loadEntity { type := "Bill`s" }).run []).run ()).1 =
        ((.error (.validation (.invalidLabel "Bill`s")), { type := "Bill`s" }), []) ∧
      ((((citingLoader "Bill`s").observed.semanticSearch "fish" none 5).run []).run ()).1 =
        (.error (.validation (.invalidLabel "Bill`s")), [.embedded "fish" (.ok (some []))]) ∧
      ((((citingLoader "Bill`s").observed.loadRelationship "Bill`s" "b1"
          { targetType := "Bill`s", targetId := "b2", kind := "CITES" }).run []).run ()).1 =
        (.error (.validation (.invalidLabel "Bill`s")), []) := by
  have hplacement : placement (citing "Bill`s") { type := "Bill`s" } =
      .error (.invalidLabel "Bill`s") :=
    (placement_eq_error_iff rfl).mpr ⟨"Bill`s", by decide, rfl⟩
  have hstatement : edgeStatement ["CITES"] "Bill`s" "b1"
      { targetType := "Bill`s", targetId := "b2", kind := "CITES" } =
        .error (.invalidLabel "Bill`s") :=
    edgeStatement_invalidLabel_iff.mpr ⟨by decide, by decide⟩
  have hwanted : ¬ (Text.isBlankText "fish" || (5 : Nat) = 0) = true := by decide
  have htrim : Text.trim "fish" = "fish" := by decide +kernel
  refine ⟨by decide, ?_, ?_, ?_⟩
  · rw [loadEntity, show (citingLoader "Bill`s").observed.ontology = citing "Bill`s" from rfl,
      hplacement]
    rfl
  · unfold semanticSearch
    rw [if_neg hwanted, htrim]
    simp only [citingLoader, Loader.observed, Option.map_some]
    rw [show searchTargets (citing "Bill`s") none = .ok [(_, _)] from rfl]
    simp only [searchEach, searchStatement]
    rfl
  · rw [loadRelationship, show (citingLoader "Bill`s").observed.registry = ["CITES"] from rfl,
      hstatement]
    rfl

end Loader

end Ontograph
