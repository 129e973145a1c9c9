/-
Ontograph.Proofs.Loader.Templates — what the text of a statement depends on.

`Sends x s text` says that `x`, run from `s`, sends a statement with this text.
Of an entity's node that is one text at most, and of a relationship too: the
fixed pieces of the statement and the quoted names in turn, whatever the session
answers (`sends_loadEntity_iff`, `sends_loadRelationship_iff`). A text can be put
together again from its pieces, and the pieces are nothing but the names; so two
texts are the same if and only if the names are, and no identity and no property
is in them (`sent_texts`).
-/
import Ontograph.Proofs.Loader.Balance
import Ontograph.Proofs.Loader.Names

namespace Ontograph

variable {σ : Type}

/-- The events of a run from an empty log. -/
def eventsOf {α : Type} (x : Observed σ α) (s : σ) : List Event := ((x.run []).run s).1.2

theorem Traces.eventsOf {α : Type} {x : Observed σ α} {P : α → List Event → Prop}
    (h : Traces x P) (s : σ) : ∃ a, P a (eventsOf x s) := by
  obtain ⟨a, events, s', hrun, hp⟩ := h [] s
  refine ⟨a, ?_⟩
  rwa [Ontograph.eventsOf, hrun]

/-- From a state, a program sends a statement with this text. -/
def Sends {α : Type} (x : Observed σ α) (s : σ) (text : String) : Prop :=
  ∃ params answer, Event.sent text params answer ∈ eventsOf x s

namespace Loader

variable {m : Type → Type}

/-! ## Texts of nodes -/

/-- Cut at its quotes, a text is what is fixed in a node statement and the labels of the entity's
type in turn; and the ontology has a place for the entity. -/
def FitsNode (l : Loader m) (e : Entity) (text : String) : Prop :=
  ∃ node, Placed l.ontology e node ∧
    cutAtQuotes text = (nodePieces node.labels).map String.toList

def nodeText (node : NodeType) : String := Statement.mergeNodeText (node.labels.map quoted)

/-- A text fits a node exactly if it is the text that writes it. -/
theorem fitsNode_iff {l : Loader m} {e : Entity} {text : String} :
    FitsNode l e text ↔ ∃ node, Placed l.ontology e node ∧ text = nodeText node := by
  refine exists_congr fun node => and_congr_right fun hplaced => ?_
  rw [← cutAtQuotes_inj, nodeText, NodeType.labels, cutAtQuotes_mergeNodeText hplaced.2]

theorem Attached.not_sent {l : Loader m} {node : NodeType} {e e' : Entity} {asked : List Event}
    (h : Attached l node e e' asked) (text : String) (params : Json)
    (answer : Except GraphError (List Record)) : .sent text params answer ∉ asked := by
  cases h <;> simp

/-- For an entity one text is sent, if the ontology has a place for it, and otherwise none. -/
theorem sends_loadEntity_iff (l : Loader (StateM σ)) (e : Entity) (s : σ) (text : String) :
    Sends (l.observed.loadEntity e) s text ↔ FitsNode l e text := by
  rw [fitsNode_iff]
  obtain ⟨outcome, hvisit⟩ := (traces_loadEntity l e).eventsOf s
  unfold Sends
  generalize eventsOf (l.observed.loadEntity e) s = events at hvisit ⊢
  cases hvisit with
  | refused hno =>
    constructor
    · rintro ⟨params, answer, hmem⟩
      exact absurd hmem List.not_mem_nil
    · rintro ⟨node, hplaced, -⟩
      exact absurd hplaced (hno node)
  | @answered node e' asked hplaced hvector answer =>
    constructor
    · rintro ⟨params, answer', hmem⟩
      rcases List.mem_append.mp hmem with hmem | hmem
      · exact absurd hmem (hvector.not_sent text params answer')
      · cases List.mem_singleton.mp hmem
        exact ⟨node, hplaced, rfl⟩
    · rintro ⟨node', hplaced', rfl⟩
      obtain rfl : node = node' := Option.some.inj (hplaced.1.symm.trans hplaced'.1)
      exact ⟨_, answer, List.mem_append_right _ (List.mem_singleton.mpr rfl)⟩

/-! ## Texts of relationships -/

/-- Cut at its quotes, a text is what is fixed in a relationship statement and the three names in
turn; and the relationship can be sent. -/
def FitsEdge (l : Loader m) (sourceType : String) (ref : RelationshipRef) (text : String) : Prop :=
  isSendable l.registry sourceType ref = true ∧
    cutAtQuotes text = (edgePieces sourceType ref.targetType ref.kind).map String.toList

def edgeText (sourceType : String) (ref : RelationshipRef) : String :=
  Statement.mergeEdgeText (quoted sourceType) (quoted ref.targetType) (quoted ref.kind)

/-- A text fits a relationship exactly if it is the text that writes it. -/
theorem fitsEdge_iff {l : Loader m} {sourceType : String} {ref : RelationshipRef} {text : String} :
    FitsEdge l sourceType ref text ↔
      isSendable l.registry sourceType ref = true ∧ text = edgeText sourceType ref := by
  refine and_congr_right fun hsendable => ?_
  simp only [isSendable, Bool.and_eq_true] at hsendable
  obtain ⟨⟨⟨-, hsource⟩, htarget⟩, hkind⟩ := hsendable
  rw [← cutAtQuotes_inj, edgeText, cutAtQuotes_mergeEdgeText hsource htarget hkind]

/-- For a relationship one text is sent, if it can be sent, and otherwise none. -/
theorem sends_loadRelationship_iff (l : Loader (StateM σ)) (sourceType sourceId : String)
    (ref : RelationshipRef) (s : σ) (text : String) :
    Sends (l.observed.loadRelationship sourceType sourceId ref) s text ↔
      FitsEdge l sourceType ref text := by
  rw [fitsEdge_iff]
  obtain ⟨outcome, hvisit⟩ := (traces_loadRelationship l sourceType sourceId ref).eventsOf s
  unfold Sends
  generalize eventsOf (l.observed.loadRelationship sourceType sourceId ref) s = events at hvisit ⊢
  cases hvisit with
  | refused hno =>
    constructor
    · rintro ⟨params, answer, hmem⟩
      exact absurd hmem List.not_mem_nil
    · rintro ⟨hsendable, -⟩
      rw [hno] at hsendable
      cases hsendable
  | answered hsendable answer =>
    constructor
    · rintro ⟨params, answer', hmem⟩
      cases List.mem_singleton.mp hmem
      exact ⟨hsendable, rfl⟩
    · rintro ⟨-, rfl⟩
      exact ⟨_, answer, List.mem_singleton.mpr rfl⟩

/-! ## Texts of batches -/

/-- What stands on the right of two lists in step has a partner on the left. -/
theorem exists_mem_of_forall₂ {α β : Type} {R : α → β → Prop} {xs : List α} {ys : List β}
    (h : List.Forall₂ R xs ys) {y : β} (hy : y ∈ ys) : ∃ x ∈ xs, R x y := by
  induction h with
  | nil => exact absurd hy List.not_mem_nil
  | @cons x _ xs _ hxy _ ih =>
    rcases List.mem_cons.mp hy with rfl | hy
    · exact ⟨x, List.mem_cons_self, hxy⟩
    · obtain ⟨x', hx', hxy'⟩ := ih hy
      exact ⟨x', List.mem_cons_of_mem x hx', hxy'⟩

/-- A text fits an entity: its node, or one of its relationships. -/
def Fits (l : Loader m) (e : Entity) (text : String) : Prop :=
  FitsNode l e text ∨ ∃ ref ∈ e.relationships, FitsEdge l e.type ref text

/-- Every statement of a visit fits the entity. -/
theorem Visit.fits {l : Loader m} {e : Entity} {visit : List Event} (h : Visit l e visit)
    {text : String} {params : Json} {answer : Except GraphError (List Record)}
    (hmem : .sent text params answer ∈ visit) : Fits l e text := by
  cases h with
  | refused => exact absurd hmem List.not_mem_nil
  | @failed node e' asked hplaced hvector =>
    rcases List.mem_append.mp hmem with hmem | hmem
    · exact absurd hmem (hvector.not_sent text params answer)
    · cases List.mem_singleton.mp hmem
      exact .inl (fitsNode_iff.mpr ⟨node, hplaced, rfl⟩)
  | @written node e' asked edges hplaced hvector _ id _ hedges =>
    rcases List.mem_append.mp hmem with hmem | hmem
    · exact absurd hmem (hvector.not_sent text params answer)
    rcases List.mem_cons.mp hmem with hnode | hedge
    · cases hnode
      exact .inl (fitsNode_iff.mpr ⟨node, hplaced, rfl⟩)
    · obtain ⟨ref, href, answer', heq⟩ := exists_mem_of_forall₂ hedges hedge
      cases heq
      obtain ⟨hmember, hsendable⟩ := List.mem_filter.mp href
      exact .inr ⟨ref, hmember, fitsEdge_iff.mpr ⟨hsendable, rfl⟩⟩

/-- A batch sends no other texts than those of its entities. -/
theorem fits_of_sends {l : Loader (StateM σ)} {es : List Entity} {s : σ} {text : String}
    (h : Sends (l.observed.loadEntities es) s text) : ∃ e ∈ es, Fits l e text := by
  obtain ⟨params, answer, hmem⟩ := h
  obtain ⟨report, visits, hevents, hvisits, -⟩ := (traces_loadEntities l es).eventsOf s
  rw [hevents] at hmem
  obtain ⟨visit, hvisit, hsent⟩ := List.mem_flatten.mp hmem
  obtain ⟨e, he, hof⟩ := exists_mem_of_forall₂ hvisits hvisit
  exact ⟨e, he, hof.fits hsent⟩

/-! ## What texts depend on -/

/-- Entities of one type have one text for their nodes. -/
theorem FitsNode.iff_eq {m' : Type → Type} {l : Loader m} {l' : Loader m'}
    (hontology : l'.ontology = l.ontology) {e e' : Entity} (htype : e'.type = e.type)
    {text : String} (h : FitsNode l e text) (text' : String) :
    FitsNode l' e' text' ↔ text' = text := by
  obtain ⟨node, hplaced, hpieces⟩ := h
  have hplaced' : Placed l'.ontology e' node := by rwa [Placed, hontology, htype]
  constructor
  · rintro ⟨node', hother, hpieces'⟩
    obtain rfl : node = node' := Option.some.inj (hplaced'.1.symm.trans hother.1)
    exact cutAtQuotes_inj.mp (hpieces'.trans hpieces.symm)
  · rintro rfl
    exact ⟨node, hplaced', hpieces⟩

/-- Texts of two relationships are the same exactly if the three names are. -/
theorem FitsEdge.eq_iff {m' : Type → Type} {l : Loader m} {l' : Loader m'}
    {sourceType sourceType' : String} {ref ref' : RelationshipRef} {text text' : String}
    (h : FitsEdge l sourceType ref text) (h' : FitsEdge l' sourceType' ref' text') :
    text = text' ↔
      sourceType = sourceType' ∧ ref.targetType = ref'.targetType ∧ ref.kind = ref'.kind := by
  have hinjective : Function.Injective (List.map String.toList) :=
    List.map_injective_iff.mpr fun _ _ heq => String.toList_inj.mp heq
  rw [← cutAtQuotes_inj, h.2, h'.2, hinjective.eq_iff, edgePieces_inj]

/-- In a text that fits a node there are two quotes for each label, and no others. -/
theorem FitsNode.count_labelQuote {l : Loader m} {e : Entity} {text : String}
    (h : FitsNode l e text) {node : NodeType} (hnode : l.ontology.nodeType? e.type = some node) :
    text.toList.count labelQuote = 2 * node.labels.length := by
  obtain ⟨node', hplaced, hpieces⟩ := h
  obtain rfl : node' = node := Option.some.inj (hplaced.1.symm.trans hnode)
  have hlabels : node'.labels ≠ [] := List.cons_ne_nil _ _
  have hlength := congrArg List.length hpieces
  rw [length_cutAtQuotes, List.length_map, length_nodePieces hlabels] at hlength
  exact Nat.succ.inj hlength

/-- **Names stay in their quotes.** Whatever the names, the identities, the properties and the
answers: a node or a relationship is written with a text that is its template and its names in turn,
and a batch sends no other texts. Entities of one type are written with the same text, and
relationships exactly if the three names in it are the same. -/
theorem sent_texts {σ' : Type} (l : Loader (StateM σ)) (l' : Loader (StateM σ')) :
    (∀ e s text, Sends (l.observed.loadEntity e) s text ↔ FitsNode l e text) ∧
      (∀ e s text node, Sends (l.observed.loadEntity e) s text →
        l.ontology.nodeType? e.type = some node →
        text.toList.count labelQuote = 2 * node.labels.length) ∧
      (∀ sourceType sourceId ref s text,
        Sends (l.observed.loadRelationship sourceType sourceId ref) s text ↔
          FitsEdge l sourceType ref text) ∧
      (∀ es s text, Sends (l.observed.loadEntities es) s text → ∃ e ∈ es, Fits l e text) ∧
      (l'.ontology = l.ontology → ∀ e e' s s' text text', e'.type = e.type →
        Sends (l.observed.loadEntity e) s text →
        (Sends (l'.observed.loadEntity e') s' text' ↔ text' = text)) ∧
      ∀ sourceType sourceType' sourceId sourceId' ref ref' s s' text text',
        Sends (l.observed.loadRelationship sourceType sourceId ref) s text →
        Sends (l'.observed.loadRelationship sourceType' sourceId' ref') s' text' →
        (text = text' ↔
          sourceType = sourceType' ∧ ref.targetType = ref'.targetType ∧ ref.kind = ref'.kind) := by
  refine ⟨sends_loadEntity_iff l, ?_, sends_loadRelationship_iff l, ?_, ?_, ?_⟩
  · intro e s text node hsends hnode
    exact ((sends_loadEntity_iff l e s text).mp hsends).count_labelQuote hnode
  · intro es s text hsends
    exact fits_of_sends hsends
  · intro hontology e e' s s' text text' htype hsends
    have hfits := (sends_loadEntity_iff l e s text).mp hsends
    rw [sends_loadEntity_iff, hfits.iff_eq hontology htype]
  · intro sourceType sourceType' sourceId sourceId' ref ref' s s' text text' hsends hsends'
    have hfits := (sends_loadRelationship_iff l sourceType sourceId ref s text).mp hsends
    have hfits' := (sends_loadRelationship_iff l' sourceType' sourceId' ref' s' text').mp hsends'
    exact hfits.eq_iff hfits'

/-- A type with labels that could be mistaken for other parts of a statement. -/
def crooked : NodeType where
  name := "A:B \x7bid: $id\x7d"
  additionalLabels := ["n) //\n", "'"]

/-- A loader for it that accepts every kind of relationship, with a session that always answers the
same. -/
def crookedLoader (answer : Except GraphError (List Record)) : Loader (StateM Unit) where
  ontology := ({ domain := "library", version := "1" } : Ontology).registerNode crooked
  session := { run := fun _ _ => pure answer }

def crookedRef : RelationshipRef where
  targetType := crooked.name
  targetId := "1"
  kind := "R]->(b) //"

theorem sent_texts_crooked :
    let text := "MERGE (n:`A:B \x7bid: $id\x7d`:`n) //\n`:`'` \x7bid: $id\x7d) " ++
      "SET n += $props RETURN n.id AS id"
    Sends ((crookedLoader (.ok [])).observed.loadEntity { type := crooked.name }) () text ∧
      text.toList.count labelQuote = 6 ∧
      (∀ (properties : Properties) (text' : String),
        Sends ((crookedLoader (.error .http)).observed.loadEntity
            { type := crooked.name, properties }) () text' ↔
          text' = text) ∧
      Sends ((crookedLoader (.ok [])).observed.loadRelationship crooked.name "1" crookedRef) ()
        (edgeText crooked.name crookedRef) ∧
      ¬ Sends ((crookedLoader (.error .http)).observed.loadRelationship crooked.name "1"
        { crookedRef with kind := "R" }) () (edgeText crooked.name crookedRef) := by
  intro text
  obtain ⟨hnode, hcount, hedge, -, htype, hnames⟩ :=
    sent_texts (crookedLoader (.ok [])) (crookedLoader (.error .http))
  have hplaced : Placed (crookedLoader (.ok [])).ontology { type := crooked.name } crooked :=
    ⟨by decide, by decide⟩
  have hsends : Sends ((crookedLoader (.ok [])).observed.loadEntity { type := crooked.name }) ()
      text := (hnode _ _ _).mpr ⟨crooked, hplaced, by decide⟩
  have hsent : Sends ((crookedLoader (.ok [])).observed.loadRelationship crooked.name "1"
      crookedRef) () (edgeText crooked.name crookedRef) :=
    (hedge _ _ _ _ _).mpr (fitsEdge_iff.mpr ⟨by decide, rfl⟩)
  have hsame : (crookedLoader (.error .http)).ontology = (crookedLoader (.ok [])).ontology := rfl
  refine ⟨hsends, hcount _ _ _ crooked hsends hplaced.1, fun properties text' => ?_, hsent, ?_⟩
  · exact htype hsame { type := crooked.name } { type := crooked.name, properties } () () text text'
      rfl hsends
  · intro hother
    have hkinds := ((hnames _ _ _ _ _ _ _ _ _ _ hsent hother).mp rfl).2.2
    exact absurd hkinds (by decide)

end Loader

end Ontograph
