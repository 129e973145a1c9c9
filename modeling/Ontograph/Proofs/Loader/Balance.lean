/-
Ontograph.Proofs.Loader.Balance — the sums of a report on a text.

A text has one input on each line that is not blank. A line is read as one
entity, or its number stands in a complaint of its own (`readings`). The
entities are a batch, and its report is balanced; the complaints are entered
afterwards and keep it so. What the report says of the batch is then compared
with the log: the identities are those that the node statements were answered
with, in order, and the relationships are those of the entities that were
stored (`loadLines_balances`).
-/
import Mathlib.Data.List.Basic
import Ontograph.Proofs.Loader.Batch

namespace Ontograph.Loader

variable {m : Type → Type} {σ : Type}

/-! ## Lines -/

def filledLines (text : String) : List String :=
  (Text.lines text).filter fun line => !Text.isBlankText line

/-- Of all lines of a text, counted from one, this is the `n`-th; it is not blank, and no entity can
be read from it. -/
def Unreadable (text : String) (n : Nat) (line : String) : Prop :=
  ∃ i, n = i + 1 ∧ (Text.lines text)[i]? = some line ∧ Text.isBlankText line = false ∧
    Entity.ofText? line = none

/-- How the lines of a text that are not blank were read: as an entity each, in order, or as a line
to complain about, which is known with its number. -/
structure Readings (text : String) (entities : List Entity) (rejected : List (Nat × String)) :
    Prop where
  entities_eq : entities = (filledLines text).filterMap Entity.ofText?
  increasing : (rejected.map Prod.fst).Pairwise (· < ·)
  mem_rejected : ∀ n line, (n, line) ∈ rejected ↔ Unreadable text n line
  length_add : entities.length + rejected.length = (filledLines text).length

/-- To map what passes a test is to filter first and to map then. -/
theorem filterMap_ite_some {α β : Type} (test : α → Bool) (f : α → β) (xs : List α) :
    (xs.filterMap fun x => if test x then some (f x) else none) = (xs.filter test).map f := by
  induction xs with
  | nil => rfl
  | cons x rest ih => cases hx : test x <;> simp [hx, ih]

/-- The lines to be read are those with content, each with its place counted from one. -/
theorem entityLines_eq (text : String) :
    entityLines text =
      (((Text.lines text).zipIdx 1).filter fun entry => !Text.isBlankText entry.1).map
        Prod.swap := by
  rw [entityLines, ← filterMap_ite_some]
  refine List.filterMap_congr fun ⟨line, n⟩ _ => ?_
  cases hblank : Text.isBlankText line <;> simp [hblank]

/-- Without their numbers they are the filled lines. -/
theorem map_snd_entityLines (text : String) :
    (entityLines text).map Prod.snd = filledLines text := by
  have hlines : ((Text.lines text).zipIdx 1).map Prod.fst = Text.lines text :=
    List.zipIdx_map_fst 1 _
  rw [filledLines, entityLines_eq, List.map_map, ← hlines, List.filter_map, hlines]
  rfl

/-- The number of a line is its place among all lines of the text. -/
theorem mem_entityLines {text : String} {n : Nat} {line : String} :
    (n, line) ∈ entityLines text ↔
      ∃ i, n = i + 1 ∧ (Text.lines text)[i]? = some line ∧ Text.isBlankText line = false := by
  have hmem : (n, line) ∈ entityLines text ↔
      (1 ≤ n ∧ (Text.lines text)[n - 1]? = some line) ∧ Text.isBlankText line = false := by
    rw [← List.mk_mem_zipIdx_iff_le_and_getElem?_sub, entityLines_eq]
    simp [List.mem_filter]
  rw [hmem]
  constructor
  · rintro ⟨⟨hpos, hline⟩, hblank⟩
    exact ⟨n - 1, (Nat.sub_add_cancel hpos).symm, hline, hblank⟩
  · rintro ⟨i, rfl, hline, hblank⟩
    exact ⟨⟨Nat.le_add_left 1 i, hline⟩, hblank⟩

/-- The numbers of the lines that are not blank are in order. -/
theorem increasing_entityLines (text : String) :
    ((entityLines text).map Prod.fst).Pairwise (· < ·) := by
  have hnumbers : (entityLines text).map Prod.fst =
      (((Text.lines text).zipIdx 1).filter fun entry => !Text.isBlankText entry.1).map
        Prod.snd := by
    rw [entityLines_eq, List.map_map]
    rfl
  rw [hnumbers]
  refine List.Pairwise.sublist (List.filter_sublist.map Prod.snd) ?_
  rw [List.zipIdx_map_snd]
  exact List.pairwise_lt_range' 1

def rejectedLines (text : String) : List (Nat × String) :=
  (entityLines text).filter fun entry => (Entity.ofText? entry.2).isNone

/-- Each rejected line has one complaint, and that begins with the line's number. -/
theorem rejectionsOf_eq (faultOf : String → String) (text : String) :
    rejectionsOf faultOf text =
      (rejectedLines text).map fun r => "line " ++ toString r.1 ++ ": " ++ faultOf r.2 :=
  filterMap_ite_some _ _ _

example : rejectionsOf (fun _ => "expected value") "\nnot an entity\n" =
    ["line 2: expected value"] := by decide +kernel

/-- A line that is not blank is read as one entity or complained about once. -/
theorem readings (text : String) : Readings text (entitiesOf text) (rejectedLines text) where
  entities_eq := by
    rw [← map_snd_entityLines, List.filterMap_map]
    rfl
  increasing :=
    (increasing_entityLines text).sublist (List.filter_sublist.map Prod.fst)
  mem_rejected n line := by
    constructor
    · intro hmem
      obtain ⟨hline, hnone⟩ := List.mem_filter.mp hmem
      obtain ⟨i, hi, hget, hblank⟩ := mem_entityLines.mp hline
      exact ⟨i, hi, hget, hblank, Option.isNone_iff_eq_none.mp hnone⟩
    · rintro ⟨i, hi, hget, hblank, hnone⟩
      have hline := mem_entityLines.mpr ⟨i, hi, hget, hblank⟩
      exact List.mem_filter.mpr ⟨hline, Option.isNone_iff_eq_none.mpr hnone⟩
  length_add := by
    have hentities : (entitiesOf text).length =
        (entityLines text).countP fun entry => (Entity.ofText? entry.2).isSome :=
      List.length_filterMap_eq_countP
    have hrejected : (rejectedLines text).length =
        (entityLines text).countP fun entry => (Entity.ofText? entry.2).isNone := by
      rw [rejectedLines, List.countP_eq_length_filter]
    rw [← map_snd_entityLines, List.length_map, hentities, hrejected,
      List.length_eq_countP_add_countP fun entry => (Entity.ofText? entry.2).isSome]
    congr 1
    refine List.countP_congr fun entry _ => ?_
    simp

/-! ## Sums -/

/-- The entities of a batch whose nodes were written, as their visits tell. -/
def storedEntities (es : List Entity) (visits : List (List Event)) : List Entity :=
  ((es.zip visits).filter fun pair => (storedIn? pair.2).isSome).map Prod.fst

@[simp]
theorem storedEntities_cons (e : Entity) (es : List Entity) (visit : List Event)
    (visits : List (List Event)) :
    storedEntities (e :: es) (visit :: visits) =
      if (storedIn? visit).isSome then e :: storedEntities es visits
      else storedEntities es visits := by
  cases hstored : storedIn? visit <;> simp [storedEntities, hstored]

/-- What the outcomes of a batch count and list is what its visits tell. -/
theorem Loads.counts {l : Loader m} {es : List Entity}
    {outcomes : List (String × Except LoadError EntityLoad)} {visits : List (List Event)}
    (h : Loads l es outcomes visits) :
    outcomes.length = es.length ∧
      (outcomes.flatMap fun o => (LoadReport.idOf? o.2).toList) =
        visits.filterMap storedIn? ∧
      (outcomes.map fun o => LoadReport.triedCount o.2).sum =
        ((storedEntities es visits).map (·.relationships.length)).sum := by
  induction h with
  | nil => exact ⟨rfl, rfl, rfl⟩
  | @cons e outcome visit es outcomes visits htold _ ih =>
    obtain ⟨hlength, hids, htried⟩ := ih
    refine ⟨congrArg (· + 1) hlength, ?_, ?_⟩
    · rw [List.flatMap_cons, htold.id, hids, List.filterMap_cons]
      cases storedIn? visit <;> rfl
    · rw [List.map_cons, List.sum_cons, htold.tried, htried, storedEntities_cons]
      split
      · rw [List.map_cons, List.sum_cons]
      · rw [Nat.zero_add]

/-- A report on a batch is balanced and says what the visits of the batch tell. -/
structure ReportsOn (es : List Entity) (visits : List (List Event)) (report : LoadReport) :
    Prop where
  balanced : report.Balanced
  attempted : report.attempted = es.length
  ids : report.ids = visits.filterMap storedIn?
  relationships : report.relationshipsLoaded + report.relationshipsFailed =
    ((storedEntities es visits).map (·.relationships.length)).sum

/-- A batch is one visit after another, and its report tells of them. -/
theorem traces_loadEntities (l : Loader (StateM σ)) (es : List Entity) :
    Traces (l.observed.loadEntities es) fun report events =>
      ∃ visits : List (List Event), events = visits.flatten ∧
        List.Forall₂ (Visit l) es visits ∧ ReportsOn es visits report := by
  refine Traces.bind (traces_loadEach_loads l es) ?_
  rintro outcomes _ ⟨visits, rfl, hloads⟩
  obtain ⟨hlength, hids, htried⟩ := hloads.counts
  obtain ⟨hattempted, hlisted, hcounted⟩ := LoadReport.counts_ofOutcomes outcomes
  refine Traces.pure ⟨visits, List.append_nil _, hloads.visits, ?_⟩
  exact ⟨.ofOutcomes outcomes, hattempted.trans hlength, hlisted.trans hids, hcounted.trans htried⟩

/-- **Reports balance.** Whatever the text, the ontology, the session and the backend: each line
that is not blank is an input that is loaded or has failed; it is read as one entity, or has one
complaint, which gives its number among all lines and then what the reader of entities says of it;
the identities and the relationships are those of the entities whose node was written, in the order
of the batch; each failure has a line, and a report without one is complete. -/
theorem loadLines_balances (l : Loader (StateM σ)) (faultOf : String → String) (text : String) :
    Traces (l.observed.loadLines faultOf text) fun report events =>
      ∃ (visits : List (List Event)) (failures : List String) (rejected : List (Nat × String)),
        events = visits.flatten ∧ List.Forall₂ (Visit l) (entitiesOf text) visits ∧
        Readings text (entitiesOf text) rejected ∧
        report.attempted = (filledLines text).length ∧
        report.loaded + report.failed = report.attempted ∧
        report.ids = visits.filterMap storedIn? ∧ report.ids.length = report.loaded ∧
        report.relationshipsLoaded + report.relationshipsFailed =
          ((storedEntities (entitiesOf text) visits).map (·.relationships.length)).sum ∧
        report.errors = failures ++
          rejected.map (fun r => "line " ++ toString r.1 ++ ": " ++ faultOf r.2) ∧
        failures.length + report.loaded =
          (entitiesOf text).length + report.relationshipsFailed ∧
        report.errors.length = report.failed + report.relationshipsFailed ∧
        (report.isComplete = true ↔ report.errors = []) := by
  refine Traces.bind (traces_loadEntities l (entitiesOf text)) ?_
  rintro batch _ ⟨visits, rfl, hvisits, hbatch⟩
  have hreadings := readings text
  have hbalanced := hbatch.balanced.foldl_recordRejected (rejectionsOf faultOf text)
  rw [rejectionsOf_eq] at hbalanced ⊢
  refine Traces.pure ⟨visits, batch.errors, rejectedLines text, List.append_nil _, hvisits,
    hreadings, ?_, hbalanced.inputs, ?_, hbalanced.ids, ?_, ?_, ?_, hbalanced.errors,
    hbalanced.isComplete_iff⟩
  all_goals rw [LoadReport.foldl_recordRejected_eq]
  case refine_1 =>
    have hcount := hreadings.length_add
    rw [hbatch.attempted, List.length_map, hcount]
  case refine_2 => exact hbatch.ids
  case refine_3 => exact hbatch.relationships
  case refine_5 =>
    have hinputs := hbatch.balanced.inputs
    have hlines := hbatch.balanced.errors
    have hattempted := hbatch.attempted
    simp only
    omega

end Ontograph.Loader
