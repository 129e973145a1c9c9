/-
Ontograph.Proofs.Loader.Report — what a report says.

A report is made by one pass over the outcomes of a batch. Its lines are those
of the outcomes, one after another (`errors_ofOutcomes`). A report that does
not tell of a missing end is therefore made from outcomes without one
(`noneMissingIn_of_ofOutcomes`).

`Balanced` says that the sums of a report come out. It holds of the empty
report, and whatever is entered keeps it: the outcome of an entity
(`Balanced.record`) and an input that never became one
(`Balanced.foldl_recordRejected`).
-/
import Mathlib.Algebra.GroupWithZero.Nat
import Ontograph.Loader.Report

namespace Ontograph

def LoadError.isMissingEndpoint : LoadError → Bool
  | missingEndpoint .. => true
  | validation _ | graph _ | embedding _ | noResult _ _ => false

namespace LoadReport

/-! ## Lines -/

/-- What failed of an entity, in order. -/
def failures : Except LoadError EntityLoad → List LoadError
  | .ok load => load.relationshipErrors
  | .error e => [e]

theorem errors_record (r : LoadReport) (entityType : String)
    (outcome : Except LoadError EntityLoad) :
    (r.record entityType outcome).errors =
      r.errors ++ (failures outcome).map (errorLine entityType) := by
  cases outcome <;> rfl

/-- Outcomes add the lines of their failures, in order. -/
theorem errors_foldl_record (outcomes : List (String × Except LoadError EntityLoad))
    (r : LoadReport) :
    (outcomes.foldl (fun r (entityType, outcome) => r.record entityType outcome) r).errors =
      r.errors ++ outcomes.flatMap fun (entityType, outcome) =>
        (failures outcome).map (errorLine entityType) := by
  induction outcomes generalizing r with
  | nil => simp
  | cons head rest ih =>
    rw [List.foldl_cons, ih, errors_record, List.flatMap_cons, List.append_assoc]

/-- A report has one line for each failure, after the type of the entity, in order. -/
theorem errors_ofOutcomes (outcomes : List (String × Except LoadError EntityLoad)) :
    (ofOutcomes outcomes).errors =
      outcomes.flatMap fun (entityType, outcome) =>
        (failures outcome).map (errorLine entityType) :=
  errors_foldl_record outcomes {}

/-! ## Missing ends -/

/-- No end of a relationship was missing. -/
def NoneMissing (outcomes : List (Except LoadError Unit)) : Prop :=
  ∀ error, .error error ∈ outcomes → error.isMissingEndpoint = false

/-- No end of a relationship of an entity was missing. -/
def NoneMissingIn (outcome : Except LoadError EntityLoad) : Prop :=
  ∀ error ∈ failures outcome, error.isMissingEndpoint = false

theorem NoneMissingIn.relationships {load : EntityLoad} (h : NoneMissingIn (.ok load)) :
    NoneMissing load.relationships := by
  intro error herror
  exact h error (List.mem_filterMap.mpr ⟨.error error, herror, rfl⟩)

/-- A report tells of a missing end if one of its lines says so of an entity of some type. -/
def TellsOfMissing (r : LoadReport) : Prop :=
  ∃ (entityType : String) (error : LoadError),
    error.isMissingEndpoint = true ∧ errorLine entityType error ∈ r.errors

/-- A report that does not tell of a missing end is made from outcomes without one. -/
theorem noneMissingIn_of_ofOutcomes {outcomes : List (String × Except LoadError EntityLoad)}
    (h : ¬ (ofOutcomes outcomes).TellsOfMissing) :
    ∀ outcome ∈ outcomes, NoneMissingIn outcome.2 := by
  intro ⟨entityType, outcome⟩ hmem error herror
  have hline : errorLine entityType error ∈ (ofOutcomes outcomes).errors := by
    rw [errors_ofOutcomes]
    exact List.mem_flatMap.mpr ⟨(entityType, outcome), hmem, List.mem_map_of_mem herror⟩
  cases hmissing : error.isMissingEndpoint with
  | false => rfl
  | true => exact absurd ⟨entityType, error, hmissing, hline⟩ h

end LoadReport

/-! ## Sums -/

/-- A relationship of a stored entity is written or has failed. -/
theorem EntityLoad.relationships_length (load : EntityLoad) :
    load.relationshipsLoaded + load.relationshipErrors.length = load.relationships.length := by
  unfold relationshipsLoaded relationshipErrors
  induction load.relationships with
  | nil => rfl
  | cons outcome rest ih => cases outcome <;> simp <;> omega

namespace LoadReport

/-- The sums of a report come out: every input is loaded or has failed, each loaded one has an
identity, and each failure, of an input or of a relationship, has a line. -/
structure Balanced (r : LoadReport) : Prop where
  inputs : r.loaded + r.failed = r.attempted
  ids : r.ids.length = r.loaded
  errors : r.errors.length = r.failed + r.relationshipsFailed

namespace Balanced

variable {r : LoadReport}

theorem empty : Balanced {} := ⟨rfl, rfl, rfl⟩

/-- A report remains balanced with one more outcome. -/
theorem record (h : r.Balanced) (entityType : String) (outcome : Except LoadError EntityLoad) :
    (r.record entityType outcome).Balanced := by
  obtain ⟨hinputs, hids, herrors⟩ := h
  cases outcome with
  | ok load =>
    exact ⟨by simp only [LoadReport.record]; omega, by simp [LoadReport.record, hids],
      by simp [LoadReport.record, herrors, Nat.add_assoc]⟩
  | error e =>
    exact ⟨by simp only [LoadReport.record]; omega, hids,
      by simp [LoadReport.record, herrors]; omega⟩

theorem foldl_record (h : r.Balanced) (outcomes : List (String × Except LoadError EntityLoad)) :
    (outcomes.foldl (fun r (entityType, outcome) => r.record entityType outcome) r).Balanced := by
  induction outcomes generalizing r with
  | nil => exact h
  | cons head rest ih => exact ih (h.record head.1 head.2)

/-- Every report on outcomes is balanced. -/
theorem ofOutcomes (outcomes : List (String × Except LoadError EntityLoad)) :
    (LoadReport.ofOutcomes outcomes).Balanced := empty.foldl_record outcomes

/-- A report remains balanced with one more input that is rejected. -/
theorem recordRejected (h : r.Balanced) (error : String) : (r.recordRejected error).Balanced := by
  obtain ⟨hinputs, hids, herrors⟩ := h
  exact ⟨by simp only [LoadReport.recordRejected]; omega, hids,
    by simp [LoadReport.recordRejected, herrors]; omega⟩

theorem foldl_recordRejected (h : r.Balanced) (errors : List String) :
    (errors.foldl LoadReport.recordRejected r).Balanced := by
  induction errors generalizing r with
  | nil => exact h
  | cons error rest ih => exact ih (h.recordRejected error)

/-- A balanced report is complete exactly if it has no line. -/
theorem isComplete_iff (h : r.Balanced) : r.isComplete = true ↔ r.errors = [] := by
  have herrors := h.errors
  rw [isComplete, Bool.and_eq_true, decide_eq_true_eq, decide_eq_true_eq,
    ← List.length_eq_zero_iff]
  omega

end Balanced

def idOf? : Except LoadError EntityLoad → Option String
  | .ok load => some load.id
  | .error _ => none

/-- How many relationships of an entity were tried: none if its node was not written. -/
def triedCount : Except LoadError EntityLoad → Nat
  | .ok load => load.relationships.length
  | .error _ => 0

/-- An outcome adds one to the inputs, and what it says to the other counts. -/
theorem record_counts (r : LoadReport) (entityType : String)
    (outcome : Except LoadError EntityLoad) :
    (r.record entityType outcome).attempted = r.attempted + 1 ∧
      (r.record entityType outcome).ids = r.ids ++ (idOf? outcome).toList ∧
      (r.record entityType outcome).relationshipsLoaded +
          (r.record entityType outcome).relationshipsFailed =
        r.relationshipsLoaded + r.relationshipsFailed + triedCount outcome := by
  cases outcome with
  | ok load =>
    have hload := load.relationships_length
    refine ⟨rfl, rfl, ?_⟩
    simp only [record, triedCount]
    omega
  | error e => exact ⟨rfl, (List.append_nil _).symm, rfl⟩

theorem foldl_record_counts (outcomes : List (String × Except LoadError EntityLoad))
    (r : LoadReport) :
    let r' := outcomes.foldl (fun r (entityType, outcome) => r.record entityType outcome) r
    r'.attempted = r.attempted + outcomes.length ∧
      r'.ids = r.ids ++ outcomes.flatMap (fun o => (idOf? o.2).toList) ∧
      r'.relationshipsLoaded + r'.relationshipsFailed =
        r.relationshipsLoaded + r.relationshipsFailed +
          (outcomes.map fun o => triedCount o.2).sum := by
  induction outcomes generalizing r with
  | nil => simp
  | cons head rest ih =>
    obtain ⟨hattempted, hids, hrelationships⟩ := ih (r.record head.1 head.2)
    obtain ⟨hattempted', hids', hrelationships'⟩ := r.record_counts head.1 head.2
    simp only [List.foldl_cons, List.length_cons, List.flatMap_cons, List.map_cons, List.sum_cons]
    refine ⟨?_, ?_, ?_⟩
    · rw [hattempted, hattempted', Nat.add_assoc, Nat.add_comm 1]
    · rw [hids, hids', List.append_assoc]
    · rw [hrelationships, hrelationships', Nat.add_assoc]

/-- What a report counts and lists of some outcomes. -/
theorem counts_ofOutcomes (outcomes : List (String × Except LoadError EntityLoad)) :
    (ofOutcomes outcomes).attempted = outcomes.length ∧
      (ofOutcomes outcomes).ids = outcomes.flatMap (fun o => (idOf? o.2).toList) ∧
      (ofOutcomes outcomes).relationshipsLoaded + (ofOutcomes outcomes).relationshipsFailed =
        (outcomes.map fun o => triedCount o.2).sum := by
  simpa [ofOutcomes] using foldl_record_counts outcomes {}

/-- Rejected inputs are counted and listed after everything else. -/
theorem foldl_recordRejected_eq (errors : List String) (r : LoadReport) :
    errors.foldl recordRejected r =
      { r with
        attempted := r.attempted + errors.length
        failed := r.failed + errors.length
        errors := r.errors ++ errors } := by
  induction errors generalizing r with
  | nil => simp
  | cons error rest ih =>
    simp only [List.foldl_cons, ih, recordRejected, List.length_cons, List.append_assoc,
      List.cons_append, List.nil_append, Nat.add_assoc, Nat.add_comm 1]

end LoadReport

end Ontograph
