/-
Ontograph.Proofs.Store.Rerun — merging a batch again.

Node merges never look at relationships, so the nodes after a batch are those
before with all node writes on them (`nodes_applyAll`). For relationships this
holds only of the merges whose ends are found, and while a batch runs for the
first time an end may be missing that a later entity brings. Two cases are
simple. If all nodes of the batch are there beforehand (`Ready`), what is found
does not change on the way, since a write to a node that is there changes no
label (`edges_applyAll_of_ready`). If everything is found on the way
(`Complete`), nothing is left out, and everything is found again afterwards,
since labels stay (`edges_applyAll_of_complete`). After any first run a batch
is ready, so that its second run is its last one with an effect.
-/
import Ontograph.Proofs.Store.Basic

namespace Ontograph

/-! ## The writes of a batch -/

def nodeWrites (merges : List Merge) : List (Write String (List String)) :=
  merges.filterMap fun
    | .node w => some w
    | .edge .. => none

namespace Store

def edgeWrites (s : Store) (merges : List Merge) : List (Write EdgeKey Unit) :=
  merges.filterMap fun
    | .node _ => none
    | .edge sourceLabel targetLabel w =>
      if s.finds (.edge sourceLabel targetLabel w) then some w else none

theorem applyAll_cons (s : Store) (merge : Merge) (rest : List Merge) :
    s.applyAll (merge :: rest) = (s.apply merge).applyAll rest :=
  rfl

theorem applyAll_append (s : Store) (first second : List Merge) :
    s.applyAll (first ++ second) = (s.applyAll first).applyAll second :=
  List.foldl_append

/-- The nodes of a store do not depend on merges of relationships. -/
theorem nodes_applyAll (s : Store) (merges : List Merge) :
    (s.applyAll merges).nodes = s.nodes.writeAll (nodeWrites merges) := by
  induction merges generalizing s with
  | nil => rfl
  | cons merge rest ih =>
    rw [applyAll_cons, ih]
    cases merge with
    | node w => rfl
    | edge sourceLabel targetLabel w =>
      simp only [apply]
      split <;> rfl

/-! ## Ends that are there -/

/-- What is found depends on the labels of nodes only. -/
theorem finds_congr {s t : Store} (h : s.nodes.tag? = t.nodes.tag?) (merge : Merge) :
    s.finds merge = t.finds merge := by
  cases merge <;> simp [finds, has, h]

/-- Which relationships are written depends on the labels of nodes only. -/
theorem edgeWrites_congr {s t : Store} (h : s.nodes.tag? = t.nodes.tag?) (merges : List Merge) :
    s.edgeWrites merges = t.edgeWrites merges := by
  simp only [edgeWrites, finds_congr h]

theorem tag?_apply_of_some {s : Store} {id : String} {labels : List String} (merge : Merge)
    (h : s.nodes.tag? id = some labels) : (s.apply merge).nodes.tag? id = some labels := by
  cases merge with
  | node w => exact Table.tag?_write_of_some w h
  | edge sourceLabel targetLabel w =>
    simp only [apply]
    split <;> exact h

/-- The labels of a node never change. -/
theorem tag?_applyAll_of_some {s : Store} {id : String} {labels : List String}
    (merges : List Merge) (h : s.nodes.tag? id = some labels) :
    (s.applyAll merges).nodes.tag? id = some labels := by
  induction merges generalizing s with
  | nil => exact h
  | cons merge rest ih => exact ih (tag?_apply_of_some merge h)

theorem has_apply_of_has {s : Store} {id label : String} (merge : Merge)
    (h : s.has id label = true) : (s.apply merge).has id label = true := by
  unfold has at h
  split at h
  · rename_i labels hlabels
    simpa only [has, tag?_apply_of_some merge hlabels] using h
  · cases h

theorem finds_apply_of_finds {s : Store} {merge : Merge} (other : Merge)
    (h : s.finds merge = true) : (s.apply other).finds merge = true := by
  cases merge with
  | node w => rfl
  | edge sourceLabel targetLabel w =>
    obtain ⟨hsource, htarget⟩ := Bool.and_eq_true_iff.mp h
    exact Bool.and_eq_true_iff.mpr ⟨has_apply_of_has other hsource, has_apply_of_has other htarget⟩

/-- Ends that are there remain there. -/
theorem finds_applyAll_of_finds {s : Store} {merge : Merge} (merges : List Merge)
    (h : s.finds merge = true) : (s.applyAll merges).finds merge = true := by
  induction merges generalizing s with
  | nil => exact h
  | cons other rest ih => exact ih (finds_apply_of_finds other h)

/-! ## A batch whose nodes are there -/

/-- All nodes that some merges write are there. -/
def Ready (s : Store) (merges : List Merge) : Prop :=
  ∀ w ∈ nodeWrites merges, (s.nodes.tag? w.key).isSome = true

theorem Ready.of_cons {s : Store} {merge : Merge} {rest : List Merge}
    (h : s.Ready (merge :: rest)) : s.Ready rest := by
  intro w hw
  refine h w ?_
  cases merge with
  | node first => exact List.mem_cons_of_mem first hw
  | edge sourceLabel targetLabel first => exact hw

/-- A merge of a batch whose nodes are there changes no labels. -/
theorem tag?_apply_of_ready {s : Store} {merge : Merge} {rest : List Merge}
    (h : s.Ready (merge :: rest)) : (s.apply merge).nodes.tag? = s.nodes.tag? := by
  cases merge with
  | node w => exact Table.tag?_write_of_isSome (h w List.mem_cons_self)
  | edge sourceLabel targetLabel w =>
    simp only [apply]
    split <;> rfl

/-- Merging the first of some merges leaves the store ready for the rest. -/
theorem Ready.apply {s : Store} {merge : Merge} {rest : List Merge} (h : s.Ready (merge :: rest)) :
    (s.apply merge).Ready rest := by
  intro w hw
  rw [tag?_apply_of_ready h]
  exact h.of_cons w hw

/-- On a store that is ready, no node comes to be. -/
theorem tag?_applyAll_of_ready {s : Store} {merges : List Merge} (h : s.Ready merges) :
    (s.applyAll merges).nodes.tag? = s.nodes.tag? := by
  induction merges generalizing s with
  | nil => rfl
  | cons merge rest ih => exact (ih h.apply).trans (tag?_apply_of_ready h)

/-- On a store that is ready, relationships are written as if all at once. -/
theorem edges_applyAll_of_ready {s : Store} {merges : List Merge} (h : s.Ready merges) :
    (s.applyAll merges).edges = s.edges.writeAll (s.edgeWrites merges) := by
  induction merges generalizing s with
  | nil => rfl
  | cons merge rest ih =>
    rw [applyAll_cons, ih h.apply, edgeWrites_congr (tag?_apply_of_ready h)]
    cases merge with
    | node w => rfl
    | edge sourceLabel targetLabel w =>
      cases hfinds : s.finds (.edge sourceLabel targetLabel w) <;>
        simp [apply, edgeWrites, hfinds, Table.writeAll]

/-- After any run of a batch its nodes are there. -/
theorem ready_applyAll (s : Store) (merges : List Merge) : (s.applyAll merges).Ready merges := by
  induction merges generalizing s with
  | nil => exact fun w hw => absurd hw (by simp [nodeWrites])
  | cons merge rest ih =>
    intro w hw
    cases merge with
    | node first =>
      rcases List.mem_cons.mp hw with rfl | hw
      · obtain ⟨labels, hlabels⟩ :=
          Option.isSome_iff_exists.mp (Table.tag?_write_self s.nodes w)
        have hkept := tag?_applyAll_of_some (s := s.apply (.node w)) rest hlabels
        exact Option.isSome_iff_exists.mpr ⟨labels, hkept⟩
      · exact ih _ w hw
    | edge sourceLabel targetLabel first => exact ih _ w hw

/-! ## A batch whose relationships are all written -/

/-- All ends are found when their relationship is merged. -/
def Complete (s : Store) : List Merge → Prop
  | [] => True
  | merge :: rest => s.finds merge = true ∧ (s.apply merge).Complete rest

theorem complete_append {s : Store} (first second : List Merge) :
    s.Complete (first ++ second) ↔ s.Complete first ∧ (s.applyAll first).Complete second := by
  induction first generalizing s with
  | nil => exact (true_and _).to_iff.symm
  | cons merge rest ih =>
    rw [List.cons_append, Complete, ih, Complete, applyAll_cons, and_assoc]

/-- What is complete finds all its ends afterwards. -/
theorem finds_of_complete {s : Store} {merges : List Merge} (h : s.Complete merges) :
    ∀ merge ∈ merges, (s.applyAll merges).finds merge = true := by
  induction merges generalizing s with
  | nil => exact fun merge hm => absurd hm List.not_mem_nil
  | cons first rest ih =>
    intro merge hm
    rcases List.mem_cons.mp hm with rfl | hm
    · exact finds_applyAll_of_finds (merge :: rest) h.1
    · exact ih h.2 merge hm

/-- Where all ends are found in the end, the writes are those that are made on the way. -/
theorem edges_applyAll_of_complete {s t : Store} {merges : List Merge} (h : s.Complete merges)
    (ht : ∀ merge ∈ merges, t.finds merge = true) :
    (s.applyAll merges).edges = s.edges.writeAll (t.edgeWrites merges) := by
  induction merges generalizing s with
  | nil => rfl
  | cons merge rest ih =>
    obtain ⟨hfinds, hrest⟩ := h
    rw [applyAll_cons, ih hrest fun m hm => ht m (List.mem_cons_of_mem _ hm)]
    cases merge with
    | node w => rfl
    | edge sourceLabel targetLabel w =>
      have hfound : t.finds (.edge sourceLabel targetLabel w) = true := ht _ List.mem_cons_self
      simp [apply, edgeWrites, hfinds, hfound, Table.writeAll]

/-! ## Again -/

/-- A second run leaves the nodes alone. -/
theorem nodes_applyAll_applyAll (s : Store) (merges : List Merge) :
    ((s.applyAll merges).applyAll merges).nodes = (s.applyAll merges).nodes := by
  rw [nodes_applyAll (s.applyAll merges), nodes_applyAll s, Table.writeAll_writeAll]

/-- No relationship is taken away. -/
theorem edges_isSome_applyAll {s : Store} {key : EdgeKey} (merges : List Merge)
    (h : (s.edges key).isSome = true) : ((s.applyAll merges).edges key).isSome = true := by
  induction merges generalizing s with
  | nil => exact h
  | cons merge rest ih =>
    refine ih ?_
    cases merge with
    | node w => exact h
    | edge sourceLabel targetLabel w =>
      simp only [apply]
      split
      · simp only [Table.write, Function.update_apply]
        split
        · rfl
        · exact h
      · exact h

/-- A third run changes nothing. -/
theorem applyAll_applyAll_of_ready {s : Store} {merges : List Merge} (h : s.Ready merges) :
    (s.applyAll merges).applyAll merges = s.applyAll merges := by
  have hnodes := nodes_applyAll_applyAll s merges
  have hedges : ((s.applyAll merges).applyAll merges).edges = (s.applyAll merges).edges := by
    rw [edges_applyAll_of_ready (ready_applyAll s merges), edges_applyAll_of_ready h,
      edgeWrites_congr (tag?_applyAll_of_ready h), Table.writeAll_writeAll]
  exact Store.ext hnodes hedges

/-- A second run changes nothing if nothing was missing in the first. -/
theorem applyAll_applyAll_of_complete {s : Store} {merges : List Merge} (h : s.Complete merges) :
    (s.applyAll merges).applyAll merges = s.applyAll merges := by
  have hnodes := nodes_applyAll_applyAll s merges
  have hedges : ((s.applyAll merges).applyAll merges).edges = (s.applyAll merges).edges := by
    rw [edges_applyAll_of_ready (ready_applyAll s merges),
      edges_applyAll_of_complete h (finds_of_complete h), Table.writeAll_writeAll]
  exact Store.ext hnodes hedges

end Store

end Ontograph
