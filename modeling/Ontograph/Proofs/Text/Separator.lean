/-
Ontograph.Proofs.Text.Separator — texts with a mark between two parts.

A text that is put together as `front ++ mark ++ back` does not say where the
front ends if the parts may hold the mark themselves. Two such texts are equal
if their parts are, and else exactly if one front goes on from the other with a
mark and the backs make up for it (`append_mark_eq_iff`).
-/
import Mathlib.Data.List.Basic

namespace Ontograph.Text

/-- What lies between two fronts is a mark and the front of the longer back. -/
theorem between_of_append {mark : Char} {front front' back back' middle : List Char}
    (hfront : front' = front ++ middle) (hback : mark :: back = middle ++ mark :: back') :
    (front = front' ∧ back = back') ∨
      ∃ between, front' = front ++ mark :: between ∧ back = between ++ mark :: back' := by
  cases middle with
  | nil =>
    rw [List.append_nil] at hfront
    exact .inl ⟨hfront.symm, List.cons_injective hback⟩
  | cons c between =>
    obtain ⟨rfl, hrest⟩ := List.cons.inj hback
    exact .inr ⟨between, hfront, hrest⟩

/-- Two texts cut at a mark are one text if they are cut at one place, or if the mark stands in one
of their parts. -/
theorem append_cons_eq_iff {mark : Char} {front front' back back' : List Char} :
    front ++ mark :: back = front' ++ mark :: back' ↔
      (front = front' ∧ back = back') ∨
        (∃ between, front' = front ++ mark :: between ∧ back = between ++ mark :: back') ∨
        ∃ between, front = front' ++ mark :: between ∧ back' = between ++ mark :: back := by
  constructor
  · intro h
    rcases List.append_eq_append_iff.mp h with ⟨middle, hfront, hback⟩ | ⟨middle, hfront, hback⟩
    · exact (between_of_append hfront hback).imp_right .inl
    · rcases between_of_append hfront hback with ⟨hfront, hback⟩ | h
      · exact .inl ⟨hfront.symm, hback.symm⟩
      · exact .inr (.inr h)
  · rintro (⟨rfl, rfl⟩ | ⟨between, rfl, rfl⟩ | ⟨between, rfl, rfl⟩) <;> simp

/-- Two texts with one mark between their parts are equal exactly if their parts are, or if the
longer front goes on from the other with the mark and what begins the back of the other. -/
theorem append_mark_eq_iff {mark : String} {c : Char} (hmark : mark.toList = [c])
    {front front' back back' : String} :
    front ++ mark ++ back = front' ++ mark ++ back' ↔
      (front = front' ∧ back = back') ∨
        (∃ between, front' = front ++ mark ++ between ∧ back = between ++ mark ++ back') ∨
        ∃ between, front = front' ++ mark ++ between ∧ back' = between ++ mark ++ back := by
  have htext (a b : String) : (a ++ mark ++ b).toList = a.toList ++ c :: b.toList := by
    simp [hmark]
  have hbetween (a a' b b' : String) :
      (∃ between, a' = a ++ mark ++ between ∧ b = between ++ mark ++ b') ↔
        ∃ between, a'.toList = a.toList ++ c :: between ∧
          b.toList = between ++ c :: b'.toList := by
    constructor
    · rintro ⟨between, hfront, hback⟩
      exact ⟨between.toList, by rw [hfront, htext], by rw [hback, htext]⟩
    · rintro ⟨between, hfront, hback⟩
      refine ⟨String.ofList between, ?_, ?_⟩
      · rw [← String.toList_inj, hfront, htext, String.toList_ofList]
      · rw [← String.toList_inj, hback, htext, String.toList_ofList]
  rw [← String.toList_inj, htext, htext, append_cons_eq_iff, hbetween, hbetween,
    String.toList_inj, String.toList_inj]

end Ontograph.Text
