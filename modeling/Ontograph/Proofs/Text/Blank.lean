/-
Ontograph.Proofs.Text.Blank — what trimming leaves alone.

Trimming takes blanks from the two ends only. A text that begins and ends with
characters that are not blank is left as it is (`trimBoth_of_ends`); one that
begins so keeps its beginning, whatever it ends in (`trimBoth_cons`); and blanks
more around a text make no difference (`trimBoth_surrounded`). What is not blank
stays, so that its amount is the same (`solidCount_trimBoth`).
-/
import Mathlib.Data.List.TakeWhile
import Ontograph.Text.Blank

namespace Ontograph.Text

/-! ## Blanks around a text -/

/-- A text of blanks. -/
def Blanks (cs : List Char) : Prop := ∀ c ∈ cs, isBlank c = true

instance (cs : List Char) : Decidable (Blanks cs) :=
  decidable_of_iff (cs.all isBlank = true) List.all_eq_true

theorem trimLeft_append_of_blanks {cs : List Char} (h : Blanks cs) (ds : List Char) :
    trimLeft (cs ++ ds) = trimLeft ds :=
  List.dropWhile_append_of_pos h

/-- More text behind makes no difference in front. -/
theorem trimLeft_append_of_cons {cs rest : List Char} {c : Char} (h : trimLeft cs = c :: rest)
    (ds : List Char) : trimLeft (cs ++ ds) = c :: (rest ++ ds) := by
  rw [trimLeft] at h
  rw [trimLeft, List.dropWhile_append, h]
  rfl

theorem trimRight_append_of_blanks {ds : List Char} (h : Blanks ds) (cs : List Char) :
    trimRight (cs ++ ds) = trimRight cs := by
  have hreverse : ∀ c ∈ ds.reverse, isBlank c = true := fun c hc => h c (List.mem_reverse.mp hc)
  rw [trimRight, List.reverse_append, List.dropWhile_append_of_pos hreverse, trimRight]

theorem trimRight_concat_of_blank {c : Char} (h : isBlank c = true) (cs : List Char) :
    trimRight (cs ++ [c]) = trimRight cs :=
  trimRight_append_of_blanks (List.forall_mem_singleton.mpr h) cs

theorem trimRight_of_blanks {cs : List Char} (h : Blanks cs) : trimRight cs = [] :=
  trimRight_append_of_blanks h []

/-- What trimming takes from the right. -/
theorem exists_blanks_behind (cs : List Char) :
    ∃ after, Blanks after ∧ cs = trimRight cs ++ after := by
  refine ⟨(cs.reverse.takeWhile isBlank).reverse, ?_, ?_⟩
  · intro c hc
    exact List.mem_takeWhile_imp (List.mem_reverse.mp hc)
  · rw [trimRight, ← List.reverse_append, List.takeWhile_append_dropWhile, List.reverse_reverse]

theorem trimRight_cons_of_not_blanks {c : Char} {cs : List Char} (h : ¬ Blanks (c :: cs)) :
    trimRight (c :: cs) = c :: trimRight cs := by
  simp only [trimRight, List.reverse_cons, List.dropWhile_append]
  split
  · rename_i hempty
    have hcs : Blanks cs := by simpa [Blanks] using hempty
    have hc : isBlank c = false := by
      rw [Bool.eq_false_iff]
      intro hc
      exact h (List.forall_mem_cons.mpr ⟨hc, hcs⟩)
    simp [List.isEmpty_iff.mp hempty, hc]
  · simp

/-- Blanks behind make no difference to a trimmed text. -/
theorem trimBoth_append_of_blanks {ds : List Char} (h : Blanks ds) (cs : List Char) :
    trimBoth (cs ++ ds) = trimBoth cs := by
  simp only [trimBoth, trimLeft, List.dropWhile_append]
  split
  · rename_i hempty
    rw [List.isEmpty_iff.mp hempty, List.dropWhile_eq_nil_iff.mpr h]
  · exact trimRight_append_of_blanks h _

theorem trimBoth_concat_of_blank {c : Char} (h : isBlank c = true) (cs : List Char) :
    trimBoth (cs ++ [c]) = trimBoth cs :=
  trimBoth_append_of_blanks (List.forall_mem_singleton.mpr h) cs

/-- Whatever a text begins and ends with, the blanks around it are taken off. -/
theorem trimBoth_surrounded {before after : List Char} (hbefore : Blanks before)
    (hafter : Blanks after) (cs : List Char) : trimBoth (before ++ cs ++ after) = trimBoth cs := by
  rw [trimBoth_append_of_blanks hafter, trimBoth, trimLeft_append_of_blanks hbefore, trimBoth]

/-- What trimming takes from both ends. -/
theorem exists_blanks_around (cs : List Char) : ∃ before after, Blanks before ∧ Blanks after ∧
    cs = before ++ trimBoth cs ++ after := by
  obtain ⟨after, hafter, hright⟩ := exists_blanks_behind (trimLeft cs)
  refine ⟨cs.takeWhile isBlank, after, fun c => List.mem_takeWhile_imp, hafter, ?_⟩
  rw [List.append_assoc, trimBoth, ← hright, trimLeft, List.takeWhile_append_dropWhile]

/-- A trimmed text is not trimmed further. -/
theorem trimBoth_trimBoth (cs : List Char) : trimBoth (trimBoth cs) = trimBoth cs := by
  obtain ⟨before, after, hbefore, hafter, hcs⟩ := exists_blanks_around cs
  have htrim := trimBoth_surrounded hbefore hafter (trimBoth cs)
  rw [← hcs] at htrim
  exact htrim.symm

/-! ## Ends that are not blank -/

theorem trimRight_concat_of_not_blank {c : Char} (h : isBlank c = false) (cs : List Char) :
    trimRight (cs ++ [c]) = cs ++ [c] := by
  simp [trimRight, h]

theorem trimRight_cons_of_not_blank {c : Char} (h : isBlank c = false) (cs : List Char) :
    trimRight (c :: cs) = c :: trimRight cs := by
  refine trimRight_cons_of_not_blanks fun hblanks => ?_
  rw [hblanks c List.mem_cons_self] at h
  cases h

theorem trimLeft_cons_of_not_blank {c : Char} (h : isBlank c = false) (cs : List Char) :
    trimLeft (c :: cs) = c :: cs := by
  simp [trimLeft, h]

/-- What begins with a character that is not blank still does when it is trimmed. -/
theorem trimBoth_cons {c : Char} (h : isBlank c = false) (cs : List Char) :
    trimBoth (c :: cs) = c :: trimRight cs := by
  rw [trimBoth, trimLeft_cons_of_not_blank h, trimRight_cons_of_not_blank h]

/-- A text without blanks at its ends is left as it is. -/
theorem trimBoth_of_ends {cs : List Char} {first last : Char} (hhead : cs.head? = some first)
    (hfirst : isBlank first = false) (hlast : cs.getLast? = some last)
    (hblank : isBlank last = false) : trimBoth cs = cs := by
  have hleft : trimLeft cs = cs := by
    obtain ⟨rest, rfl⟩ := List.head?_eq_some_iff.mp hhead
    exact trimLeft_cons_of_not_blank hfirst rest
  have hright : trimRight cs = cs := by
    obtain ⟨init, rfl⟩ := List.getLast?_eq_some_iff.mp hlast
    exact trimRight_concat_of_not_blank hblank init
  rw [trimBoth, hleft, hright]

/-- What trimming leaves begins with a character that is not blank. -/
theorem isBlank_head?_trimBoth {cs : List Char} {c : Char} (h : (trimBoth cs).head? = some c) :
    isBlank c = false := by
  have hfirst := List.head?_dropWhile_not isBlank cs
  rw [trimBoth, trimLeft] at h
  cases hleft : cs.dropWhile isBlank with
  | nil => simp [hleft, trimRight] at h
  | cons first rest =>
    rw [hleft] at hfirst h
    rw [trimRight_cons_of_not_blank hfirst] at h
    cases h
    exact hfirst

/-- What trimming leaves ends with a character that is not blank. -/
theorem isBlank_getLast?_trimBoth {cs : List Char} {c : Char}
    (h : (trimBoth cs).getLast? = some c) : isBlank c = false := by
  have hlast := List.head?_dropWhile_not isBlank (trimLeft cs).reverse
  rw [trimBoth, trimRight, List.getLast?_reverse] at h
  rwa [h] at hlast

/-! ## What counts -/

/-- How many characters of a text are not blank. -/
def solidCount (cs : List Char) : Nat := cs.countP fun c => !isBlank c

@[simp]
theorem solidCount_append (cs ds : List Char) :
    solidCount (cs ++ ds) = solidCount cs + solidCount ds :=
  List.countP_append

theorem solidCount_dropWhile (cs : List Char) :
    solidCount (cs.dropWhile isBlank) = solidCount cs := by
  induction cs with
  | nil => rfl
  | cons c rest ih =>
    cases hc : isBlank c with
    | false => rw [List.dropWhile_cons_of_neg (by simp [hc])]
    | true =>
      rw [List.dropWhile_cons_of_pos hc, ih]
      simp [solidCount, hc]

/-- Trimming takes nothing away that is not blank. -/
theorem solidCount_trimBoth (cs : List Char) : solidCount (trimBoth cs) = solidCount cs := by
  have hreverse (ds : List Char) : solidCount ds.reverse = solidCount ds := List.countP_reverse
  rw [trimBoth, trimRight, hreverse, solidCount_dropWhile, hreverse, trimLeft,
    solidCount_dropWhile]

/-- Nothing is left by trimming exactly if all is blank. -/
theorem trimBoth_eq_nil_iff {cs : List Char} : trimBoth cs = [] ↔ solidCount cs = 0 := by
  constructor
  · intro h
    rw [← solidCount_trimBoth, h]
    rfl
  · intro h
    have hblank : ∀ c ∈ cs, isBlank c = true := by simpa [solidCount] using h
    have hleft : trimLeft cs = [] := List.dropWhile_eq_nil_iff.mpr hblank
    rw [trimBoth, hleft]
    rfl

/-- Trimming brings in no character. -/
theorem trimBoth_subset (cs : List Char) : trimBoth cs ⊆ cs := by
  intro c hc
  rw [trimBoth, trimRight, List.mem_reverse] at hc
  have hleft : c ∈ trimLeft cs :=
    List.mem_reverse.mp ((List.dropWhile_sublist isBlank).subset hc)
  exact (List.dropWhile_sublist isBlank).subset hleft

end Ontograph.Text
