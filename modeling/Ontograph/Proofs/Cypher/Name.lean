/-
Ontograph.Proofs.Cypher.Name — written names are read as they were.

A name that stands for itself ends where a character comes that no bare name
goes on with; a name between backticks ends at the first backtick that is not
doubled. So `readName?` reads back what `writtenName` wrote, whatever is in the
name, if neither such a character nor a backtick comes directly after it.
`readNames?` reads a text of fixed pieces with names between them.
-/
import Mathlib.Data.List.Basic
import Ontograph.Cypher.Name

namespace Ontograph.Cypher

/-! ## One name -/

/-- A character that ends a name: no bare name goes on with it, and it is no backtick. -/
def EndsName (c : Char) : Prop := continuesName c = false ∧ c ≠ tick

instance (c : Char) : Decidable (EndsName c) :=
  inferInstanceAs (Decidable (continuesName c = false ∧ c ≠ tick))

theorem readQuoted?_tick_tick (rest : List Char) :
    readQuoted? (tick :: tick :: rest) =
      (readQuoted? rest).map fun (name, after) => (tick :: name, after) := by
  simp [readQuoted?]

theorem readQuoted?_tick {c : Char} (hc : c ≠ tick) (rest : List Char) :
    readQuoted? (tick :: c :: rest) = some ([], c :: rest) := by
  simp [readQuoted?, hc]

theorem readQuoted?_cons {c : Char} (hc : c ≠ tick) (rest : List Char) :
    readQuoted? (c :: rest) = (readQuoted? rest).map fun (name, after) => (c :: name, after) := by
  rw [readQuoted?.eq_def]
  simp only [if_neg hc]

/-- Characters between backticks are read back. -/
theorem readQuoted?_doubled (cs : List Char) {c : Char} (hc : c ≠ tick) (rest : List Char) :
    readQuoted? (doubled cs ++ tick :: c :: rest) = some (cs, c :: rest) := by
  induction cs with
  | nil => exact readQuoted?_tick hc rest
  | cons d cs ih =>
    by_cases hd : d = tick
    · have htext : doubled (d :: cs) ++ tick :: c :: rest =
          tick :: tick :: (doubled cs ++ tick :: c :: rest) := by simp [doubled, hd]
      rw [htext, readQuoted?_tick_tick, ih, hd]
      rfl
    · have htext : doubled (d :: cs) ++ tick :: c :: rest =
          d :: (doubled cs ++ tick :: c :: rest) := by simp [doubled, hd]
      rw [htext, readQuoted?_cons hd, ih]
      rfl

theorem startsName_ne_tick {c : Char} (h : startsName c = true) : c ≠ tick := by
  rintro rfl
  exact absurd h (by decide)

/-- **A written name is read as it was**, and what follows it is left. -/
theorem readName?_writtenName (cs : List Char) {c : Char} (hc : EndsName c) (rest : List Char) :
    readName? (writtenName cs ++ c :: rest) = some (cs, c :: rest) := by
  unfold writtenName
  split
  · rename_i hplain
    cases cs with
    | nil => cases hplain
    | cons first others =>
      obtain ⟨hstart, hall⟩ := Bool.and_eq_true_iff.mp hplain
      have hothers : ∀ d ∈ others, continuesName d = true := List.all_eq_true.mp hall
      simp only [List.cons_append, readName?, if_neg (startsName_ne_tick hstart), hstart, if_true]
      rw [List.takeWhile_append_of_pos hothers, List.dropWhile_append_of_pos hothers,
        List.takeWhile_cons_of_neg (by simp [hc.1]), List.dropWhile_cons_of_neg (by simp [hc.1]),
        List.append_nil]
  · simp only [List.cons_append, List.append_assoc, List.nil_append, readName?, if_true]
    exact readQuoted?_doubled cs hc.2 rest

/-- A name that is read, and what follows it, hold no other characters than the text. -/
theorem readQuoted?_subset {cs name rest : List Char} (h : readQuoted? cs = some (name, rest)) :
    name ⊆ cs ∧ rest ⊆ cs := by
  fun_induction readQuoted? cs generalizing name rest with
  | case1 => cases h
  | case2 =>
    cases h
    exact ⟨List.nil_subset _, List.nil_subset _⟩
  | case3 rest' ih =>
    obtain ⟨⟨name', after⟩, hrest, heq⟩ := Option.map_eq_some_iff.mp h
    cases heq
    obtain ⟨hname, hafter⟩ := ih hrest
    exact ⟨List.cons_subset_cons _ (List.subset_cons_of_subset _ hname),
      List.subset_cons_of_subset _ (List.subset_cons_of_subset _ hafter)⟩
  | case4 c rest' hc =>
    cases h
    exact ⟨List.nil_subset _, List.subset_cons_self _ _⟩
  | case5 c rest' hc ih =>
    obtain ⟨⟨name', after⟩, hrest, heq⟩ := Option.map_eq_some_iff.mp h
    cases heq
    obtain ⟨hname, hafter⟩ := ih hrest
    exact ⟨List.cons_subset_cons _ hname, List.subset_cons_of_subset _ hafter⟩

/-- A name that is read holds no character that is not in the text. -/
theorem readName?_subset {cs name rest : List Char} (h : readName? cs = some (name, rest)) :
    name ⊆ cs ∧ rest ⊆ cs := by
  unfold readName? at h
  split at h
  · cases h
  · rename_i c others
    split at h
    · obtain ⟨hname, hrest⟩ := readQuoted?_subset h
      exact ⟨List.subset_cons_of_subset _ hname, List.subset_cons_of_subset _ hrest⟩
    · split at h
      · cases h
        exact ⟨List.cons_subset_cons _ (List.takeWhile_subset _),
          List.subset_cons_of_subset _ (List.dropWhile_subset _)⟩
      · cases h

/-! ## Several names -/

/-- The names in a text that consists of fixed pieces with one name between any two; what follows
the last piece does not matter. -/
def readNames? : List String → List Char → Option (List String)
  | [], _ => some []
  | piece :: pieces, cs =>
    if piece.toList.isPrefixOf cs then
      match pieces with
      | [] => some []
      | next :: pieces => do
        let (name, rest) ← readName? (cs.drop piece.toList.length)
        let names ← readNames? (next :: pieces) rest
        pure (String.ofList name :: names)
    else none

/-- The first name is read if what comes after it cannot be part of it. -/
theorem readNames?_name (piece : String) {next : String} {c : Char}
    (hnext : next.toList.head? = some c) (hc : EndsName c) (pieces : List String) (n : String)
    (rest : List Char) :
    readNames? (piece :: next :: pieces)
        (piece.toList ++ (writtenName n.toList ++ (next.toList ++ rest))) =
      (readNames? (next :: pieces) (next.toList ++ rest)).map (n :: ·) := by
  obtain ⟨tail, htail⟩ := List.head?_eq_some_iff.mp hnext
  have hprefix : piece.toList.isPrefixOf
      (piece.toList ++ (writtenName n.toList ++ (next.toList ++ rest))) = true :=
    List.isPrefixOf_iff_prefix.mpr (List.prefix_append _ _)
  have hname := readName?_writtenName n.toList hc (tail ++ rest)
  rw [← List.cons_append, ← htail] at hname
  rw [readNames?, if_pos hprefix, List.drop_left, hname]
  cases h : readNames? (next :: pieces) (next.toList ++ rest) <;> simp [h]

theorem readNames?_end (piece : String) (rest : List Char) :
    readNames? [piece] (piece.toList ++ rest) = some [] := by
  rw [readNames?, if_pos (List.isPrefixOf_iff_prefix.mpr (List.prefix_append _ _))]

/-- The names that are read hold no other characters than the text. -/
theorem readNames?_subset {pieces : List String} {cs : List Char} {names : List String}
    (h : readNames? pieces cs = some names) : ∀ n ∈ names, n.toList ⊆ cs := by
  fun_induction readNames? pieces cs generalizing names with
  | case1 => cases h; exact fun n hn => absurd hn List.not_mem_nil
  | case2 => cases h; exact fun n hn => absurd hn List.not_mem_nil
  | case3 piece cs hprefix next pieces ih =>
    obtain ⟨⟨name, rest⟩, hname, h⟩ := Option.bind_eq_some_iff.mp h
    obtain ⟨names', hnames, heq⟩ := Option.bind_eq_some_iff.mp h
    cases heq
    have hdrop := List.drop_subset piece.toList.length cs
    obtain ⟨hfirst, hrest⟩ := readName?_subset hname
    intro n hn
    rcases List.mem_cons.mp hn with rfl | hn
    · rw [String.toList_ofList]
      exact List.Subset.trans hfirst hdrop
    · exact List.Subset.trans (ih rest hnames n hn) (List.Subset.trans hrest hdrop)
  | case4 => cases h

end Ontograph.Cypher
