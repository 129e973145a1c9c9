/-
Ontograph.Proofs.Text.Lines — lines put together and taken apart.

Lines without a line feed in them come back when their text is cut at its line
feeds (`splitAtFeeds_joinFeeds`). As lines of a text they may come back without
a final carriage return, and an empty last line does not come back at all;
trimmed, the others are what they were (`trimmed_closeLines`). A file of lines
that hold no line feed and end in no carriage return has just these lines
(`lines_closed`).
-/
import Mathlib.Data.List.Basic
import Ontograph.Text.Lines
import Ontograph.Proofs.Text.Blank

namespace Ontograph.Text

/-- No line feed is in a text. -/
def FeedFree (s : String) : Prop := '\n' ∉ s.toList

instance (s : String) : Decidable (FeedFree s) := inferInstanceAs (Decidable ('\n' ∉ s.toList))

@[simp]
theorem feedFree_append {s t : String} : FeedFree (s ++ t) ↔ FeedFree s ∧ FeedFree t := by
  simp [FeedFree, not_or]

/-! ## Cutting -/

/-- A text without line feeds belongs to the first piece of what follows it. -/
theorem splitAtFeeds_append {line : List Char} (h : '\n' ∉ line) (piece : List Char)
    (pieces : List (List Char)) {rest : List Char} (hrest : splitAtFeeds rest = piece :: pieces) :
    splitAtFeeds (line ++ rest) = (line ++ piece) :: pieces := by
  induction line with
  | nil => exact hrest
  | cons c line ih =>
    rw [List.mem_cons, not_or] at h
    simp only [List.cons_append, splitAtFeeds, if_neg (Ne.symm h.1), ih h.2]

theorem splitAtFeeds_of_not_mem {line : List Char} (h : '\n' ∉ line) :
    splitAtFeeds line = [line] := by
  have hline := splitAtFeeds_append h [] [] (show splitAtFeeds [] = [[]] from rfl)
  rwa [List.append_nil] at hline

theorem splitAtFeeds_ne_nil (cs : List Char) : splitAtFeeds cs ≠ [] := by
  fun_cases splitAtFeeds cs <;> simp

/-- A line feed between two texts is where their pieces meet. -/
theorem splitAtFeeds_append_feed (cs ds : List Char) :
    splitAtFeeds (cs ++ '\n' :: ds) = splitAtFeeds cs ++ splitAtFeeds ds := by
  fun_induction splitAtFeeds cs with
  | case1 => simp [splitAtFeeds]
  | case2 rest ih => simp [splitAtFeeds, ih]
  | case3 c rest hc hnil => exact absurd hnil (splitAtFeeds_ne_nil rest)
  | case4 c rest hc piece pieces hsplit ih => simp [splitAtFeeds, hc, ih, hsplit]

/-- The pieces of some lines are the pieces of each, one line after another. -/
theorem splitAtFeeds_joinFeeds_eq_flatMap (first : List Char) (rest : List (List Char)) :
    splitAtFeeds (joinFeeds (first :: rest)) = (first :: rest).flatMap splitAtFeeds := by
  induction rest generalizing first with
  | nil => simp [joinFeeds]
  | cons second rest ih =>
    rw [joinFeeds, splitAtFeeds_append_feed, ih second]
    rfl

/-- Lines without a line feed in them are the pieces of their text. -/
theorem splitAtFeeds_joinFeeds {first : List Char} {rest : List (List Char)}
    (h : ∀ line ∈ first :: rest, '\n' ∉ line) :
    splitAtFeeds (joinFeeds (first :: rest)) = first :: rest := by
  have hpieces : ∀ line ∈ first :: rest, splitAtFeeds line = [line] := fun line hline =>
    splitAtFeeds_of_not_mem (h line hline)
  rw [splitAtFeeds_joinFeeds_eq_flatMap, List.flatMap_congr hpieces, List.flatMap_singleton']

/-- Texts without a line feed in them come back when they are put together as lines. -/
theorem splitAtFeeds_joinLines {lines : List String} (hne : lines ≠ [])
    (h : ∀ line ∈ lines, FeedFree line) :
    (splitAtFeeds (joinLines lines).toList).map String.ofList = lines := by
  obtain ⟨first, rest, rfl⟩ := List.exists_cons_of_ne_nil hne
  have hpieces : ∀ piece ∈ first.toList :: rest.map String.toList, '\n' ∉ piece := by
    rw [← List.map_cons, List.forall_mem_map]
    exact h
  rw [joinLines, String.toList_ofList, List.map_cons, splitAtFeeds_joinFeeds hpieces,
    ← List.map_cons, List.map_map]
  exact List.map_id'' (fun _ => String.ofList_toList) _

theorem feed_not_mem_splitAtFeeds (cs : List Char) : ∀ piece ∈ splitAtFeeds cs, '\n' ∉ piece := by
  fun_induction splitAtFeeds cs with
  | case1 => simp
  | case2 rest ih => simpa using ih
  | case3 c rest hc hnil => simpa using Ne.symm hc
  | case4 c rest hc first pieces hsplit ih =>
    rw [hsplit, List.forall_mem_cons] at ih
    refine List.forall_mem_cons.mpr ⟨?_, ih.2⟩
    rw [List.mem_cons, not_or]
    exact ⟨Ne.symm hc, ih.1⟩

/-! ## Ends of lines -/

/-- A carriage return is a blank, so that trimming takes it off in any case. -/
theorem trimBoth_dropReturn (line : List Char) : trimBoth (dropReturn line) = trimBoth line := by
  unfold dropReturn
  split
  · rename_i hreturn
    obtain ⟨init, rfl⟩ := List.getLast?_eq_some_iff.mp hreturn
    rw [List.dropLast_concat, trimBoth_concat_of_blank (by decide)]
  · rfl

/-- Of trimmed lines, closing them takes away at most an empty one at the end. -/
theorem trimmed_closeLines (pieces : List (List Char)) :
    (closeLines pieces).map trimBoth = pieces.map trimBoth ∨
      (closeLines pieces).map trimBoth ++ [[]] = pieces.map trimBoth := by
  fun_induction closeLines pieces with
  | case1 => exact .inl rfl
  | case2 last hempty =>
    exact .inr (by simp [List.isEmpty_iff.mp hempty, trimBoth, trimLeft, trimRight])
  | case3 last hempty => exact .inl rfl
  | case4 piece next pieces ih =>
    simp only [List.map_cons, trimBoth_dropReturn] at ih ⊢
    exact ih.imp (congrArg _) (congrArg _)

theorem feed_not_mem_dropReturn {line : List Char} (h : '\n' ∉ line) : '\n' ∉ dropReturn line := by
  unfold dropReturn
  split
  · exact fun hmem => h (List.dropLast_subset line hmem)
  · exact h

theorem feed_not_mem_closeLines {pieces : List (List Char)} (h : ∀ piece ∈ pieces, '\n' ∉ piece) :
    ∀ line ∈ closeLines pieces, '\n' ∉ line := by
  fun_induction closeLines pieces with
  | case1 => exact h
  | case2 => exact fun line hline => absurd hline List.not_mem_nil
  | case3 => exact h
  | case4 piece next pieces ih =>
    rw [List.forall_mem_cons] at h
    exact List.forall_mem_cons.mpr ⟨feed_not_mem_dropReturn h.1, ih h.2⟩

/-- No line of a text holds a line feed. -/
theorem feed_not_mem_linesOf (cs : List Char) : ∀ line ∈ linesOf cs, '\n' ∉ line :=
  feed_not_mem_closeLines (feed_not_mem_splitAtFeeds cs)

/-! ## Files of lines -/

def closed (ls : List String) : String := String.ofList (ls.flatMap fun l => l.toList ++ ['\n'])

/-- A text that is a line as it stands. -/
structure IsLine (s : String) : Prop where
  feedFree : FeedFree s
  last : s.toList.getLast? ≠ some '\r'

theorem dropReturn_of_isLine {s : String} (h : IsLine s) : dropReturn s.toList = s.toList :=
  if_neg h.last

/-- Closed lines are found again, with an empty piece behind the last. -/
theorem splitAtFeeds_closed {ls : List String} (h : ∀ l ∈ ls, IsLine l) :
    splitAtFeeds (closed ls).toList = ls.map String.toList ++ [[]] := by
  rw [closed, String.toList_ofList]
  induction ls with
  | nil => rfl
  | cons l ls ih =>
    rw [List.forall_mem_cons] at h
    rw [List.flatMap_cons, List.append_assoc, List.singleton_append, splitAtFeeds_append_feed,
      splitAtFeeds_of_not_mem h.1.feedFree, ih h.2]
    rfl

/-- The lines of a file of lines. -/
theorem lines_closed {ls : List String} (h : ∀ l ∈ ls, IsLine l) : lines (closed ls) = ls := by
  have hclose : closeLines (ls.map String.toList ++ [[]]) = ls.map String.toList := by
    induction ls with
    | nil => rfl
    | cons l ls ih =>
      rw [List.forall_mem_cons] at h
      obtain ⟨next, pieces, hnext⟩ :=
        List.exists_cons_of_ne_nil (List.append_ne_nil_of_right_ne_nil (ls.map String.toList)
          (List.cons_ne_nil [] []))
      rw [List.map_cons, List.cons_append, hnext, closeLines, dropReturn_of_isLine h.1, ← hnext,
        ih h.2]
  rw [lines, linesOf, splitAtFeeds_closed h, hclose, List.map_map]
  exact List.map_id'' (fun _ => String.ofList_toList) ls

end Ontograph.Text
