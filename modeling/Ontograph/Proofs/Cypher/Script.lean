/-
Ontograph.Proofs.Cypher.Script — which statements a script is read as.

`Yields lines statements` says that some lines are some statements, complete
and nothing else, whatever lines follow them. It holds of a comment and of an
empty line with no statement, of a line that is a statement and a semicolon
with that statement, and it goes through appending; so a script that is put
together from such lines is read as its statements (`statements_joinLines`).
What is in a line besides, semicolons and slashes included, does not matter.
-/
import Ontograph.Cypher.Script
import Ontograph.Proofs.Text.Lines

namespace Ontograph.Cypher

/-- A text can be a statement on a line of its own: it begins with neither a blank nor a slash, and
it does not end with a blank. -/
def StandsAlone (s : String) : Prop :=
  (∃ first, s.toList.head? = some first ∧ Text.isBlank first = false ∧ first ≠ '/') ∧
    ∃ last, s.toList.getLast? = some last ∧ Text.isBlank last = false

/-- A line begins with two slashes. -/
def IsComment (line : String) : Prop := ['/', '/'] <+: line.toList

instance (line : String) : Decidable (IsComment line) :=
  inferInstanceAs (Decidable (['/', '/'] <+: line.toList))

theorem IsComment.append {line : String} (h : IsComment line) (text : String) :
    IsComment (line ++ text) := by
  rw [IsComment, String.toList_append]
  exact h.trans (List.prefix_append _ _)

theorem IsComment.isIdle {line : String} (h : IsComment line) :
    isIdle (Text.trimBoth line.toList) = true := by
  obtain ⟨text, htext⟩ := h
  have hslash : Text.isBlank '/' = false := by decide
  rw [← htext, List.cons_append, List.cons_append, Text.trimBoth_cons hslash,
    Text.trimRight_cons_of_not_blank hslash]
  rfl

/-- Some lines are some statements, whatever comes after them. -/
def Yields (lines statements : List String) : Prop :=
  ∀ rest : List (List Char),
    gather [] (lines.map (fun line => Text.trimBoth line.toList) ++ rest) =
      statements.map String.toList ++ gather [] rest

namespace Yields

variable {α : Type} {lines lines' statements statements' : List String}

theorem nil : Yields [] [] := fun _ => rfl

/-- Lines that give statements can be put together. -/
theorem append (h : Yields lines statements) (h' : Yields lines' statements') :
    Yields (lines ++ lines') (statements ++ statements') := by
  intro rest
  rw [List.map_append, List.map_append, List.append_assoc, List.append_assoc, h, h']

theorem flatMap {f g : α → List String} (h : ∀ x, Yields (f x) (g x)) (xs : List α) :
    Yields (xs.flatMap f) (xs.flatMap g) := by
  induction xs with
  | nil => exact nil
  | cons x xs ih => exact (h x).append ih

theorem idle {line : String} (h : isIdle (Text.trimBoth line.toList) = true) :
    Yields [line] [] := by
  intro rest
  simp only [List.map_cons, List.map_nil, List.cons_append, List.nil_append]
  rw [gather, if_pos h]

theorem blank : Yields [""] [] := idle rfl

theorem comment {line : String} (h : IsComment line) : Yields [line] [] := idle h.isIdle

/-- A semicolon makes a statement of what can be one. -/
theorem statement {s : String} (h : StandsAlone s) : Yields [s ++ ";"] [s] := by
  obtain ⟨⟨first, hhead, hfirst, hslash⟩, last, hlast, hblank⟩ := h
  intro rest
  obtain ⟨tail, hs⟩ := List.head?_eq_some_iff.mp hhead
  have hline : (s ++ ";").toList = s.toList ++ [';'] := String.toList_append
  have htrimmed : Text.trimBoth (s.toList ++ [';']) = s.toList ++ [';'] :=
    Text.trimBoth_of_ends (by rw [hs]; rfl) hfirst List.getLast?_concat (by decide)
  have hbusy : isIdle (s.toList ++ [';']) = false := by
    simp [hs, isIdle, List.isPrefixOf, Ne.symm hslash]
  have hcomplete : beforeSemicolon? (s.toList ++ [';']) = some s.toList := by
    rw [beforeSemicolon?, List.getLast?_concat, if_pos rfl, List.dropLast_concat]
  simp only [List.map_cons, List.map_nil, List.cons_append, List.nil_append, hline, htrimmed]
  rw [gather, if_neg (Bool.eq_false_iff.mp hbusy)]
  simp only [extend, List.isEmpty_nil, if_true, hcomplete]
  rw [Text.trimBoth_of_ends hhead hfirst hlast hblank]

end Yields

/-! ## Scripts -/

/-- An empty line at the end belongs to no statement. -/
theorem gather_concat_nil (pending : List Char) (lines : List (List Char)) :
    gather pending (lines ++ [[]]) = gather pending lines := by
  induction lines generalizing pending with
  | nil => rfl
  | cons line rest ih =>
    simp only [List.cons_append, gather, ih]

/-- How lines end makes no difference to the statements. -/
theorem statementsOf_eq_gather (script : List Char) :
    statementsOf script = gather [] ((Text.splitAtFeeds script).map Text.trimBoth) := by
  rw [statementsOf, Text.linesOf]
  rcases Text.trimmed_closeLines (Text.splitAtFeeds script) with hlines | hlines
  · rw [hlines]
  · rw [← hlines, gather_concat_nil]

/-- The statements of lines that are put together are gathered from the trimmed lines. -/
theorem statementsOf_joinFeeds {first : List Char} {rest : List (List Char)}
    (h : ∀ line ∈ first :: rest, '\n' ∉ line) :
    statementsOf (Text.joinFeeds (first :: rest)) =
      gather [] ((first :: rest).map Text.trimBoth) := by
  rw [statementsOf_eq_gather, Text.splitAtFeeds_joinFeeds h]

/-- The statements of a script are those that its lines yield. -/
theorem statements_joinLines {first : String} {rest expected : List String}
    (hfree : ∀ line ∈ first :: rest, Text.FeedFree line) (h : Yields (first :: rest) expected) :
    statements (Text.joinLines (first :: rest)) = expected := by
  have hlines : ∀ line ∈ first.toList :: rest.map String.toList, '\n' ∉ line := by
    intro line hline
    rw [← List.map_cons] at hline
    obtain ⟨text, htext, rfl⟩ := List.mem_map.mp hline
    exact hfree text htext
  have hgather : gather [] ((first.toList :: rest.map String.toList).map Text.trimBoth) =
      expected.map String.toList := by
    have hall := h []
    rw [List.append_nil] at hall
    rw [← List.map_cons, List.map_map]
    exact hall.trans (List.append_nil _)
  rw [statements, Text.joinLines, String.toList_ofList, List.map_cons,
    statementsOf_joinFeeds hlines, hgather, List.map_map]
  simp [Function.comp_def]

theorem feed_not_mem_extend {pending line : List Char} (hpending : '\n' ∉ pending)
    (hline : '\n' ∉ line) : '\n' ∉ extend pending line := by
  unfold extend
  split
  · exact hline
  · simp [hpending, hline]

theorem beforeSemicolon?_subset {cs statement : List Char}
    (h : beforeSemicolon? cs = some statement) : statement ⊆ cs := by
  unfold beforeSemicolon? at h
  split at h
  · cases h
    exact List.dropLast_subset cs
  · cases h

/-- No statement holds a line feed. -/
theorem feed_not_mem_gather {pending : List Char} (hpending : '\n' ∉ pending)
    {lines : List (List Char)} (hlines : ∀ line ∈ lines, '\n' ∉ line) :
    ∀ statement ∈ gather pending lines, '\n' ∉ statement := by
  fun_induction gather pending lines with
  | case1 => exact fun statement h => absurd h List.not_mem_nil
  | case2 pending hne =>
    intro statement h hfeed
    rw [List.mem_singleton.mp h] at hfeed
    exact hpending (Text.trimBoth_subset pending hfeed)
  | case3 pending line rest hidle ih =>
    rw [List.forall_mem_cons] at hlines
    exact ih hpending hlines.2
  | case4 pending line rest hbusy text statement hcomplete ih =>
    rw [List.forall_mem_cons] at hlines
    have htext : '\n' ∉ text := feed_not_mem_extend hpending hlines.1
    refine List.forall_mem_cons.mpr ⟨fun hfeed => htext ?_, ih List.not_mem_nil hlines.2⟩
    exact beforeSemicolon?_subset hcomplete (Text.trimBoth_subset statement hfeed)
  | case5 pending line rest hbusy text hopen ih =>
    rw [List.forall_mem_cons] at hlines
    exact ih (feed_not_mem_extend hpending hlines.1) hlines.2

/-- No statement of a script holds a line feed, whatever the script. -/
theorem feedFree_of_mem_statements {script text : String} (h : text ∈ statements script) :
    Text.FeedFree text := by
  obtain ⟨statement, hmem, rfl⟩ := List.mem_map.mp h
  have htrimmed : ∀ line ∈ (Text.linesOf script.toList).map Text.trimBoth, '\n' ∉ line := by
    intro line hline
    obtain ⟨raw, hraw, rfl⟩ := List.mem_map.mp hline
    exact fun hfeed => Text.feed_not_mem_linesOf _ raw hraw (Text.trimBoth_subset raw hfeed)
  rw [Text.FeedFree, String.toList_ofList]
  exact feed_not_mem_gather List.not_mem_nil htrimmed statement hmem

end Ontograph.Cypher
