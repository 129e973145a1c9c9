/-
Ontograph.Proofs.Cypher.Layout — scripts in any layout.

A `Layout` says what a writer of a script is free to do. A statement takes one
line or more, the last of them, and no other, ending in a semicolon; lines are
indented and have blanks behind them as they come, a carriage return among
these; blank lines and comments stand anywhere, also inside a statement; and the
last statement may be left without its semicolon. Of all this nothing is left
in the statements that are read (`statements_text`): each is its trimmed lines
with single blanks between them.

Nothing else is a script. Every text has a layout (`exists_layout`), so that
`statements_text` says what any script is read as.
-/
import Ontograph.Proofs.Cypher.Script

namespace Ontograph.Cypher

/-! ## Lines -/

/-- A line belongs to no statement: trimmed, nothing is left of it or it is a comment. -/
def Idle (line : String) : Prop := Text.trim line = "" ∨ IsComment (Text.trim line)

instance (line : String) : Decidable (Idle line) :=
  inferInstanceAs (Decidable (Text.trim line = "" ∨ IsComment (Text.trim line)))

/-- A line ends a statement: trimmed, it ends in a semicolon. -/
def Ends (line : String) : Prop := (Text.trim line).toList.getLast? = some ';'

instance (line : String) : Decidable (Ends line) :=
  inferInstanceAs (Decidable ((Text.trim line).toList.getLast? = some ';'))

def joined (lines : List String) : String := " ".intercalate (lines.map Text.trim)

/-- Some lines as a statement: joined, without the last character and the blanks before it. -/
def statementOf (lines : List String) : String :=
  String.ofList (Text.trimRight (joined lines).toList.dropLast)

theorem idle_iff {line : String} : Idle line ↔ isIdle (Text.trimBoth line.toList) = true := by
  rw [Idle, Text.trim, IsComment, String.toList_ofList, isIdle, Bool.or_eq_true,
    List.isEmpty_iff, List.isPrefixOf_iff_prefix, String.ofList_eq_empty_iff]

theorem toList_trim_ne_nil {line : String} (h : ¬ Idle line) : (Text.trim line).toList ≠ [] :=
  fun hnil => h (.inl (String.toList_eq_nil_iff.mp hnil))

theorem joined_concat {lines : List String} (hne : lines ≠ []) (line : String) :
    joined (lines ++ [line]) = joined lines ++ " " ++ Text.trim line := by
  rw [joined, List.map_append, String.intercalate_append_of_ne_nil (by simpa using hne) (by simp),
    List.map_singleton, String.intercalate_singleton, joined]

/-- The text of some lines ends as the last of them. -/
theorem getLast?_joined_concat {line : String} (h : ¬ Idle line) (lines : List String) :
    (joined (lines ++ [line])).toList.getLast? = (Text.trim line).toList.getLast? := by
  by_cases hne : lines = []
  · simp [hne, joined]
  · rw [joined_concat hne, String.toList_append, List.getLast?_append_of_ne_nil _
      (toList_trim_ne_nil h)]

/-- The text of some lines begins with a character that is not blank. -/
theorem exists_joined_eq_cons {first : String} (h : ¬ Idle first) (rest : List String) :
    ∃ c behind, (joined (first :: rest)).toList = c :: behind ∧ Text.isBlank c = false := by
  obtain ⟨c, tail, htrim⟩ := List.exists_cons_of_ne_nil (toList_trim_ne_nil h)
  have hblank : Text.isBlank c = false := by
    have hhead : (Text.trim first).toList.head? = some c := by rw [htrim, List.head?_cons]
    rw [Text.trim, String.toList_ofList] at hhead
    exact Text.isBlank_head?_trimBoth hhead
  cases rest with
  | nil => exact ⟨c, tail, by simp [joined, htrim], hblank⟩
  | cons second rest =>
    exact ⟨c, tail ++ (" " ++ joined (second :: rest)).toList, by simp [joined, htrim], hblank⟩

/-- The text of some lines is trimmed as it stands. -/
theorem trimBoth_joined {lines : List String} (h : ∀ line ∈ lines, ¬ Idle line) :
    Text.trimBoth (joined lines).toList = (joined lines).toList := by
  rcases List.eq_nil_or_concat' lines with rfl | ⟨init, last, hlines⟩
  · rfl
  · have hlast : ¬ Idle last := h last (by simp [hlines])
    obtain ⟨first, rest, rfl⟩ := List.exists_cons_of_ne_nil
      (show lines ≠ [] by simp [hlines])
    obtain ⟨c, behind, hbegin, hc⟩ := exists_joined_eq_cons (h first List.mem_cons_self) rest
    obtain ⟨d, hd⟩ : ∃ d, (Text.trim last).toList.getLast? = some d :=
      Option.isSome_iff_exists.mp (List.getLast?_isSome.mpr (toList_trim_ne_nil hlast))
    have hend : (joined (first :: rest)).toList.getLast? = some d := by
      rw [hlines, getLast?_joined_concat hlast, hd]
    have hblank : Text.isBlank d = false := by
      rw [Text.trim, String.toList_ofList] at hd
      exact Text.isBlank_getLast?_trimBoth hd
    exact Text.trimBoth_of_ends (by rw [hbegin, List.head?_cons]) hc hend hblank

/-- Before the semicolon of a statement only blanks behind it are left to trim. -/
theorem toList_statementOf {lines : List String} (h : ∀ line ∈ lines, ¬ Idle line) :
    (statementOf lines).toList = Text.trimBoth (joined lines).toList.dropLast := by
  rw [statementOf, String.toList_ofList]
  cases lines with
  | nil => rfl
  | cons first rest =>
    obtain ⟨c, behind, hbegin, hc⟩ := exists_joined_eq_cons (h first List.mem_cons_self) rest
    rw [hbegin]
    cases behind with
    | nil => rfl
    | cons d behind =>
      rw [List.dropLast_cons_cons, Text.trimBoth_cons hc, Text.trimRight_cons_of_not_blank hc]

/-! ## Reading on -/

/-- A line behind some lines of a statement makes their text longer. -/
theorem extend_joined {lines : List String} (h : ∀ line ∈ lines, ¬ Idle line) (line : String) :
    extend (joined lines).toList (Text.trimBoth line.toList) =
      (joined (lines ++ [line])).toList := by
  have htrim : Text.trimBoth line.toList = (Text.trim line).toList := by
    rw [Text.trim, String.toList_ofList]
  cases lines with
  | nil => simp [extend, joined, htrim]
  | cons first rest =>
    obtain ⟨c, behind, hbegin, -⟩ := exists_joined_eq_cons (h first List.mem_cons_self) rest
    rw [joined_concat (List.cons_ne_nil first rest), extend, if_neg (by simp [hbegin]), htrim]
    simp

section
variable {lines : List String} {line : String} {rest : List (List Char)}

/-- A line without a semicolon at its end goes on with the statement. -/
theorem gather_of_not_ends (hlines : ∀ l ∈ lines, ¬ Idle l) (hline : ¬ Idle line)
    (h : ¬ Ends line) :
    gather (joined lines).toList (Text.trimBoth line.toList :: rest) =
      gather (joined (lines ++ [line])).toList rest := by
  have hopen : beforeSemicolon? (joined (lines ++ [line])).toList = none := by
    rw [beforeSemicolon?, getLast?_joined_concat hline]
    exact if_neg h
  rw [gather, if_neg (idle_iff.not.mp hline)]
  simp only [extend_joined hlines, hopen]

/-- A line with a semicolon at its end completes the statement. -/
theorem gather_of_ends (hlines : ∀ l ∈ lines, ¬ Idle l) (hline : ¬ Idle line) (h : Ends line) :
    gather (joined lines).toList (Text.trimBoth line.toList :: rest) =
      (statementOf (lines ++ [line])).toList :: gather [] rest := by
  have hcomplete : beforeSemicolon? (joined (lines ++ [line])).toList =
      some (joined (lines ++ [line])).toList.dropLast := by
    rw [beforeSemicolon?, getLast?_joined_concat hline]
    exact if_pos h
  have hall : ∀ l ∈ lines ++ [line], ¬ Idle l := by
    simpa [or_imp, forall_and] using And.intro hlines hline
  rw [gather, if_neg (idle_iff.not.mp hline)]
  simp only [extend_joined hlines, hcomplete, toList_statementOf hall]

end

/-- Idle lines may as well be left out, wherever they stand. -/
theorem gather_filter_idle (pending : List Char) (lines : List String) :
    gather pending (lines.map fun line => Text.trimBoth line.toList) =
      gather pending ((lines.filter (¬ Idle ·)).map fun line => Text.trimBoth line.toList) := by
  induction lines generalizing pending with
  | nil => rfl
  | cons line rest ih =>
    by_cases hidle : Idle line
    · rw [List.map_cons, gather, if_pos (idle_iff.mp hidle), ih,
        List.filter_cons_of_neg (by simpa using hidle)]
    · rw [List.filter_cons_of_pos (by simpa using hidle), List.map_cons, List.map_cons, gather,
        gather, if_neg (idle_iff.not.mp hidle), if_neg (idle_iff.not.mp hidle)]
      simp only [ih]

/-! ## Statements -/

/-- Some lines are a statement with its semicolon: the last of them ends it, and no other does. -/
def Closed (lines : List String) : Prop :=
  (∀ line ∈ lines.dropLast, ¬ Ends line) ∧ ∃ last, lines.getLast? = some last ∧ Ends last

theorem Closed.cons {lines : List String} (h : Closed lines) {line : String} (hline : ¬ Ends line) :
    Closed (line :: lines) := by
  obtain ⟨hopen, last, hlast, hends⟩ := h
  obtain ⟨init, rfl⟩ := List.getLast?_eq_some_iff.mp hlast
  rw [List.dropLast_concat] at hopen
  refine ⟨?_, last, ?_, hends⟩
  · rw [← List.cons_append, List.dropLast_concat]
    exact List.forall_mem_cons.mpr ⟨hline, hopen⟩
  · rw [← List.cons_append, List.getLast?_concat]

/-- A statement that has begun with some lines is read on. -/
theorem gather_append_of_open {begun more : List String} (hbegun : ∀ line ∈ begun, ¬ Idle line)
    (hmore : ∀ line ∈ more, ¬ Idle line ∧ ¬ Ends line) (rest : List (List Char)) :
    gather (joined begun).toList (more.map (fun line => Text.trimBoth line.toList) ++ rest) =
      gather (joined (begun ++ more)).toList rest := by
  induction more generalizing begun with
  | nil => rw [List.map_nil, List.nil_append, List.append_nil]
  | cons line more ih =>
    obtain ⟨⟨hidle, hends⟩, hmore⟩ := List.forall_mem_cons.mp hmore
    have hnext : ∀ l ∈ begun ++ [line], ¬ Idle l := by
      simpa [or_imp, forall_and] using And.intro hbegun hidle
    rw [List.map_cons, List.cons_append, gather_of_not_ends hbegun hidle hends, ih hnext hmore,
      List.append_assoc, List.singleton_append]

/-- Lines of which none ends a statement are gathered into one text. -/
theorem gather_of_open {lines : List String} (h : ∀ line ∈ lines, ¬ Idle line ∧ ¬ Ends line)
    (rest : List (List Char)) :
    gather [] (lines.map (fun line => Text.trimBoth line.toList) ++ rest) =
      gather (joined lines).toList rest :=
  gather_append_of_open (List.forall_mem_nil _) h rest

/-- Lines of which only the last ends a statement give one statement. -/
theorem Closed.yields {lines : List String} (h : Closed lines)
    (hidle : ∀ line ∈ lines, ¬ Idle line) : Yields lines [statementOf lines] := by
  obtain ⟨hopen, last, hlast, hends⟩ := h
  obtain ⟨init, rfl⟩ := List.getLast?_eq_some_iff.mp hlast
  rw [List.dropLast_concat] at hopen
  rw [List.forall_mem_append, List.forall_mem_singleton] at hidle
  have hinit : ∀ line ∈ init, ¬ Idle line ∧ ¬ Ends line := fun line hline =>
    ⟨hidle.1 line hline, hopen line hline⟩
  intro rest
  rw [List.map_append, List.append_assoc, List.map_singleton, List.singleton_append,
    gather_of_open hinit, gather_of_ends hidle.1 hidle.2 hends]
  rfl

/-- Groups of such lines give a statement each. -/
theorem yields_flatten {closed : List (List String)} (h : ∀ lines ∈ closed, Closed lines)
    (hidle : ∀ line ∈ closed.flatten, ¬ Idle line) :
    Yields closed.flatten (closed.map statementOf) := by
  induction closed with
  | nil => exact .nil
  | cons lines closed ih =>
    rw [List.forall_mem_cons] at h
    rw [List.flatten_cons, List.forall_mem_append] at hidle
    rw [List.flatten_cons, List.map_cons]
    exact (h.1.yields hidle.1).append (ih h.2 hidle.2)

/-- What a statement without its semicolon is read as: nothing if it has no lines. -/
def unfinishedOf (lines : List String) : List String := if lines = [] then [] else [joined lines]

/-- Lines behind the last semicolon give at most one statement. -/
theorem gather_unfinished {lines : List String}
    (h : ∀ line ∈ lines, ¬ Idle line ∧ ¬ Ends line) :
    gather [] (lines.map fun line => Text.trimBoth line.toList) =
      (unfinishedOf lines).map String.toList := by
  have hidle : ∀ line ∈ lines, ¬ Idle line := fun line hline => (h line hline).1
  have hread := gather_of_open h []
  rw [List.append_nil] at hread
  rw [hread, gather, trimBoth_joined hidle, unfinishedOf]
  cases lines with
  | nil => rfl
  | cons first rest =>
    obtain ⟨c, behind, hbegin, -⟩ := exists_joined_eq_cons (hidle first List.mem_cons_self) rest
    rw [if_neg (by simp [hbegin]), if_neg (List.cons_ne_nil first rest)]
    rfl

/-! ## Layouts -/

/-- What stands at the end of a line: a line feed, or a carriage return and a line feed. -/
inductive LineEnd where
  | feed
  | returnFeed
  deriving DecidableEq, Repr

def LineEnd.chars : LineEnd → List Char
  | feed => ['\n']
  | returnFeed => ['\r', '\n']

/-- Statements laid out as a script: lines with their ends, and what stands behind the last end. -/
structure Layout where
  rows : List (String × LineEnd)
  last : String
  /-- The lines of each statement that has a semicolon. -/
  closed : List (List String)
  /-- The lines of a last statement that has none. -/
  unfinished : List String
  feedFree : ∀ line ∈ rows.map Prod.fst ++ [last], Text.FeedFree line
  busy : (rows.map Prod.fst ++ [last]).filter (¬ Idle ·) = closed.flatten ++ unfinished
  closed_ends : ∀ lines ∈ closed, Closed lines
  unfinished_open : ∀ line ∈ unfinished, ¬ Ends line

namespace Layout

def rowsText (rows : List (String × LineEnd)) : List Char :=
  rows.flatMap fun row => row.1.toList ++ row.2.chars

def text (l : Layout) : String := String.ofList (rowsText l.rows ++ l.last.toList)

theorem not_idle (l : Layout) : ∀ line ∈ l.closed.flatten ++ l.unfinished, ¬ Idle line := by
  intro line hline
  rw [← l.busy, List.mem_filter] at hline
  simpa using hline.2

/-- A line with its end is one piece of a text, and trimmed it is the line. -/
theorem exists_piece {line : String} (h : Text.FeedFree line) (ending : LineEnd) :
    ∃ piece, line.toList ++ ending.chars = piece ++ ['\n'] ∧ '\n' ∉ piece ∧
      Text.trimBoth piece = Text.trimBoth line.toList := by
  cases ending with
  | feed => exact ⟨line.toList, rfl, h, rfl⟩
  | returnFeed =>
    refine ⟨line.toList ++ ['\r'], by simp [LineEnd.chars], ?_,
      Text.trimBoth_concat_of_blank (by decide) _⟩
    rw [List.mem_append, not_or]
    exact ⟨h, by decide⟩

/-- Cut at line feeds and trimmed, the text of rows is their lines, trimmed. -/
theorem trimmed_splitAtFeeds {rows : List (String × LineEnd)} {last : String}
    (h : ∀ line ∈ rows.map Prod.fst ++ [last], Text.FeedFree line) :
    (Text.splitAtFeeds (rowsText rows ++ last.toList)).map Text.trimBoth =
      (rows.map Prod.fst ++ [last]).map fun line => Text.trimBoth line.toList := by
  induction rows with
  | nil =>
    rw [List.map_nil, List.nil_append, List.forall_mem_singleton] at h
    rw [rowsText, List.flatMap_nil, List.nil_append, Text.splitAtFeeds_of_not_mem h]
    rfl
  | cons row rows ih =>
    obtain ⟨line, ending⟩ := row
    rw [List.map_cons, List.cons_append, List.forall_mem_cons] at h
    obtain ⟨piece, hpiece, hfree, htrim⟩ := exists_piece h.1 ending
    have htext : rowsText ((line, ending) :: rows) = piece ++ '\n' :: rowsText rows := by
      rw [rowsText, List.flatMap_cons, hpiece, List.append_assoc, List.singleton_append, rowsText]
    rw [htext, List.append_assoc, List.cons_append, Text.splitAtFeeds_append_feed,
      Text.splitAtFeeds_of_not_mem hfree, List.map_append, ih h.2, List.map_singleton, htrim]
    rfl

/-- What is read from a layout is a statement for each of its groups, and then what its unfinished
lines are read as. -/
theorem statements_text (l : Layout) :
    statements l.text = l.closed.map statementOf ++ unfinishedOf l.unfinished := by
  have hidle := l.not_idle
  rw [List.forall_mem_append] at hidle
  have hopen : ∀ line ∈ l.unfinished, ¬ Idle line ∧ ¬ Ends line := fun line hline =>
    ⟨hidle.2 line hline, l.unfinished_open line hline⟩
  have hgather : statementsOf l.text.toList =
      (l.closed.map statementOf ++ unfinishedOf l.unfinished).map String.toList := by
    calc statementsOf l.text.toList
        = gather [] ((l.rows.map Prod.fst ++ [l.last]).map fun line =>
            Text.trimBoth line.toList) := by
          rw [statementsOf_eq_gather, text, String.toList_ofList, trimmed_splitAtFeeds l.feedFree]
      _ = gather [] ((l.closed.flatten ++ l.unfinished).map fun line =>
            Text.trimBoth line.toList) := by
          rw [gather_filter_idle, l.busy]
      _ = (l.closed.map statementOf).map String.toList ++
            gather [] (l.unfinished.map fun line => Text.trimBoth line.toList) := by
          rw [List.map_append, yields_flatten l.closed_ends hidle.1]
      _ = (l.closed.map statementOf ++ unfinishedOf l.unfinished).map String.toList := by
          rw [gather_unfinished hopen, List.map_append]
  rw [statements, hgather, List.map_map]
  exact List.map_id'' (fun _ => String.ofList_toList) _

/-! ## Every script -/

/-- Every text is lines with their ends and what stands behind the last of these. -/
theorem exists_rows (cs : List Char) :
    ∃ (rows : List (String × LineEnd)) (last : String), rowsText rows ++ last.toList = cs ∧
      ∀ line ∈ rows.map Prod.fst ++ [last], Text.FeedFree line := by
  induction cs with
  | nil => exact ⟨[], "", rfl, by decide⟩
  | cons c cs ih =>
    obtain ⟨rows, last, rfl, hfree⟩ := ih
    by_cases hc : c = '\n'
    · subst hc
      exact ⟨("", .feed) :: rows, last, rfl, List.forall_mem_cons.mpr ⟨by decide, hfree⟩⟩
    · have hlonger (line : String) (hline : Text.FeedFree line) :
          Text.FeedFree (String.ofList (c :: line.toList)) := by
        rw [Text.FeedFree, String.toList_ofList, List.mem_cons, not_or]
        exact ⟨Ne.symm hc, hline⟩
      cases rows with
      | nil =>
        refine ⟨[], String.ofList (c :: last.toList), by simp [rowsText], ?_⟩
        exact List.forall_mem_singleton.mpr (hlonger last (hfree last List.mem_cons_self))
      | cons row rows =>
        obtain ⟨line, ending⟩ := row
        rw [List.map_cons, List.cons_append, List.forall_mem_cons] at hfree
        refine ⟨(String.ofList (c :: line.toList), ending) :: rows, last, by simp [rowsText], ?_⟩
        exact List.forall_mem_cons.mpr ⟨hlonger line hfree.1, hfree.2⟩

/-- Lines that end statements cut all lines into statements. -/
theorem exists_closed (lines : List String) :
    ∃ (closed : List (List String)) (unfinished : List String),
      lines = closed.flatten ++ unfinished ∧ (∀ statement ∈ closed, Closed statement) ∧
        ∀ line ∈ unfinished, ¬ Ends line := by
  induction lines with
  | nil => exact ⟨[], [], rfl, List.forall_mem_nil _, List.forall_mem_nil _⟩
  | cons line lines ih =>
    obtain ⟨closed, unfinished, rfl, hclosed, hopen⟩ := ih
    by_cases hends : Ends line
    · have hline : Closed [line] := ⟨List.forall_mem_nil _, line, rfl, hends⟩
      exact ⟨[line] :: closed, unfinished, rfl, List.forall_mem_cons.mpr ⟨hline, hclosed⟩, hopen⟩
    · cases closed with
      | nil =>
        exact ⟨[], line :: unfinished, rfl, List.forall_mem_nil _,
          List.forall_mem_cons.mpr ⟨hends, hopen⟩⟩
      | cons first closed =>
        rw [List.forall_mem_cons] at hclosed
        exact ⟨(line :: first) :: closed, unfinished, rfl,
          List.forall_mem_cons.mpr ⟨hclosed.1.cons hends, hclosed.2⟩, hopen⟩

/-- Every text has a layout. -/
theorem exists_layout (script : String) : ∃ l : Layout, l.text = script := by
  obtain ⟨rows, last, hrows, hfree⟩ := exists_rows script.toList
  obtain ⟨closed, unfinished, hbusy, hclosed, hopen⟩ :=
    exists_closed ((rows.map Prod.fst ++ [last]).filter (¬ Idle ·))
  refine ⟨⟨rows, last, closed, unfinished, hfree, hbusy, hclosed, hopen⟩, ?_⟩
  rw [text, hrows, String.ofList_toList]

/-- **Scripts in any layout.** The statements of a script are those that are laid out in it, in
order: each the trimmed lines with single blanks between them, without the semicolon and the blanks
before it, and last the one that has no semicolon. Every script is laid out so. -/
theorem statements_laidOut :
    (∀ l : Layout, statements l.text =
      l.closed.map statementOf ++ unfinishedOf l.unfinished) ∧
      ∀ script, ∃ l : Layout, l.text = script :=
  ⟨statements_text, exists_layout⟩

/-- Two statements, with a comment inside the second, and the beginning of a third. -/
def scattered : Layout where
  rows := [("// schema; of the library", .feed), ("  CREATE INDEX a;", .returnFeed), ("", .feed),
    ("CREATE INDEX b", .returnFeed), ("\t// a comment; inside", .feed),
    (" FOR (n:B) ON (n.c)  \r", .returnFeed), ("; ", .feed), ("CREATE INDEX c", .feed)]
  last := "  FOR (n:C) // and so on"
  closed := [["  CREATE INDEX a;"], ["CREATE INDEX b", " FOR (n:B) ON (n.c)  \r", "; "]]
  unfinished := ["CREATE INDEX c", "  FOR (n:C) // and so on"]
  feedFree := by decide
  busy := by decide
  closed_ends := by
    simp only [List.forall_mem_cons, List.not_mem_nil, false_imp_iff, implies_true, and_true]
    exact ⟨⟨by decide, _, rfl, by decide⟩, by decide, _, rfl, by decide⟩
  unfinished_open := by decide

example : statements scattered.text =
    ["CREATE INDEX a", "CREATE INDEX b FOR (n:B) ON (n.c)",
      "CREATE INDEX c FOR (n:C) // and so on"] := by
  rw [statements_text]
  decide +kernel

end Layout

end Ontograph.Cypher
