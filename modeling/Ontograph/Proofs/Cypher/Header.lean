/-
Ontograph.Proofs.Cypher.Header — what the text of a comment does to a script.

The header of a script writes the domain and the version of the ontology into a
comment of one line. If they hold a line feed, what comes after it is a line of
the script like any other. `HarmlessHeader` says that such stray lines belong
to no statement either; `statements_script_eq_iff` that the script then has the
statements of its types, and that it has others in every other case.

The second half needs a measure. `weight` counts the characters of statements
that are not blank, and the statements. A line that belongs to a statement adds
to it, wherever the statement ends, and nothing that follows can take this back
(`weight_gather_append`).
-/
import Mathlib.Algebra.GroupWithZero.Nat
import Mathlib.Algebra.Order.BigOperators.Group.List
import Mathlib.Algebra.Order.Group.Nat
import Ontograph.Cypher.Schema
import Ontograph.Proofs.Cypher.Script

namespace Ontograph.Cypher

open Text (solidCount splitAtFeeds trimBoth)

/-! ## Steps of reading -/

theorem gather_cons_idle {line : List Char} (h : isIdle line = true) (pending : List Char)
    (rest : List (List Char)) : gather pending (line :: rest) = gather pending rest := by
  rw [gather, if_pos h]

theorem gather_append_idle {lines : List (List Char)} (h : ∀ line ∈ lines, isIdle line = true)
    (pending : List Char) (rest : List (List Char)) :
    gather pending (lines ++ rest) = gather pending rest := by
  induction lines with
  | nil => rfl
  | cons line lines ih =>
    rw [List.forall_mem_cons] at h
    rw [List.cons_append, gather_cons_idle h.1, ih h.2]

theorem ne_nil_of_busy {line : List Char} (h : isIdle line = false) : line ≠ [] := by
  rintro rfl
  cases h

theorem getLast?_extend {line : List Char} (h : line ≠ []) (pending : List Char) :
    (extend pending line).getLast? = line.getLast? := by
  unfold extend
  split
  · rfl
  · rw [List.getLast?_append, List.getLast?_cons, List.getLast?_eq_some_getLast h]
    rfl

/-- A line that ends in a semicolon completes a statement, whatever was there before. -/
theorem gather_cons_complete {line : List Char} (h : isIdle line = false)
    (hlast : line.getLast? = some ';') (pending : List Char) (rest : List (List Char)) :
    gather pending (line :: rest) =
      trimBoth (extend pending line).dropLast :: gather [] rest := by
  have hend : (extend pending line).getLast? = some ';' :=
    (getLast?_extend (ne_nil_of_busy h) pending).trans hlast
  rw [gather, if_neg (Bool.eq_false_iff.mp h)]
  simp only [beforeSemicolon?, hend, if_true]

/-- Any other line leaves the statement open. -/
theorem gather_cons_open {line : List Char} (h : isIdle line = false)
    (hlast : line.getLast? ≠ some ';') (pending : List Char) (rest : List (List Char)) :
    gather pending (line :: rest) = gather (extend pending line) rest := by
  have hend : (extend pending line).getLast? ≠ some ';' := by
    rwa [getLast?_extend (ne_nil_of_busy h) pending]
  rw [gather, if_neg (Bool.eq_false_iff.mp h)]
  simp only [beforeSemicolon?, if_neg hend]

/-! ## Weights -/

/-- How many characters of some statements are not blank, and how many statements there are. -/
def weight (statements : List (List Char)) : Nat :=
  (statements.map fun statement => solidCount statement + 1).sum

@[simp]
theorem weight_cons (statement : List Char) (rest : List (List Char)) :
    weight (statement :: rest) = solidCount statement + 1 + weight rest := by
  simp [weight]

/-- Joining a line to a statement adds their characters up, blanks apart. -/
theorem solidCount_extend (pending line : List Char) :
    solidCount (extend pending line) = solidCount pending + solidCount line := by
  have hspace : solidCount (' ' :: line) = solidCount line :=
    List.countP_cons_of_neg (by decide)
  unfold extend
  split
  · rename_i hempty
    rw [List.isEmpty_iff.mp hempty]
    simp [solidCount]
  · rw [Text.solidCount_append, hspace]

theorem weight_gather_nil (pending : List Char) :
    weight (gather pending []) = if solidCount pending = 0 then 0 else solidCount pending + 1 := by
  by_cases hsolid : solidCount pending = 0
  · have hempty : trimBoth pending = [] := Text.trimBoth_eq_nil_iff.mpr hsolid
    simp [gather, hempty, hsolid, weight]
  · have hnonempty : trimBoth pending ≠ [] := mt Text.trimBoth_eq_nil_iff.mp hsolid
    simp [gather, hnonempty, hsolid, weight, Text.solidCount_trimBoth]

/-- A statement and its semicolon weigh what their lines do. -/
theorem weight_gather_complete {line : List Char} (h : isIdle line = false)
    (hlast : line.getLast? = some ';') (pending : List Char) (rest : List (List Char)) :
    weight (gather pending (line :: rest)) =
      solidCount pending + solidCount line + weight (gather [] rest) := by
  obtain ⟨text, htext⟩ : ∃ text, extend pending line = text ++ [';'] :=
    List.getLast?_eq_some_iff.mp ((getLast?_extend (ne_nil_of_busy h) pending).trans hlast)
  have hsemicolon : solidCount [';'] = 1 := by decide
  have hline : solidCount text + 1 = solidCount pending + solidCount line := by
    rw [← solidCount_extend, htext, Text.solidCount_append, hsemicolon]
  rw [gather_cons_complete h hlast, weight_cons, Text.solidCount_trimBoth, htext,
    List.dropLast_concat, hline]

/-- What was begun before some lines weighs at least as much in their statements. -/
theorem weight_gather_mono {fewer more : List Char} (h : solidCount fewer ≤ solidCount more)
    (rest : List (List Char)) :
    weight (gather fewer rest) + solidCount more ≤
      weight (gather more rest) + solidCount fewer := by
  induction rest generalizing fewer more with
  | nil =>
    rw [weight_gather_nil, weight_gather_nil]
    split <;> split <;> omega
  | cons line rest ih =>
    cases hidle : isIdle line with
    | true => simpa only [gather_cons_idle hidle] using ih h
    | false =>
      by_cases hlast : line.getLast? = some ';'
      · -- Both statements end here, and what follows them is read the same way.
        rw [weight_gather_complete hidle hlast, weight_gather_complete hidle hlast]
        omega
      · have hextend : solidCount (extend fewer line) ≤ solidCount (extend more line) := by
          rw [solidCount_extend, solidCount_extend]
          exact Nat.add_le_add_right h _
        have hextended := ih hextend
        rw [solidCount_extend, solidCount_extend] at hextended
        rw [gather_cons_open hidle hlast, gather_cons_open hidle hlast]
        omega

/-- How many characters of the lines that belong to statements are not blank. -/
def busyCount (lines : List (List Char)) : Nat :=
  ((lines.filter fun line => !isIdle line).map solidCount).sum

/-- What stands before some lines adds all it has to their statements. -/
theorem weight_gather_append (pending : List Char) (lines rest : List (List Char)) :
    weight (gather [] rest) + solidCount pending + busyCount lines ≤
      weight (gather pending (lines ++ rest)) := by
  induction lines generalizing pending with
  | nil =>
    have hfewer : solidCount [] ≤ solidCount pending := Nat.zero_le _
    have hmono := weight_gather_mono hfewer rest
    simpa [busyCount, solidCount] using hmono
  | cons line lines ih =>
    cases hidle : isIdle line with
    | true => simpa [gather_cons_idle hidle, busyCount, hidle] using ih pending
    | false =>
      have hcount : busyCount (line :: lines) = solidCount line + busyCount lines := by
        simp [busyCount, hidle]
      rw [List.cons_append, hcount]
      by_cases hlast : line.getLast? = some ';'
      · have hrest := ih []
        rw [weight_gather_complete hidle hlast]
        omega
      · have hopen := ih (extend pending line)
        rw [solidCount_extend] at hopen
        rw [gather_cons_open hidle hlast]
        omega

/-- A trimmed line that belongs to a statement is not blank. -/
theorem solidCount_pos_of_busy {line : List Char} (h : isIdle (trimBoth line) = false) :
    0 < solidCount (trimBoth line) := by
  rw [Text.solidCount_trimBoth]
  exact Nat.pos_of_ne_zero (mt Text.trimBoth_eq_nil_iff.mpr (ne_nil_of_busy h))

/-- Lines before a script leave its statements as they are exactly if they belong to none. -/
theorem gather_append_eq_iff (lines rest : List (List Char)) :
    gather [] (lines.map trimBoth ++ rest) = gather [] rest ↔
      ∀ line ∈ lines, isIdle (trimBoth line) = true := by
  refine ⟨fun heq line hline => ?_, fun h => ?_⟩
  case refine_2 => exact gather_append_idle (List.forall_mem_map.mpr h) [] rest
  -- A line that belongs to a statement adds to the weight, which equal statements do not allow.
  by_contra hbusy
  rw [Bool.not_eq_true] at hbusy
  have hpart : solidCount (trimBoth line) ≤ busyCount (lines.map trimBoth) := by
    have hmem : trimBoth line ∈ (lines.map trimBoth).filter fun line => !isIdle line :=
      List.mem_filter.mpr ⟨List.mem_map_of_mem hline, by rw [hbusy]; rfl⟩
    exact List.le_sum_of_mem (List.mem_map_of_mem hmem)
  have hpos := solidCount_pos_of_busy hbusy
  have hweight := weight_gather_append [] (lines.map trimBoth) rest
  rw [heq] at hweight
  omega

/-! ## The header of a script -/

/-- What the domain and the version of an ontology hold after their first line feed, as lines. -/
def strayLines (o : Ontology) : List (List Char) :=
  (splitAtFeeds (o.domain ++ " v" ++ o.version).toList).tail

/-- The domain and the version put nothing into the script that belongs to a statement. -/
def HarmlessHeader (o : Ontology) : Prop :=
  ∀ line ∈ strayLines o, isIdle (trimBoth line) = true

instance (o : Ontology) : Decidable (HarmlessHeader o) :=
  inferInstanceAs (Decidable (∀ line ∈ strayLines o, isIdle (trimBoth line) = true))

/-- Without a line feed in domain and version, the header gives no statement. -/
theorem harmlessHeader_of_feedFree {o : Ontology} (hdomain : Text.FeedFree o.domain)
    (hversion : Text.FeedFree o.version) : HarmlessHeader o := by
  have hfree : Text.FeedFree (o.domain ++ " v" ++ o.version) := by
    simp only [Text.feedFree_append]
    exact ⟨⟨hdomain, by decide⟩, hversion⟩
  rw [HarmlessHeader, strayLines, Text.splitAtFeeds_of_not_mem hfree]
  exact fun line hline => absurd hline List.not_mem_nil

def sourceLine (o : Ontology) : String := "// Ontology: " ++ o.domain ++ " v" ++ o.version

def bodyLines (nodes : List NodeType) (relationships : List RelationshipType) : List String :=
  "" :: (sectionLines "Constraints" ++ nodes.flatMap (nodeLines "constraints" constraints)) ++
    (sectionLines "Indexes" ++ nodes.flatMap (nodeLines "indexes" indexes)) ++
    (sectionLines "Relationship Indexes" ++
      relationships.flatMap fun rel => objectLines (relationshipIndexes rel))

def openingLines : List String :=
  ["// Auto-generated Neo4j schema from ontology",
    "// DO NOT EDIT - regenerate with `corpus generate`"]

/-- A script is its opening comments, the line that names its source, and its body. -/
theorem scriptLines_eq (o : Ontology) :
    scriptLines o =
      openingLines ++ sourceLine o :: bodyLines o.nodeTypes o.relationshipTypes := by
  simp only [scriptLines, bodyLines, List.append_assoc, List.cons_append]
  rfl

/-- Lines as they are read: cut where a line feed is in one of them, and trimmed. -/
def readLines (lines : List String) : List (List Char) :=
  (lines.flatMap fun line => splitAtFeeds line.toList).map trimBoth

@[simp]
theorem readLines_append (lines more : List String) :
    readLines (lines ++ more) = readLines lines ++ readLines more := by
  simp [readLines]

/-- The first line of the comment is a comment; the lines after it are as they are. -/
theorem readLines_sourceLine (o : Ontology) :
    ∃ first : List Char,
      readLines [sourceLine o] = trimBoth first :: (strayLines o).map trimBoth ∧
        isIdle (trimBoth first) = true := by
  obtain ⟨first, rest, hpieces⟩ := List.exists_cons_of_ne_nil
    (Text.splitAtFeeds_ne_nil (o.domain ++ " v" ++ o.version).toList)
  have hstray : strayLines o = rest := by rw [strayLines, hpieces, List.tail_cons]
  have hsource : splitAtFeeds (sourceLine o).toList =
      ("// Ontology: ".toList ++ first) :: rest := by
    have hfree : '\n' ∉ "// Ontology: ".toList := by decide
    have hcut := Text.splitAtFeeds_append hfree first rest hpieces
    rwa [← String.toList_append, ← String.append_assoc, ← String.append_assoc] at hcut
  have hcomment : IsComment (String.ofList ("// Ontology: ".toList ++ first)) := by
    rw [IsComment, String.toList_ofList]
    exact (by decide : ['/', '/'] <+: "// Ontology: ".toList).trans (List.prefix_append _ _)
  refine ⟨"// Ontology: ".toList ++ first, ?_, ?_⟩
  · rw [readLines, List.flatMap_singleton, hsource, hstray, List.map_cons]
  · simpa only [String.toList_ofList] using hcomment.isIdle

/-- The statements of a script are gathered from its lines as they are read. -/
theorem statementsOf_joinLines {lines : List String} (h : lines ≠ []) :
    statementsOf (Text.joinLines lines).toList = gather [] (readLines lines) := by
  obtain ⟨first, rest, rfl⟩ := List.exists_cons_of_ne_nil h
  rw [statementsOf_eq_gather, Text.joinLines, String.toList_ofList, List.map_cons,
    Text.splitAtFeeds_joinFeeds_eq_flatMap, ← List.map_cons, List.flatMap_map, readLines]

/-- The statements of a script are those of its body, with the stray lines before it. -/
theorem statementsOf_script (o : Ontology) :
    statementsOf (script o).toList =
      gather [] ((strayLines o).map trimBoth ++
        readLines (bodyLines o.nodeTypes o.relationshipTypes)) := by
  have hopening : ∀ line ∈ readLines openingLines, isIdle line = true := by decide
  obtain ⟨first, hsource, hfirst⟩ := readLines_sourceLine o
  rw [script, scriptLines_eq, statementsOf_joinLines (by simp), List.append_cons,
    readLines_append, readLines_append, hsource, List.append_assoc, gather_append_idle hopening,
    List.cons_append, gather_cons_idle hfirst]

def bodyStatements (nodes : List NodeType) (relationships : List RelationshipType) :
    List String :=
  (gather [] (readLines (bodyLines nodes relationships))).map String.ofList

/-- A script has the statements of its types exactly if its header is harmless. -/
theorem statements_script_eq_iff (o : Ontology) :
    statements (script o) = bodyStatements o.nodeTypes o.relationshipTypes ↔ HarmlessHeader o := by
  have hinjective : Function.Injective (List.map String.ofList) :=
    List.map_injective_iff.mpr fun _ _ h => String.ofList_injective h
  rw [statements, statementsOf_script, bodyStatements, hinjective.eq_iff, gather_append_eq_iff]
  rfl

end Ontograph.Cypher
