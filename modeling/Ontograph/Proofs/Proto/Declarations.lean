/-
Ontograph.Proofs.Proto.Declarations — what the interface of an ontology
declares, its comments apart.

`declarations` takes from each line of a text what stands before the first two
slashes, without blanks at the end, and drops what is empty. Descriptions, the
domain and the version are written behind two slashes, and only there
(`remarks`). A remark of one line is gone with its comment. If it holds a line
feed, what comes after that is a line of the file like any other (`stray`).

The declarations of a file are therefore those of the model (`Message.of` for
each node type, after what every file begins with), and between them what the
remarks let out (`says_interfaceLines`). They are the model's alone exactly if
every remark is harmless (`declarations_interface_iff`), which decides about
files of ontologies that differ in their descriptions only
(`declarations_eq_iff`).
-/
import Mathlib.Algebra.GroupWithZero.Nat
import Mathlib.Algebra.Order.BigOperators.Group.List
import Mathlib.Algebra.Order.Group.Nat
import Ontograph.Proofs.Proto.Symbols

namespace Ontograph.Proto

open Text (FeedFree isBlank splitAtFeeds trimRight)

/-! ## Declarations of a text -/

def beforeComment : List Char → List Char
  | [] => []
  | c :: rest => if ['/', '/'].isPrefixOf (c :: rest) then [] else c :: beforeComment rest

/-- What a line declares: what is left of it without its comment and without blanks at the end. -/
def declaration? (line : List Char) : Option String :=
  let kept := trimRight (beforeComment line)
  if kept.isEmpty then none else some (String.ofList kept)

def declarations (text : String) : List String := (splitAtFeeds text.toList).filterMap declaration?

/-- What a text lets out of a comment of one line: the declarations after its first line feed. -/
def stray (remark : String) : List String :=
  (splitAtFeeds remark.toList).tail.filterMap declaration?

/-- A comment begins at the first two slashes. -/
theorem beforeComment_append {cs : List Char} (h : '/' ∉ cs) (rest : List Char) :
    beforeComment (cs ++ '/' :: '/' :: rest) = cs := by
  induction cs with
  | nil => rfl
  | cons c cs ih =>
    rw [List.mem_cons, not_or] at h
    rw [List.cons_append, beforeComment, if_neg (by simp [List.isPrefixOf, h.1]), ih h.2]

theorem beforeComment_of_not_mem {cs : List Char} (h : '/' ∉ cs) : beforeComment cs = cs := by
  induction cs with
  | nil => rfl
  | cons c cs ih =>
    rw [List.mem_cons, not_or] at h
    rw [beforeComment, if_neg (by simp [List.isPrefixOf, h.1]), ih h.2]

/-- A remark on one line lets nothing out. -/
theorem stray_of_feedFree {remark : String} (h : FeedFree remark) : stray remark = [] := by
  rw [stray, Text.splitAtFeeds_of_not_mem h]
  rfl

/-- What stands before a remark on its first line lets nothing out. -/
theorem splitAtFeeds_remark {front : String} (h : FeedFree front) (remark : String) :
    ∃ first : List Char, splitAtFeeds (front ++ remark).toList =
      (front.toList ++ first) :: (splitAtFeeds remark.toList).tail := by
  obtain ⟨first, rest, hpieces⟩ :=
    List.exists_cons_of_ne_nil (Text.splitAtFeeds_ne_nil remark.toList)
  rw [String.toList_append, Text.splitAtFeeds_append h first rest hpieces, hpieces]
  exact ⟨first, rfl⟩

/-- A text declares what its lines declare. -/
theorem declarations_joinLines {lines : List String} (h : lines ≠ []) :
    declarations (Text.joinLines lines) = lines.flatMap declarations := by
  obtain ⟨first, rest, rfl⟩ := List.exists_cons_of_ne_nil h
  rw [declarations, Text.joinLines, String.toList_ofList, List.map_cons,
    Text.splitAtFeeds_joinFeeds_eq_flatMap, ← List.map_cons, List.flatMap_map,
    List.filterMap_flatMap]
  rfl

/-! ## Lines without comments -/

/-- A text with neither slashes nor line feeds. -/
def Bare (s : String) : Prop := ∀ c ∈ s.toList, c ≠ '/' ∧ c ≠ '\n'

-- By name: where all characters are enumerable, the search would find that instance first.
instance (s : String) : Decidable (Bare s) :=
  List.decidableBAll (fun c => c ≠ '/' ∧ c ≠ '\n') s.toList

@[simp]
theorem bare_append {s t : String} : Bare (s ++ t) ↔ Bare s ∧ Bare t := by
  simp only [Bare, String.toList_append, List.forall_mem_append]

theorem Bare.feedFree {s : String} (h : Bare s) : FeedFree s := fun hfeed => (h '\n' hfeed).2 rfl

theorem Bare.slash_not_mem {s : String} (h : Bare s) : '/' ∉ s.toList :=
  fun hslash => (h '/' hslash).1 rfl

theorem bare_of_chars {s : String} (h : ∀ c ∈ s.toList, isIdentifierChar c = true) : Bare s := by
  intro c hc
  have hchar := h c hc
  constructor <;> rintro rfl <;> exact absurd hchar (by decide)

/-- A line that declares all that it says: it has no comment and does not end in a blank. -/
structure IsDeclaration (line : String) : Prop where
  bare : Bare line
  solid : ∃ c ∈ line.toList.getLast?, isBlank c = false

namespace IsDeclaration

theorem trimRight_eq {line : String} (h : IsDeclaration line) :
    trimRight line.toList = line.toList := by
  obtain ⟨c, hlast, hblank⟩ := h.solid
  obtain ⟨init, hline⟩ := List.getLast?_eq_some_iff.mp hlast
  rw [hline, Text.trimRight_concat_of_not_blank hblank]

theorem ne_nil {line : String} (h : IsDeclaration line) : line.toList ≠ [] := by
  obtain ⟨c, hlast, -⟩ := h.solid
  exact List.ne_nil_of_mem (List.mem_of_getLast? hlast)

theorem declaration?_eq {line : String} (h : IsDeclaration line) :
    declaration? line.toList = some line := by
  rw [declaration?, beforeComment_of_not_mem h.bare.slash_not_mem, h.trimRight_eq,
    if_neg (by simpa using h.ne_nil), String.ofList_toList]

/-- Blanks before a comment do not count. -/
theorem declaration?_blanks {line : String} (h : IsDeclaration line) :
    declaration? (line ++ "  ").toList = some line := by
  have hbare : Bare (line ++ "  ") := bare_append.mpr ⟨h.bare, by decide⟩
  have htrim : trimRight (line ++ "  ").toList = line.toList := by
    rw [String.toList_append, show "  ".toList = [' ', ' '] from rfl, List.append_cons,
      Text.trimRight_concat_of_blank (by decide), Text.trimRight_concat_of_blank (by decide),
      h.trimRight_eq]
  rw [declaration?, beforeComment_of_not_mem hbare.slash_not_mem, htrim,
    if_neg (by simpa using h.ne_nil), String.ofList_toList]

/-- As a line of a text, a declaration declares itself and nothing else. -/
theorem declarations_eq {line : String} (h : IsDeclaration line) : declarations line = [line] := by
  rw [declarations, Text.splitAtFeeds_of_not_mem h.bare.feedFree, List.filterMap_cons,
    h.declaration?_eq]
  rfl

end IsDeclaration

/-! ## Lines with remarks -/

/-- Some lines declare what is given as `kept`, in this order, and between that what their remarks
let out. -/
structure Says (lines kept remarks : List String) : Prop where
  sublist : kept.Sublist (lines.flatMap declarations)
  length : (lines.flatMap declarations).length =
    kept.length + (remarks.map fun remark => (stray remark).length).sum

namespace Says

/-- Lines without remarks say what they declare. -/
theorem self (lines : List String) : Says lines (lines.flatMap declarations) [] :=
  ⟨List.Sublist.refl _, rfl⟩

theorem fixed {lines kept : List String} (h : lines.flatMap declarations = kept) :
    Says lines kept [] := h ▸ self lines

/-- What two parts say they say one after the other. -/
theorem append {lines more kept kept' remarks remarks' : List String}
    (h : Says lines kept remarks) (h' : Says more kept' remarks') :
    Says (lines ++ more) (kept ++ kept') (remarks ++ remarks') where
  sublist := by
    rw [List.flatMap_append]
    exact h.sublist.append h'.sublist
  length := by
    simp only [List.flatMap_append, List.length_append, List.map_append, List.sum_append, h.length,
      h'.length]
    omega

/-- Lines that declare nothing may stand before others. -/
theorem idle_append {idle lines kept remarks : List String} (h : Says idle [] [])
    (h' : Says lines kept remarks) : Says (idle ++ lines) kept remarks := h.append h'

/-- Lines that declare nothing may stand behind others. -/
theorem append_idle {idle lines kept remarks : List String} (h' : Says lines kept remarks)
    (h : Says idle [] []) : Says (lines ++ idle) kept remarks := by
  have happend := h'.append h
  rwa [List.append_nil, List.append_nil] at happend

theorem flatMap {α : Type} {things : List α} {lines kept remarks : α → List String}
    (h : ∀ a ∈ things, Says (lines a) (kept a) (remarks a)) :
    Says (things.flatMap lines) (things.flatMap kept) (things.flatMap remarks) := by
  induction things with
  | nil => exact fixed rfl
  | cons a rest ih =>
    rw [List.forall_mem_cons] at h
    exact h.1.append (ih h.2)

/-- Lines declare what they keep and nothing else exactly if no remark lets anything out. -/
theorem eq_iff {lines kept remarks : List String} (h : Says lines kept remarks) :
    lines.flatMap declarations = kept ↔ ∀ remark ∈ remarks, stray remark = [] := by
  have hsum : (remarks.map fun remark => (stray remark).length).sum = 0 ↔
      ∀ remark ∈ remarks, stray remark = [] := by
    simp only [List.sum_eq_zero_iff, List.forall_mem_map, List.length_eq_zero_iff]
  rw [← hsum]
  have hlength := h.length
  constructor
  · intro heq
    rw [heq] at hlength
    omega
  · intro hzero
    exact (h.sublist.eq_of_length (by omega)).symm

/-- A remark that is left out might as well have been one that lets nothing out. -/
theorem silent {lines kept : List String} (h : Says lines kept []) {remark : String}
    (hremark : stray remark = []) : Says lines kept [remark] :=
  ⟨h.sublist, by rw [h.length, List.map_singleton, hremark]; rfl⟩

/-- Lines without comments say themselves. -/
theorem plain {lines : List String} (h : ∀ line ∈ lines, IsDeclaration line) :
    Says lines lines [] := by
  refine fixed ?_
  rw [List.flatMap_congr fun line hline => (h line hline).declarations_eq, List.flatMap_singleton']

/-- A line with a comment declares what stands before the comment. -/
theorem commented {front opening : String} (hfront : Bare front) (hopening : FeedFree opening)
    (remark : String) :
    Says [front ++ "//" ++ opening ++ remark] (declaration? front.toList).toList [remark] := by
  have hfree : FeedFree (front ++ "//" ++ opening) := by
    simp only [Text.feedFree_append]
    exact ⟨⟨hfront.feedFree, by decide⟩, hopening⟩
  obtain ⟨first, hpieces⟩ := splitAtFeeds_remark hfree remark
  have hkept : declaration? ((front ++ "//" ++ opening).toList ++ first) =
      declaration? front.toList := by
    have hcut := beforeComment_append hfront.slash_not_mem (opening.toList ++ first)
    have hline : (front ++ "//" ++ opening).toList ++ first =
        front.toList ++ '/' :: '/' :: (opening.toList ++ first) := by
      simp
    rw [declaration?, declaration?, hline, hcut, beforeComment_of_not_mem hfront.slash_not_mem]
  have hdeclared : declarations (front ++ "//" ++ opening ++ remark) =
      (declaration? front.toList).toList ++ stray remark := by
    rw [declarations, hpieces, List.filterMap_cons, hkept, stray]
    cases declaration? front.toList <;> rfl
  constructor
  · rw [List.flatMap_singleton, hdeclared]
    exact List.sublist_append_left _ _
  · rw [List.flatMap_singleton, hdeclared, List.length_append, List.map_singleton,
      List.sum_singleton]

end Says

/-! ## Messages of node types -/

/-- A field of a message. -/
structure Field where
  type : String
  name : String
  number : Nat
  deriving DecidableEq, Repr

/-- A message with its fields. -/
structure Message where
  name : String
  fields : List Field
  deriving DecidableEq, Repr

def Field.line (f : Field) : String :=
  "  " ++ f.type ++ " " ++ f.name ++ " = " ++ toString f.number ++ ";"

def Message.lines (m : Message) : List String :=
  ("message " ++ m.name ++ " \x7b") :: m.fields.map Field.line ++ ["\x7d"]

def fieldsFrom (n : Nat) : List (Property × String) → List Field
  | [] => []
  | (p, field) :: rest => ⟨wireType p.type, field, n⟩ :: fieldsFrom (n + 1) rest

def Message.of (node : NodeType) : Message where
  name := messageName node.name
  fields := fieldsFrom 1 (node.properties.zip (fieldNames [] node.properties))

theorem solid_append {front ending : String}
    (h : ∃ c ∈ ending.toList.getLast?, isBlank c = false) :
    ∃ c ∈ (front ++ ending).toList.getLast?, isBlank c = false := by
  obtain ⟨c, hlast, hblank⟩ := h
  refine ⟨c, ?_, hblank⟩
  rw [String.toList_append, List.getLast?_append, Option.mem_def.mp hlast]
  rfl

theorem bare_wireType (type : PropertyType) : Bare (wireType type) := by
  unfold wireType
  split <;> decide

/-- The line of a field is a declaration. -/
theorem isDeclaration_field {type name : String} (htype : Bare type) (hname : Bare name) (n : Nat) :
    IsDeclaration (Field.line ⟨type, name, n⟩) where
  bare := by
    simp only [Field.line, bare_append]
    exact ⟨⟨⟨⟨⟨⟨by decide, htype⟩, by decide⟩, hname⟩, by decide⟩,
      bare_of_chars (toString_chars n)⟩, by decide⟩
  solid := solid_append ⟨';', rfl, by decide⟩

theorem isDeclaration_opening {name : String} (hname : Bare name) :
    IsDeclaration ("message " ++ name ++ " \x7b") where
  bare := by
    simp only [bare_append]
    exact ⟨⟨by decide, hname⟩, by decide⟩
  solid := solid_append ⟨'\x7b', rfl, by decide⟩

/-- A comment behind a declaration. -/
theorem says_trailingComment {line : String} (h : IsDeclaration line) (remark : String) :
    Says [line ++ trailingComment remark] [line] [remark] := by
  unfold trailingComment
  split
  · rename_i hempty
    have hremark : remark = "" := by simpa using hempty
    rw [String.append_empty, hremark]
    exact (Says.plain (List.forall_mem_singleton.mpr h)).silent (stray_of_feedFree (by decide))
  · have hfront : Bare (line ++ "  ") := bare_append.mpr ⟨h.bare, by decide⟩
    have hcommented := Says.commented hfront (by decide : FeedFree " ") remark
    rw [h.declaration?_blanks] at hcommented
    have hline : line ++ ("  // " ++ remark) = line ++ "  " ++ "//" ++ " " ++ remark := by
      simp only [String.append_assoc]
      rfl
    rw [hline]
    exact hcommented

/-- Field lines say their fields, with the descriptions in comments. -/
theorem says_fieldLines {fields : List (Property × String)} (h : ∀ f ∈ fields, Bare f.2) (n : Nat) :
    Says (fieldLines n fields) ((fieldsFrom n fields).map Field.line)
      (fields.map fun f => f.1.description) := by
  induction fields generalizing n with
  | nil => exact .plain (by simp [fieldLines])
  | cons field rest ih =>
    rw [List.forall_mem_cons] at h
    have hfield := isDeclaration_field (bare_wireType field.1.type) h.1 n
    exact (says_trailingComment hfield field.1.description).append (ih h.2 (n + 1))

def nodeRemarks (node : NodeType) : List String :=
  node.description :: node.properties.map Property.description

theorem length_fieldNames (used : List String) (ps : List Property) :
    (fieldNames used ps).length = ps.length := by
  induction ps generalizing used with
  | nil => rfl
  | cons p rest ih => exact congrArg Nat.succ (ih _)

/-- The lines of a message say the message, with the remarks on its node type. -/
theorem says_messageLines (node : NodeType) :
    Says (messageLines node) (Message.of node).lines (nodeRemarks node) := by
  have hcomment : Says (if node.description.isEmpty then [] else ["// " ++ node.description]) []
      [node.description] := by
    split
    · rename_i hempty
      have hdescription : node.description = "" := by simpa using hempty
      rw [hdescription]
      exact (Says.fixed rfl).silent (stray_of_feedFree (by decide))
    · exact Says.commented (by decide : Bare "") (by decide : FeedFree " ") node.description
  have hopening : Says ["message " ++ messageName node.name ++ " \x7b"]
      ["message " ++ messageName node.name ++ " \x7b"] [] :=
    .plain (List.forall_mem_singleton.mpr
      (isDeclaration_opening (bare_of_chars (messageName_chars node.name))))
  have hnames : ∀ f ∈ node.properties.zip (fieldNames [] node.properties), Bare f.2 := fun f hf =>
    bare_of_chars (fieldNames_chars [] node.properties f.2 (List.of_mem_zip hf).2)
  have hfields := says_fieldLines hnames 1
  have hremarks : ((node.properties.zip (fieldNames [] node.properties)).map fun f =>
      f.1.description) = node.properties.map Property.description := by
    have hlength : node.properties.length ≤ (fieldNames [] node.properties).length :=
      (length_fieldNames [] node.properties).ge
    conv_rhs => rw [← List.map_fst_zip hlength, List.map_map]
    rfl
  have hclosing : Says ["\x7d"] ["\x7d"] [] := .fixed rfl
  have hmessage := hcomment.append ((hopening.append hfields).append hclosing)
  rw [hremarks] at hmessage
  exact (by simpa [messageLines, Message.lines, Message.of, nodeRemarks] using hmessage)

/-! ## The file -/

def opening (domain : String) : List String :=
  ["syntax = \"proto3\";", "package " ++ packageName domain ++ ";"] ++
    serviceLines.flatMap declarations ++ genericLines.flatMap declarations

/-- What the file of an ontology is to declare. -/
def intended (o : Ontology) : List String :=
  opening o.domain ++ o.nodeTypes.flatMap fun node => (Message.of node).lines

def remarks (o : Ontology) : List String :=
  (o.domain ++ " v" ++ o.version) :: o.nodeTypes.flatMap nodeRemarks

def openingLines (o : Ontology) : List String :=
  Cypher.fileHeader "gRPC proto" o ++
    ["syntax = \"proto3\";", "", "package " ++ packageName o.domain ++ ";", ""] ++
    (Cypher.sectionLines "Service Definition" ++ serviceLines ++ [""]) ++
    (Cypher.sectionLines "Common Messages" ++ genericLines ++ [""]) ++
    Cypher.sectionLines "Entity Messages (generated from ontology)"

/-- The lines of the file are those that open it and those of its node types. -/
theorem interfaceLines_eq (o : Ontology) : interfaceLines o =
    openingLines o ++ o.nodeTypes.flatMap fun node => messageLines node ++ [""] :=
  (List.append_assoc ..).symm

theorem says_blank : Says [""] [] [] := .fixed rfl

theorem says_sectionLines : ∀ title ∈ ["Service Definition", "Common Messages",
    "Entity Messages (generated from ontology)"], Says (Cypher.sectionLines title) [] [] := by
  have hnone : ∀ title ∈ ["Service Definition", "Common Messages",
      "Entity Messages (generated from ontology)"],
      (Cypher.sectionLines title).flatMap declarations = [] := by decide +kernel
  exact fun title htitle => .fixed (hnone title htitle)

/-- The header declares nothing and has one remark. -/
theorem says_fileHeader (o : Ontology) :
    Says (Cypher.fileHeader "gRPC proto" o) [] [o.domain ++ " v" ++ o.version] := by
  have hfixed : Says ["// Auto-generated gRPC proto from ontology",
      "// DO NOT EDIT - regenerate with `corpus generate`"] [] [] := .fixed (by decide +kernel)
  have hsource : Says ["" ++ "//" ++ " Ontology: " ++ (o.domain ++ " v" ++ o.version)] []
      [o.domain ++ " v" ++ o.version] := .commented (by decide) (by decide) _
  simpa [Cypher.fileHeader, String.append_assoc] using (hfixed.append hsource).append says_blank

theorem says_package (domain : String) :
    Says ["syntax = \"proto3\";", "", "package " ++ packageName domain ++ ";", ""]
      ["syntax = \"proto3\";", "package " ++ packageName domain ++ ";"] [] := by
  have hname : IsDeclaration ("package " ++ packageName domain ++ ";") := by
    refine ⟨?_, solid_append ⟨';', rfl, by decide⟩⟩
    simp only [packageName, bare_append]
    exact ⟨⟨by decide, by decide, bare_of_chars (identifier_chars _)⟩, by decide⟩
  have hsyntax : declarations "syntax = \"proto3\";" = ["syntax = \"proto3\";"] := by
    decide +kernel
  have hempty : declarations "" = [] := rfl
  exact .fixed (by simp only [List.flatMap_cons, List.flatMap_nil, hname.declarations_eq, hsyntax,
    hempty, List.append_nil, List.nil_append, List.cons_append])

/-- What opens the file depends on the domain, and its one remark is the domain with the version. -/
theorem says_openingLines (o : Ontology) :
    Says (openingLines o) (opening o.domain) [o.domain ++ " v" ++ o.version] := by
  have hhead : Says (Cypher.fileHeader "gRPC proto" o ++
      ["syntax = \"proto3\";", "", "package " ++ packageName o.domain ++ ";", ""])
      ["syntax = \"proto3\";", "package " ++ packageName o.domain ++ ";"]
      [o.domain ++ " v" ++ o.version] := (says_fileHeader o).append (says_package o.domain)
  have hservice : Says (Cypher.sectionLines "Service Definition" ++ serviceLines ++ [""])
      (serviceLines.flatMap declarations) [] :=
    ((says_sectionLines _ (by simp)).idle_append (.self serviceLines)).append_idle says_blank
  have hgeneric : Says (Cypher.sectionLines "Common Messages" ++ genericLines ++ [""])
      (genericLines.flatMap declarations) [] :=
    ((says_sectionLines _ (by simp)).idle_append (.self genericLines)).append_idle says_blank
  exact ((hhead.append hservice).append hgeneric).append_idle (says_sectionLines _ (by simp))

/-- The file of an ontology declares what it is to declare, and what its remarks let out. -/
theorem says_interfaceLines (o : Ontology) : Says (interfaceLines o) (intended o) (remarks o) := by
  rw [interfaceLines_eq]
  exact (says_openingLines o).append
    (.flatMap fun node _ => (says_messageLines node).append_idle says_blank)

/-- No comment of an ontology's file lets a declaration out. -/
def HarmlessComments (o : Ontology) : Prop := ∀ remark ∈ remarks o, stray remark = []

instance (o : Ontology) : Decidable (HarmlessComments o) :=
  inferInstanceAs (Decidable (∀ remark ∈ remarks o, stray remark = []))

theorem declarations_interface (o : Ontology) :
    declarations (interface o) = (interfaceLines o).flatMap declarations :=
  declarations_joinLines (List.cons_ne_nil _ _)

/-- The file declares what is intended exactly if its comments are harmless. -/
theorem declarations_interface_iff (o : Ontology) :
    declarations (interface o) = intended o ↔ HarmlessComments o := by
  rw [declarations_interface]
  exact (says_interfaceLines o).eq_iff

/-- What is intended stands in the file in any case, in its order. -/
theorem intended_sublist (o : Ontology) : (intended o).Sublist (declarations (interface o)) := by
  rw [declarations_interface]
  exact (says_interfaceLines o).sublist

/-- After a harmless header, the file declares what the lines of its node types do. -/
theorem declarations_of_header {o : Ontology} (h : stray (o.domain ++ " v" ++ o.version) = []) :
    declarations (interface o) = opening o.domain ++
      o.nodeTypes.flatMap fun node => (messageLines node).flatMap declarations := by
  have hopening : (openingLines o).flatMap declarations = opening o.domain :=
    (says_openingLines o).eq_iff.mpr (List.forall_mem_singleton.mpr h)
  have hnode (node : NodeType) : (messageLines node ++ [""]).flatMap declarations =
      (messageLines node).flatMap declarations := by
    rw [List.flatMap_append]
    exact List.append_nil _
  rw [declarations_interface, interfaceLines_eq, List.flatMap_append, hopening, List.flatMap_assoc]
  simp only [hnode]

/-- Comments of one line each are harmless. -/
theorem FeedFreeComments.harmless {o : Ontology} (h : FeedFreeComments o) :
    HarmlessComments o := by
  intro remark hremark
  refine stray_of_feedFree ?_
  rcases List.mem_cons.mp hremark with rfl | hremark
  · simp only [Text.feedFree_append]
    exact ⟨⟨h.domain, by decide⟩, h.version⟩
  · obtain ⟨node, hnode, hmem⟩ := List.mem_flatMap.mp hremark
    rcases List.mem_cons.mp hmem with rfl | hmem
    · exact (h.nodes node hnode).1
    · obtain ⟨p, hp, rfl⟩ := List.mem_map.mp hmem
      exact (h.nodes node hnode).2 p hp

/-! ## Ontologies that differ in their descriptions -/

def undescribed (node : NodeType) : NodeType :=
  { node with
    description := ""
    properties := node.properties.map fun p => { p with description := "" } }

theorem fieldNames_undescribed (used : List String) (ps : List Property) :
    fieldNames used (ps.map fun p => { p with description := "" }) = fieldNames used ps := by
  induction ps generalizing used with
  | nil => rfl
  | cons p rest ih => simp only [List.map_cons, fieldNames, ih]

theorem fieldsFrom_undescribed (n : Nat) (ps : List Property) (fields : List String) :
    fieldsFrom n ((ps.map fun p => { p with description := "" }).zip fields) =
      fieldsFrom n (ps.zip fields) := by
  induction ps generalizing n fields with
  | nil => rfl
  | cons p rest ih =>
    cases fields with
    | nil => rfl
    | cons field fields => simp only [List.map_cons, List.zip_cons_cons, fieldsFrom, ih]

/-- A message does not depend on descriptions. -/
theorem message_undescribed (node : NodeType) :
    Message.of (undescribed node) = Message.of node := by
  simp only [Message.of, undescribed, fieldNames_undescribed, fieldsFrom_undescribed]

/-- Two ontologies that differ in their descriptions and versions at most, as far as node types
go. -/
structure SameButDescriptions (p o : Ontology) : Prop where
  domain : p.domain = o.domain
  nodes : p.nodeTypes.map undescribed = o.nodeTypes.map undescribed

theorem SameButDescriptions.intended_eq {p o : Ontology} (h : SameButDescriptions p o) :
    intended p = intended o := by
  have hmessages (q : Ontology) : (q.nodeTypes.flatMap fun node => (Message.of node).lines) =
      (q.nodeTypes.map undescribed).flatMap fun node => (Message.of node).lines := by
    rw [List.flatMap_map]
    exact List.flatMap_congr fun node _ => by rw [message_undescribed]
  rw [intended, intended, hmessages p, hmessages o, h.nodes, h.domain]

/-- **Which descriptions change declarations.** Beside an ontology whose comments are harmless, one
that differs from it in descriptions and version declares all the same in its file. It declares
nothing else exactly if its own comments are harmless: after a line feed, their lines are blank or
comments again. That is so if they hold no line feeds. -/
theorem declarations_eq_iff {p o : Ontology} (h : SameButDescriptions p o)
    (ho : HarmlessComments o) :
    (declarations (interface o)).Sublist (declarations (interface p)) ∧
      (declarations (interface p) = declarations (interface o) ↔ HarmlessComments p) ∧
      (FeedFreeComments p → HarmlessComments p) := by
  rw [(declarations_interface_iff o).mpr ho, ← h.intended_eq]
  exact ⟨intended_sublist p, declarations_interface_iff p, FeedFreeComments.harmless⟩

def described (version node property : String) : Ontology :=
  ({ domain := "library", version } : Ontology).registerNode
    { name := "Document", description := node
      properties := [{ name := "title", type := .standard .string, description := property }] }

/-- Descriptions of several lines are harmless if their lines are blank or comments themselves. -/
theorem declarations_described :
    SameButDescriptions (described "2" "A document.\n\n// Of any kind." "Its title,\n // in full.")
        (described "1" "" "The title.") ∧
      declarations (interface
          (described "2" "A document.\n\n// Of any kind." "Its title,\n // in full.")) =
        declarations (interface (described "1" "" "The title.")) := by
  have hsame : SameButDescriptions
      (described "2" "A document.\n\n// Of any kind." "Its title,\n // in full.")
      (described "1" "" "The title.") := ⟨rfl, by decide⟩
  exact ⟨hsame, (declarations_eq_iff hsame (by decide +kernel)).2.1.mpr (by decide +kernel)⟩

/-- Both ontologies are accepted and differ in one description. What that says on its second line
is a message of the file. -/
theorem declarations_differ :
    (described "1" "A document." "").validate = .ok () ∧
      (described "1" "A document.\nmessage Ghost \x7b\x7d" "").validate = .ok () ∧
      SameButDescriptions (described "1" "A document.\nmessage Ghost \x7b\x7d" "")
        (described "1" "A document." "") ∧
      declarations (interface (described "1" "A document.\nmessage Ghost \x7b\x7d" "")) ≠
        declarations (interface (described "1" "A document." "")) ∧
      "message Ghost \x7b\x7d" ∈
        declarations (interface (described "1" "A document.\nmessage Ghost \x7b\x7d" "")) := by
  have hsame : SameButDescriptions (described "1" "A document.\nmessage Ghost \x7b\x7d" "")
      (described "1" "A document." "") := ⟨rfl, by decide⟩
  have hharmless : HarmlessComments (described "1" "A document." "") := by decide +kernel
  have hharmful : ¬ HarmlessComments (described "1" "A document.\nmessage Ghost \x7b\x7d" "") := by
    decide +kernel
  refine ⟨by decide, by decide, hsame, ?_, ?_⟩
  · rw [(declarations_interface_iff _).mpr hharmless, ← hsame.intended_eq]
    exact mt (declarations_interface_iff _).mp hharmful
  · rw [declarations_of_header (by decide +kernel)]
    exact List.mem_append_right _ (by decide +kernel)

end Ontograph.Proto
