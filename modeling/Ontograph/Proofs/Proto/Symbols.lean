/-
Ontograph.Proofs.Proto.Symbols — which names the interface of an ontology declares.

The file declares the service, the messages that the service uses, and one
message for each node type (`declaredNames_interface`). A type's message is
named by the type's identifier, or by that and `Node` where the identifier is
one of the service's own messages. Each name is made by itself, so that two
types have one message name exactly if they `Clash`: their identifiers are the
same, or one identifier is the other and `Node`, the other being taken by the
service (`messageName_eq_iff`).

No name of a message is one of the service's own messages, but it is the name
of the service for a type whose identifier is. `symbols_nodup_iff` is the whole
condition for a file without a repeated name. `validate` does not look at it:
`symbols_repeated` is an accepted ontology whose file declares a message twice.
-/
import Mathlib.Data.List.Nodup
import Ontograph.Proto.Interface
import Ontograph.Proofs.Cypher.Schema

namespace Ontograph.Proto

open Text (FeedFree)

/-! ## Identifiers -/

theorem identifierOf_chars (cs : List Char) : ∀ c ∈ identifierOf cs, isIdentifierChar c = true := by
  have hkept : ∀ c ∈ cs.map fun c => if isIdentifierChar c then c else '_',
      isIdentifierChar c = true := by
    intro c hc
    obtain ⟨d, -, rfl⟩ := List.mem_map.mp hc
    split
    · assumption
    · decide
  dsimp only [identifierOf]
  split
  · exact List.all_eq_true.mp (by decide)
  · rename_i first rest heq
    rw [heq] at hkept ⊢
    split
    · exact hkept
    · exact List.forall_mem_cons.mpr ⟨by decide, List.forall_mem_cons.mpr ⟨by decide, hkept⟩⟩

/-- An identifier has characters of identifiers only. -/
theorem identifier_chars (s : String) : ∀ c ∈ (identifier s).toList, isIdentifierChar c = true := by
  rw [identifier, String.toList_ofList]
  exact identifierOf_chars s.toList

theorem messageName_chars (type : String) :
    ∀ c ∈ (messageName type).toList, isIdentifierChar c = true := by
  dsimp only [messageName]
  split
  · rw [String.toList_append, List.forall_mem_append]
    exact ⟨identifier_chars type, List.all_eq_true.mp (by decide)⟩
  · exact identifier_chars type

/-- What is written with the characters of identifiers holds no line feed. -/
theorem feedFree_of_chars {s : String} (h : ∀ c ∈ s.toList, isIdentifierChar c = true) :
    FeedFree s := fun hfeed => absurd (h '\n' hfeed) (by decide)

/-! ## Names of messages -/

/-- The identifier of one type is taken by the service, and the other's is that and `Node`. -/
def Suffixed (s t : String) : Prop :=
  identifier s ∈ genericMessages ∧ identifier t = identifier s ++ "Node"

/-- Types that have one message name. -/
def Clash (s t : String) : Prop := identifier s = identifier t ∨ Suffixed s t ∨ Suffixed t s

theorem append_node_not_generic :
    ∀ base ∈ genericMessages, base ++ "Node" ∉ genericMessages := by decide +kernel

/-- A name that the service has taken is put off with an ending. -/
theorem messageName_of_generic {type : String} (h : identifier type ∈ genericMessages) :
    messageName type = identifier type ++ "Node" := if_pos h

theorem messageName_of_not_generic {type : String} (h : identifier type ∉ genericMessages) :
    messageName type = identifier type := if_neg h

theorem Suffixed.messageName_eq {s t : String} (h : Suffixed s t) :
    messageName s = messageName t := by
  have hnew : identifier t ∉ genericMessages := by
    rw [h.2]
    exact append_node_not_generic _ h.1
  rw [messageName_of_generic h.1, messageName_of_not_generic hnew, h.2]

/-- Two types have one message exactly if they clash. -/
theorem messageName_eq_iff {s t : String} : messageName s = messageName t ↔ Clash s t := by
  constructor
  · intro h
    by_cases hs : identifier s ∈ genericMessages <;> by_cases ht : identifier t ∈ genericMessages
    · rw [messageName_of_generic hs, messageName_of_generic ht] at h
      exact .inl (String.append_left_inj "Node" |>.mp h)
    · rw [messageName_of_generic hs, messageName_of_not_generic ht] at h
      exact .inr (.inl ⟨hs, h.symm⟩)
    · rw [messageName_of_not_generic hs, messageName_of_generic ht] at h
      exact .inr (.inr ⟨ht, h⟩)
    · rw [messageName_of_not_generic hs, messageName_of_not_generic ht] at h
      exact .inl h
  · rintro (h | h | h)
    · rw [messageName, messageName, h]
    · exact h.messageName_eq
    · exact h.messageName_eq.symm

/-- The messages of node types stay clear of the service's own. -/
theorem messageName_not_generic (type : String) : messageName type ∉ genericMessages := by
  by_cases h : identifier type ∈ genericMessages
  · rw [messageName_of_generic h]
    exact append_node_not_generic _ h
  · rw [messageName_of_not_generic h]
    exact h

def serviceName : String := "KnowledgeGraph"

/-- A message has the name of the service exactly if its identifier is that name. -/
theorem messageName_eq_serviceName_iff {type : String} :
    messageName type = serviceName ↔ identifier type = serviceName := by
  have hnode : ∀ base ∈ genericMessages, base ++ "Node" ≠ serviceName := by decide +kernel
  have hservice : serviceName ∉ genericMessages := by decide
  by_cases h : identifier type ∈ genericMessages
  · rw [messageName_of_generic h]
    exact iff_of_false (hnode _ h) fun heq => hservice (heq ▸ h)
  · rw [messageName_of_not_generic h]

/-! ## Declarations in the file -/

def symbols (o : Ontology) : List String :=
  serviceName :: (genericMessages ++ o.nodeTypes.map fun node => messageName node.name)

def keywords : List String := ["service ", "message "]

/-- The name that a line declares: what follows the keyword, up to a blank. -/
def declaredName? (line : String) : Option String :=
  (keywords.findSome? fun keyword => keyword.toList.isPrefixOf? line.toList).map fun rest =>
    String.ofList (rest.takeWhile (· ≠ ' '))

def declaredNames (text : String) : List String :=
  ((Text.splitAtFeeds text.toList).map String.ofList).filterMap declaredName?

/-- Lines that hold no line feeds and declare the given names. -/
structure Declares (lines names : List String) : Prop where
  feedFree : ∀ line ∈ lines, FeedFree line
  names : lines.filterMap declaredName? = names

theorem declares_iff {lines names : List String} :
    Declares lines names ↔
      (∀ line ∈ lines, FeedFree line) ∧ lines.filterMap declaredName? = names :=
  ⟨fun h => ⟨h.feedFree, h.names⟩, fun h => ⟨h.1, h.2⟩⟩

instance (lines names : List String) : Decidable (Declares lines names) :=
  decidable_of_iff' _ declares_iff

namespace Declares

/-- What two parts declare they declare one after the other. -/
theorem append {lines more names others : List String} (h : Declares lines names)
    (h' : Declares more others) : Declares (lines ++ more) (names ++ others) :=
  ⟨List.forall_mem_append.mpr ⟨h.feedFree, h'.feedFree⟩,
    by rw [List.filterMap_append, h.names, h'.names]⟩

theorem flatMap {α : Type} {things : List α} {lines names : α → List String}
    (h : ∀ a ∈ things, Declares (lines a) (names a)) :
    Declares (things.flatMap lines) (things.flatMap names) := by
  induction things with
  | nil => exact ⟨by simp, rfl⟩
  | cons a rest ih =>
    rw [List.forall_mem_cons] at h
    exact h.1.append (ih h.2)

/-- A line that begins with a character that begins no keyword declares nothing. -/
theorem idle {lines : List String} (hfeed : ∀ line ∈ lines, FeedFree line)
    (h : ∀ line ∈ lines, declaredName? line = none) : Declares lines [] :=
  ⟨hfeed, List.filterMap_eq_nil_iff.mpr h⟩

end Declares

/-- A line that begins with no keyword declares no name. -/
theorem declaredName?_of_head {line : String} {c : Char} (hhead : line.toList.head? = some c)
    (h : c ≠ 's' ∧ c ≠ 'm') : declaredName? line = none := by
  obtain ⟨rest, hline⟩ := List.head?_eq_some_iff.mp hhead
  simp [declaredName?, keywords, hline, List.isPrefixOf?, h.1.symm, h.2.symm]

/-- The line that opens a message declares it. -/
theorem declaredName?_message (type : String) :
    declaredName? ("message " ++ messageName type ++ " \x7b") = some (messageName type) := by
  have hname : ∀ c ∈ (messageName type).toList, decide (c ≠ ' ') = true := by
    intro c hc
    have hchar := messageName_chars type c hc
    rw [decide_eq_true_eq]
    rintro rfl
    exact absurd hchar (by decide)
  have hread : String.ofList (((messageName type).toList ++ [' ', '\x7b']).takeWhile (· ≠ ' ')) =
      messageName type := by
    rw [List.takeWhile_append_of_pos hname, List.takeWhile_cons_of_neg (by decide),
      List.append_nil, String.ofList_toList]
  simpa [declaredName?, keywords, List.isPrefixOf?] using hread

/-! ## The lines of the file -/

/-- No text that the file of an ontology holds in a comment has a line feed. -/
structure FeedFreeComments (o : Ontology) : Prop where
  domain : FeedFree o.domain
  version : FeedFree o.version
  nodes : ∀ node ∈ o.nodeTypes,
    FeedFree node.description ∧ ∀ p ∈ node.properties, FeedFree p.description

theorem toString_chars (n : Nat) : ∀ c ∈ (toString n).toList, isIdentifierChar c = true := by
  intro c hc
  rw [Nat.toString_eq_ofList_toDigits, String.toList_ofList] at hc
  have hdigit := Nat.isDigit_of_mem_toDigits (by decide) (by decide) hc
  simp [isIdentifierChar, Char.isAlphanum, hdigit]

theorem freshName_chars {used : List String} {base : String}
    (h : ∀ c ∈ base.toList, isIdentifierChar c = true) :
    ∀ c ∈ (freshName used base).toList, isIdentifierChar c = true := by
  have hnumbered (n : Nat) : ∀ c ∈ (numbered base n).toList, isIdentifierChar c = true := by
    simp only [numbered, String.toList_append, List.forall_mem_append]
    exact ⟨⟨h, List.all_eq_true.mp (by decide)⟩, toString_chars n⟩
  unfold freshName
  split
  · cases hfound : ((List.range (used.length + 1)).map fun n => numbered base (n + 2)).find?
        (· ∉ used) with
    | none => exact h
    | some name =>
      obtain ⟨n, -, rfl⟩ := List.mem_map.mp (List.mem_of_find?_eq_some hfound)
      exact hnumbered (n + 2)
  · exact h

/-- The fields of a message are named by identifiers. -/
theorem fieldNames_chars (used : List String) (ps : List Property) :
    ∀ field ∈ fieldNames used ps, ∀ c ∈ field.toList, isIdentifierChar c = true := by
  induction ps generalizing used with
  | nil => simp [fieldNames]
  | cons p rest ih =>
    exact List.forall_mem_cons.mpr ⟨freshName_chars (identifier_chars p.name), ih _⟩

theorem feedFree_wireType (type : PropertyType) : FeedFree (wireType type) := by
  unfold wireType
  split <;> decide

theorem feedFree_trailingComment {text : String} (h : FeedFree text) :
    FeedFree (trailingComment text) := by
  unfold trailingComment
  split
  · decide
  · exact Text.feedFree_append.mpr ⟨by decide, h⟩

/-- Fields declare nothing at the beginning of a line. -/
theorem declares_fieldLines {fields : List (Property × String)}
    (h : ∀ f ∈ fields, FeedFree f.1.description ∧ FeedFree f.2) (n : Nat) :
    Declares (fieldLines n fields) [] := by
  induction fields generalizing n with
  | nil => exact ⟨by simp [fieldLines], rfl⟩
  | cons field rest ih =>
    rw [List.forall_mem_cons] at h
    show Declares ([_] ++ fieldLines (n + 1) rest) []
    refine Declares.append (.idle ?_ ?_) (ih h.2 (n + 1))
    · simp only [List.forall_mem_singleton, Text.feedFree_append]
      exact ⟨⟨⟨⟨⟨⟨⟨by decide, feedFree_wireType _⟩, by decide⟩, h.1.2⟩, by decide⟩,
        feedFree_of_chars (toString_chars n)⟩, by decide⟩, feedFree_trailingComment h.1.1⟩
    · rw [List.forall_mem_singleton]
      exact declaredName?_of_head (c := ' ') (by simp) (by decide)

/-- The lines of a message declare this message, if no description holds a line feed. -/
theorem declares_messageLines {node : NodeType} (hdescription : FeedFree node.description)
    (h : ∀ p ∈ node.properties, FeedFree p.description) :
    Declares (messageLines node) [messageName node.name] := by
  have hcomment : Declares
      (if node.description.isEmpty then [] else ["// " ++ node.description]) [] := by
    split
    · exact ⟨by simp, rfl⟩
    · refine .idle ?_ ?_
      · rw [List.forall_mem_singleton]
        exact Text.feedFree_append.mpr ⟨by decide, hdescription⟩
      · rw [List.forall_mem_singleton]
        exact declaredName?_of_head (c := '/') (by simp) (by decide)
  have hopening : Declares ["message " ++ messageName node.name ++ " \x7b"]
      [messageName node.name] := by
    refine ⟨?_, by rw [List.filterMap_cons_some (declaredName?_message node.name)]; rfl⟩
    simp only [List.forall_mem_singleton, Text.feedFree_append]
    exact ⟨⟨by decide, feedFree_of_chars (messageName_chars node.name)⟩, by decide⟩
  have hfields : Declares
      (fieldLines 1 (node.properties.zip (fieldNames [] node.properties))) [] := by
    refine declares_fieldLines (fun f hf => ?_) 1
    obtain ⟨hp, hfield⟩ := List.of_mem_zip (a := f.1) (b := f.2) hf
    exact ⟨h f.1 hp, feedFree_of_chars (fieldNames_chars [] node.properties f.2 hfield)⟩
  have hclosing : Declares ["\x7d"] [] := by decide
  exact (hcomment.append (hopening.append hfields)).append hclosing

/-- The file of an ontology declares its symbols and nothing else. -/
theorem declares_interfaceLines {o : Ontology} (h : FeedFreeComments o) :
    Declares (interfaceLines o) (symbols o) := by
  have hheader : Declares (Cypher.fileHeader "gRPC proto" o) [] := by
    refine .idle (Cypher.feedFree_fileHeader (by decide) h.domain h.version) ?_
    simp only [Cypher.fileHeader, List.forall_mem_cons]
    exact ⟨declaredName?_of_head (c := '/') (by simp) (by decide), by decide +kernel,
      declaredName?_of_head (c := '/') (by simp) (by decide), by decide, by simp⟩
  have hpackage : Declares
      ["syntax = \"proto3\";", "", "package " ++ packageName o.domain ++ ";", ""] [] := by
    have hname : FeedFree (packageName o.domain) :=
      Text.feedFree_append.mpr ⟨by decide, feedFree_of_chars (identifier_chars _)⟩
    have hline : FeedFree ("package " ++ packageName o.domain ++ ";") := by
      simp only [Text.feedFree_append]
      exact ⟨⟨by decide, hname⟩, by decide⟩
    refine .idle ?_ ?_
    · simp only [List.forall_mem_cons]
      exact ⟨by decide, by decide, hline, by decide, by simp⟩
    · simp only [List.forall_mem_cons]
      exact ⟨by decide, by decide, declaredName?_of_head (c := 'p') (by simp) (by decide),
        by decide, by simp⟩
  have hsection (title : String) (htitle : FeedFree title) :
      Declares (Cypher.sectionLines title) [] := by
    refine .idle (Cypher.feedFree_sectionLines htitle) ?_
    have hrule : declaredName? Cypher.rule = none := by decide +kernel
    simp only [Cypher.sectionLines, List.forall_mem_cons]
    exact ⟨hrule, declaredName?_of_head (c := '/') (by simp) (by decide), hrule, by decide,
      by simp⟩
  have hblank : Declares [""] [] := by decide
  have hservice : Declares serviceLines [serviceName] := by decide +kernel
  have hgeneric : Declares genericLines genericMessages := by decide +kernel
  have hentities : Declares (o.nodeTypes.flatMap fun node => messageLines node ++ [""])
      (o.nodeTypes.flatMap fun node => [messageName node.name] ++ []) :=
    .flatMap fun node hnode =>
      (declares_messageLines (h.nodes node hnode).1 (h.nodes node hnode).2).append hblank
  have hfile := (((hheader.append hpackage).append
    (((hsection "Service Definition" (by decide)).append hservice).append hblank)).append
    (((hsection "Common Messages" (by decide)).append hgeneric).append hblank)).append
    ((hsection "Entity Messages (generated from ontology)" (by decide)).append hentities)
  have hsymbols : (([] ++ [] ++ ([] ++ [serviceName] ++ [])) ++ ([] ++ genericMessages ++ [])) ++
      ([] ++ o.nodeTypes.flatMap fun node => [messageName node.name] ++ []) = symbols o := by
    simp [symbols, List.map_eq_flatMap]
  exact hsymbols ▸ hfile

/-- What the file declares are its symbols, if no comment holds a line feed. -/
theorem declaredNames_interface {o : Ontology} (h : FeedFreeComments o) :
    declaredNames (interface o) = symbols o := by
  obtain ⟨hfeedFree, hnames⟩ := declares_interfaceLines h
  have hne : interfaceLines o ≠ [] := List.cons_ne_nil _ _
  rw [declaredNames, interface, Text.splitAtFeeds_joinLines hne hfeedFree, hnames]

/-! ## Names declared once -/

/-- No two node types clash, and none takes the name of the service. -/
structure ClashFree (o : Ontology) : Prop where
  apart : ∀ a ∈ o.nodeTypes, ∀ b ∈ o.nodeTypes, Clash a.name b.name → a = b
  service : ∀ a ∈ o.nodeTypes, identifier a.name ≠ serviceName

/-- The names of the node types are identifiers as they stand, and none of them is the name of the
service or one of the service's messages with `Node` behind it. -/
def PlainNames (o : Ontology) : Prop :=
  ∀ a ∈ o.nodeTypes, identifier a.name = a.name ∧ a.name ≠ serviceName ∧
    ∀ base ∈ genericMessages, a.name ≠ base ++ "Node"

instance (o : Ontology) : Decidable (PlainNames o) :=
  inferInstanceAs (Decidable (∀ a ∈ o.nodeTypes, identifier a.name = a.name ∧
    a.name ≠ serviceName ∧ ∀ base ∈ genericMessages, a.name ≠ base ++ "Node"))

theorem name_injOn (o : Ontology) {a b : NodeType} (ha : a ∈ o.nodeTypes) (hb : b ∈ o.nodeTypes)
    (h : a.name = b.name) : a = b :=
  List.inj_on_of_nodup_map o.nodes.distinct ha hb h

/-- Names that are identifiers as they stand do not clash. -/
theorem PlainNames.clashFree {o : Ontology} (h : PlainNames o) : ClashFree o := by
  refine ⟨fun a ha b hb hclash => name_injOn o ha hb ?_, fun a ha => ?_⟩
  · obtain ⟨hplain, -, hnode⟩ := h a ha
    obtain ⟨hplain', -, hnode'⟩ := h b hb
    rcases hclash with heq | ⟨hbase, heq⟩ | ⟨hbase, heq⟩
    · rwa [hplain, hplain'] at heq
    · exact absurd (hplain'.symm.trans heq) (hnode' _ hbase)
    · exact absurd (hplain.symm.trans heq) (hnode _ hbase)
  · rw [(h a ha).1]
    exact (h a ha).2.1

/-- Symbols are distinct if no type is called like the service and the messages are distinct. -/
theorem nodup_symbols_iff (o : Ontology) :
    (symbols o).Nodup ↔ (∀ a ∈ o.nodeTypes, identifier a.name ≠ serviceName) ∧
      (o.nodeTypes.map fun a => messageName a.name).Nodup := by
  have hservice : serviceName ∉ genericMessages := by decide
  have hgeneric : genericMessages.Nodup := by decide +kernel
  have hapart : ∀ s ∈ genericMessages, ∀ t ∈ o.nodeTypes.map fun a => messageName a.name,
      s ≠ t := by
    rintro s hs t ht rfl
    obtain ⟨a, -, rfl⟩ := List.mem_map.mp ht
    exact messageName_not_generic a.name hs
  have hmessages : (genericMessages ++ o.nodeTypes.map fun a => messageName a.name).Nodup ↔
      (o.nodeTypes.map fun a => messageName a.name).Nodup := by
    rw [List.nodup_append]
    exact ⟨fun h => h.2.1, fun h => ⟨hgeneric, h, hapart⟩⟩
  have hfree : serviceName ∉ genericMessages ++ o.nodeTypes.map (fun a => messageName a.name) ↔
      ∀ a ∈ o.nodeTypes, identifier a.name ≠ serviceName := by
    simp only [List.mem_append, hservice, false_or, List.mem_map, not_exists, not_and,
      messageName_eq_serviceName_iff, ne_eq]
  rw [symbols, List.nodup_cons, hfree, hmessages]

/-- **Which files declare a name twice.** The names that the file of an ontology declares are
pairwise distinct exactly if no two of its node types clash and none takes the name of the service;
they are if the names of the types are plain. If no comment is broken by a line feed, these are the
names that stand behind the keywords of the file. -/
theorem symbols_nodup_iff (o : Ontology) :
    ((symbols o).Nodup ↔ ClashFree o) ∧ (PlainNames o → (symbols o).Nodup) ∧
      (FeedFreeComments o → declaredNames (interface o) = symbols o) := by
  have hiff : (symbols o).Nodup ↔ ClashFree o := by
    have hnodes : o.nodeTypes.Nodup := List.Nodup.of_map Named.name o.nodes.distinct
    rw [nodup_symbols_iff, List.nodup_map_iff_inj_on hnodes]
    constructor
    · rintro ⟨hservice, hdistinct⟩
      exact ⟨fun a ha b hb hclash => hdistinct a ha b hb (messageName_eq_iff.mpr hclash), hservice⟩
    · rintro ⟨hapart, hservice⟩
      exact ⟨hservice, fun a ha b hb heq => hapart a ha b hb (messageName_eq_iff.mp heq)⟩
  exact ⟨hiff, fun hplain => hiff.mpr hplain.clashFree, declaredNames_interface⟩

def twoTypes (name other : String) : Ontology :=
  (({ domain := "library", version := "1" } : Ontology).registerNode { name }).registerNode
    { name := other }

/-- A type with the name of one of the service's messages is declared under another name. -/
theorem symbols_distinct :
    (twoTypes "Entity" "Bill").validate = .ok () ∧
      declaredNames (interface (twoTypes "Entity" "Bill")) =
        ["KnowledgeGraph", "Empty", "Tool", "ToolList", "SchemaRequest", "JsonLdSchema",
          "QueryRequest", "QueryResult", "SearchRequest", "EntityRequest", "FilterRequest",
          "EntityList", "Entity", "EntityNode", "Bill"] ∧
      (symbols (twoTypes "Entity" "Bill")).Nodup := by
  have hcomments : FeedFreeComments (twoTypes "Entity" "Bill") :=
    ⟨by decide, by decide, by decide⟩
  obtain ⟨-, hnodup, hdeclared⟩ := symbols_nodup_iff (twoTypes "Entity" "Bill")
  refine ⟨by decide, ?_, hnodup (by decide +kernel)⟩
  rw [hdeclared hcomments]
  decide +kernel

/-- The ontology is accepted, and its file declares the message of both types under one name. -/
theorem symbols_repeated :
    (twoTypes "Annual-Report" "Annual_Report").validate = .ok () ∧
      declaredNames (interface (twoTypes "Annual-Report" "Annual_Report")) =
        serviceName :: genericMessages ++ ["Annual_Report", "Annual_Report"] ∧
      ¬ ((twoTypes "Annual-Report" "Annual_Report").nodeTypes.map fun node =>
        messageName node.name).Nodup ∧
      ¬ (symbols (twoTypes "Annual-Report" "Annual_Report")).Nodup := by
  have hcomments : FeedFreeComments (twoTypes "Annual-Report" "Annual_Report") :=
    ⟨by decide, by decide, by decide⟩
  refine ⟨by decide, ?_, by decide +kernel, by decide +kernel⟩
  rw [declaredNames_interface hcomments]
  decide +kernel

end Ontograph.Proto
