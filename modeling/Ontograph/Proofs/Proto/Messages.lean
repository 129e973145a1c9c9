/-
Ontograph.Proofs.Proto.Messages — the messages of a file, read back from it.

`messagesIn` goes through the declarations of a text once and gathers messages
with their fields: `message`, a name and a brace open one, a brace alone closes
it, and in between every line of a type, a name, a sign of equality and a
number is a field. Names and types are whatever stands there, so that the
reader knows nothing of ontologies.

A message that is legible, that is, one with identifiers for names and with
types of words between single blanks, is read as it is (`read_message`). Out of
the file of an ontology come the messages of the service and then those of the
node types, in the order of registration (`messagesIn_interface`), provided
that the comments let out nothing else. What such a message has for fields is
said by the lists of their types, names and numbers, one of each for every
property (`Message.types_of`, `Message.names_of`, `Message.numbers_of`).
-/
import Ontograph.Proofs.Proto.Declarations

namespace Ontograph.Proto

/-! ## Words -/

def words (line : List Char) : List String :=
  ((line.splitOn ' ').filter (!·.isEmpty)).map String.ofList

/-- Words on two sides of a blank are read apart. -/
theorem words_append (front back : List Char) :
    words (front ++ ' ' :: back) = words front ++ words back := by
  rw [words, List.splitOn_append_cons_self, List.filter_append, List.map_append, words, words]

theorem words_of_solid {word : String} (h : ' ' ∉ word.toList) (hne : word ≠ "") :
    words word.toList = [word] := by
  have hsplit : ([' '].intercalate [word.toList]).splitOn ' ' = [word.toList] :=
    List.splitOn_intercalate ' ' (by simpa using h) (List.cons_ne_nil _ _)
  have hword : word.toList.isEmpty = false := by simpa using hne
  rw [List.intercalate_singleton] at hsplit
  simp [words, hsplit, hword, String.ofList_toList]

/-! ## Reading -/

def number? (word : String) : Option Nat :=
  let digits := word.toList.dropLast
  if digits.all Char.isDigit then some (Nat.ofDigitChars 10 digits 0) else none

/-- The field that a line is: a type, a name, a sign of equality and a number. -/
def readField? (line : String) : Option Field :=
  match (words line.toList).reverse with
  | number :: "=" :: name :: type =>
    (number? number).map fun n => ⟨" ".intercalate type.reverse, name, n⟩
  | _ => none

/-- The messages that were read, and the one that is being read. -/
structure Reading where
  done : List Message
  current : Option Message
  deriving DecidableEq

def Reading.step (r : Reading) (line : String) : Reading :=
  match r.current with
  | some m =>
    if line = "\x7d" then ⟨r.done ++ [m], none⟩
    else ⟨r.done, some { m with fields := m.fields ++ (readField? line).toList }⟩
  | none =>
    match words line.toList with
    | ["message", name, "\x7b"] => ⟨r.done, some ⟨name, []⟩⟩
    | ["message", name, "\x7b\x7d"] => ⟨r.done ++ [⟨name, []⟩], none⟩
    | _ => r

def Reading.read (r : Reading) (lines : List String) : Reading := lines.foldl Reading.step r

/-- Declarations are read one after another. -/
theorem Reading.read_append (r : Reading) (lines more : List String) :
    r.read (lines ++ more) = (r.read lines).read more := List.foldl_append

def messagesIn (text : String) : List Message := (Reading.read ⟨[], none⟩ (declarations text)).done

/-! ## Legible messages -/

theorem noBlank_of_chars {s : String} (h : ∀ c ∈ s.toList, isIdentifierChar c = true) :
    ' ' ∉ s.toList := fun hblank => absurd (h ' ' hblank) (by decide)

/-- A field with an identifier for a name and with a type of words with one blank between any
two. -/
structure Field.Legible (f : Field) : Prop where
  chars : ∀ c ∈ f.name.toList, isIdentifierChar c = true
  nonempty : f.name ≠ ""
  type : " ".intercalate (words f.type.toList) = f.type

theorem Field.legible_iff (f : Field) : f.Legible ↔
    f.name.toList.all isIdentifierChar = true ∧ f.name ≠ "" ∧
      " ".intercalate (words f.type.toList) = f.type :=
  ⟨fun h => ⟨List.all_eq_true.mpr h.chars, h.nonempty, h.type⟩,
    fun h => ⟨List.all_eq_true.mp h.1, h.2.1, h.2.2⟩⟩

instance (f : Field) : Decidable f.Legible := decidable_of_iff' _ f.legible_iff

theorem number?_toString (n : Nat) : number? (toString n ++ ";") = some n := by
  have hdigits : (toString n ++ ";").toList.dropLast = Nat.toDigits 10 n := by
    rw [String.toList_append, show ";".toList = [';'] from rfl, List.dropLast_concat,
      Nat.toString_eq_repr, Nat.toList_repr]
  have hall : (Nat.toDigits 10 n).all Char.isDigit = true :=
    List.all_eq_true.mpr fun c hc => Nat.isDigit_of_mem_toDigits (by decide) (by decide) hc
  simp only [number?, hdigits, hall, if_true, Nat.ofDigitChars_ten_toDigits]

/-- A wire type is words with one blank between any two. -/
theorem intercalate_wireType (type : PropertyType) :
    " ".intercalate (words (wireType type).toList) = wireType type := by
  unfold wireType
  split <;> decide

theorem words_field {f : Field} (h : f.Legible) :
    words f.line.toList =
      words f.type.toList ++ [f.name, "=", toString f.number ++ ";"] := by
  have hname := words_of_solid (noBlank_of_chars h.chars) h.nonempty
  have hnumber : words (toString f.number ++ ";").toList = [toString f.number ++ ";"] := by
    refine words_of_solid ?_ (by simp)
    rw [String.toList_append, List.mem_append, not_or]
    exact ⟨noBlank_of_chars (toString_chars f.number), by decide⟩
  have hline : f.line.toList = [] ++ ' ' :: ([] ++ ' ' :: (f.type.toList ++ ' ' ::
      (f.name.toList ++ ' ' :: (['='] ++ ' ' :: (toString f.number ++ ";").toList)))) := by
    simp [Field.line]
  rw [hline]
  simp only [words_append, hname, hnumber]
  rfl

/-- A legible field is read as it is. -/
theorem readField?_line {f : Field} (h : f.Legible) : readField? f.line = some f := by
  have hwords : (words f.line.toList).reverse = (toString f.number ++ ";") :: "=" :: f.name ::
      (words f.type.toList).reverse := by
    rw [words_field h]
    simp
  simp only [readField?, hwords, number?_toString, Option.map_some, List.reverse_reverse, h.type]

/-- No field closes its message. -/
theorem line_ne_brace (f : Field) : f.line ≠ "\x7d" := by
  intro h
  have hhead := congrArg (fun s => s.toList.head?) h
  simp [Field.line] at hhead

/-- Reading legible fields adds them to the message that is being read. -/
theorem read_fields (done : List Message) (name : String) (before : List Field)
    {fields : List Field} (h : ∀ f ∈ fields, f.Legible) :
    Reading.read ⟨done, some ⟨name, before⟩⟩ (fields.map Field.line) =
      ⟨done, some ⟨name, before ++ fields⟩⟩ := by
  induction fields generalizing before with
  | nil => simp [Reading.read]
  | cons f rest ih =>
    rw [List.forall_mem_cons] at h
    have hstep : Reading.step ⟨done, some ⟨name, before⟩⟩ f.line =
        ⟨done, some ⟨name, before ++ [f]⟩⟩ := by
      simp only [Reading.step, line_ne_brace, if_false, readField?_line h.1, Option.toList_some]
    have hrest := ih (before ++ [f]) h.2
    rw [List.append_assoc, List.singleton_append] at hrest
    rw [List.map_cons, Reading.read, List.foldl_cons, hstep]
    exact hrest

/-- A message with an identifier for a name and with legible fields. -/
structure Message.Legible (m : Message) : Prop where
  chars : ∀ c ∈ m.name.toList, isIdentifierChar c = true
  nonempty : m.name ≠ ""
  fields : ∀ f ∈ m.fields, f.Legible

theorem Message.legible_iff (m : Message) : m.Legible ↔
    m.name.toList.all isIdentifierChar = true ∧ m.name ≠ "" ∧ ∀ f ∈ m.fields, f.Legible :=
  ⟨fun h => ⟨List.all_eq_true.mpr h.chars, h.nonempty, h.fields⟩,
    fun h => ⟨List.all_eq_true.mp h.1, h.2.1, h.2.2⟩⟩

instance (m : Message) : Decidable m.Legible := decidable_of_iff' _ m.legible_iff

theorem step_opening {m : Message} (h : m.Legible) (done : List Message) :
    Reading.step ⟨done, none⟩ ("message " ++ m.name ++ " \x7b") =
      ⟨done, some ⟨m.name, []⟩⟩ := by
  have hname := words_of_solid (noBlank_of_chars h.chars) h.nonempty
  have hline : ("message " ++ m.name ++ " \x7b").toList =
      "message".toList ++ ' ' :: (m.name.toList ++ ' ' :: ['\x7b']) := by
    simp
  have hwords : words ("message " ++ m.name ++ " \x7b").toList = ["message", m.name, "\x7b"] := by
    rw [hline, words_append, words_append, hname]
    rfl
  simp only [Reading.step, hwords]

/-- A legible message is read as it is. -/
theorem read_message {m : Message} (h : m.Legible) (done : List Message) :
    Reading.read ⟨done, none⟩ m.lines = ⟨done ++ [m], none⟩ := by
  have hfields := read_fields done m.name [] h.fields
  have hclosing : Reading.step ⟨done, some ⟨m.name, [] ++ m.fields⟩⟩ "\x7d" =
      ⟨done ++ [m], none⟩ := by
    simp [Reading.step]
  rw [Message.lines, List.cons_append, Reading.read, List.foldl_cons, step_opening h,
    ← Reading.read, Reading.read_append, hfields, Reading.read, List.foldl_cons, hclosing]
  rfl

/-- Legible messages are read back, one after another. -/
theorem read_messages {ms : List Message} (h : ∀ m ∈ ms, m.Legible) (done : List Message) :
    Reading.read ⟨done, none⟩ (ms.flatMap Message.lines) = ⟨done ++ ms, none⟩ := by
  induction ms generalizing done with
  | nil => simp [Reading.read]
  | cons m rest ih =>
    rw [List.forall_mem_cons] at h
    rw [List.flatMap_cons, Reading.read_append, read_message h.1, ih h.2, List.append_assoc]
    rfl

/-! ## Messages of node types -/

theorem identifier_ne_empty (s : String) : identifier s ≠ "" := by
  have hne : identifierOf s.toList ≠ [] := by
    dsimp only [identifierOf]
    split
    · simp
    · split <;> simp_all
  intro h
  rw [identifier] at h
  have hchars := congrArg String.toList h
  rw [String.toList_ofList] at hchars
  exact hne hchars

theorem messageName_ne_empty (type : String) : messageName type ≠ "" := by
  dsimp only [messageName]
  split
  · simp
  · exact identifier_ne_empty type

theorem freshName_ne_empty {used : List String} {base : String} (h : base ≠ "") :
    freshName used base ≠ "" := by
  unfold freshName
  split
  · cases hfound : ((List.range (used.length + 1)).map fun n => numbered base (n + 2)).find?
        (· ∉ used) with
    | none => exact h
    | some name =>
      obtain ⟨n, -, rfl⟩ := List.mem_map.mp (List.mem_of_find?_eq_some hfound)
      simp [numbered]
  · exact h

theorem fieldNames_ne_empty (used : List String) (ps : List Property) :
    ∀ field ∈ fieldNames used ps, field ≠ "" := by
  induction ps generalizing used with
  | nil => simp [fieldNames]
  | cons p rest ih =>
    exact List.forall_mem_cons.mpr ⟨freshName_ne_empty (identifier_ne_empty p.name), ih _⟩

theorem mem_fieldsFrom {f : Field} {n : Nat} {ps : List (Property × String)}
    (h : f ∈ fieldsFrom n ps) : ∃ p ∈ ps, f.type = wireType p.1.type ∧ f.name = p.2 := by
  induction ps generalizing n with
  | nil => simp [fieldsFrom] at h
  | cons p rest ih =>
    rcases List.mem_cons.mp h with rfl | h
    · exact ⟨p, List.mem_cons_self, rfl, rfl⟩
    · obtain ⟨q, hq, hfield⟩ := ih h
      exact ⟨q, List.mem_cons_of_mem _ hq, hfield⟩

/-- The message of every node type is legible. -/
theorem legible_message (node : NodeType) : (Message.of node).Legible where
  chars := messageName_chars node.name
  nonempty := messageName_ne_empty node.name
  fields := by
    intro f hf
    obtain ⟨p, hp, htype, hname⟩ := mem_fieldsFrom hf
    have hfield := (List.of_mem_zip hp).2
    refine ⟨?_, ?_, ?_⟩
    · rw [hname]
      exact fieldNames_chars [] node.properties p.2 hfield
    · rw [hname]
      exact fieldNames_ne_empty [] node.properties p.2 hfield
    · rw [htype, intercalate_wireType]

/-! ## Fields and properties -/

theorem types_fieldsFrom (n : Nat) (ps : List (Property × String)) :
    (fieldsFrom n ps).map Field.type = (ps.map Prod.fst).map fun p => wireType p.type := by
  induction ps generalizing n with
  | nil => rfl
  | cons p rest ih => exact congrArg _ (ih (n + 1))

theorem names_fieldsFrom (n : Nat) (ps : List (Property × String)) :
    (fieldsFrom n ps).map Field.name = ps.map Prod.snd := by
  induction ps generalizing n with
  | nil => rfl
  | cons p rest ih => exact congrArg _ (ih (n + 1))

/-- Fields are numbered one after another. -/
theorem numbers_fieldsFrom (n : Nat) (ps : List (Property × String)) :
    (fieldsFrom n ps).map Field.number = List.range' n ps.length := by
  induction ps generalizing n with
  | nil => rfl
  | cons p rest ih => exact congrArg _ (ih (n + 1))

namespace Message

/-- The fields have the wire types of the properties. -/
theorem types_of (node : NodeType) :
    (Message.of node).fields.map Field.type = node.properties.map fun p => wireType p.type := by
  rw [Message.of, types_fieldsFrom, List.map_fst_zip (length_fieldNames [] node.properties).ge]

/-- The fields are named after the properties. -/
theorem names_of (node : NodeType) :
    (Message.of node).fields.map Field.name = fieldNames [] node.properties := by
  rw [Message.of, names_fieldsFrom, List.map_snd_zip (length_fieldNames [] node.properties).le]

/-- The fields are numbered from one on. -/
theorem numbers_of (node : NodeType) :
    (Message.of node).fields.map Field.number = List.range' 1 node.properties.length := by
  rw [Message.of, numbers_fieldsFrom, List.length_zip, length_fieldNames, Nat.min_self]

end Message

/-! ## The file -/

def recordMessages : List Message := [
  ⟨"Tool", [⟨"string", "name", 1⟩, ⟨"string", "description", 2⟩,
    ⟨"string", "cypher_template", 3⟩, ⟨"map<string, string>", "parameters", 4⟩,
    ⟨"string", "domain", 5⟩, ⟨"string", "entity_type", 6⟩]⟩,
  ⟨"ToolList", [⟨"repeated Tool", "tools", 1⟩]⟩,
  ⟨"SchemaRequest", [⟨"string", "entity_type", 1⟩]⟩,
  ⟨"JsonLdSchema", [⟨"string", "entity_type", 1⟩, ⟨"string", "context", 2⟩,
    ⟨"string", "schema", 3⟩]⟩,
  ⟨"QueryRequest", [⟨"string", "tool_name", 1⟩, ⟨"map<string, string>", "parameters", 2⟩]⟩,
  ⟨"QueryResult", [⟨"bool", "success", 1⟩, ⟨"string", "data", 2⟩, ⟨"string", "error", 3⟩,
    ⟨"int64", "count", 4⟩]⟩,
  ⟨"SearchRequest", [⟨"string", "query", 1⟩, ⟨"int32", "limit", 2⟩,
    ⟨"string", "entity_type", 3⟩, ⟨"string", "domain", 4⟩]⟩,
  ⟨"EntityRequest", [⟨"string", "id", 1⟩, ⟨"string", "entity_type", 2⟩]⟩,
  ⟨"FilterRequest", [⟨"string", "entity_type", 1⟩, ⟨"map<string, string>", "filters", 2⟩,
    ⟨"int32", "limit", 3⟩, ⟨"int32", "offset", 4⟩]⟩,
  ⟨"EntityList", [⟨"repeated Entity", "entities", 1⟩, ⟨"int64", "total_count", 2⟩]⟩,
  ⟨"Entity", [⟨"string", "id", 1⟩, ⟨"string", "entity_type", 2⟩, ⟨"string", "domain", 3⟩,
    ⟨"map<string, string>", "properties", 4⟩, ⟨"string", "json_data", 5⟩,
    ⟨"repeated float", "embedding", 6⟩]⟩]

def serviceMessages : List Message := ⟨"Empty", []⟩ :: recordMessages

theorem declarations_genericLines : genericLines.flatMap declarations =
    "message Empty \x7b\x7d" :: recordMessages.flatMap Message.lines := by
  decide +kernel

/-- A declaration that does not begin with the word is no message. -/
theorem step_idle {line : String} (h : (words line.toList).head? ≠ some "message")
    (done : List Message) : Reading.step ⟨done, none⟩ line = ⟨done, none⟩ := by
  simp only [Reading.step]
  split
  · rename_i hwords
    exact absurd (by rw [hwords]; rfl) h
  · rename_i hwords
    exact absurd (by rw [hwords]; rfl) h
  · rfl

/-- What begins no message leaves nothing to read. -/
theorem read_idle {lines : List String}
    (h : ∀ line ∈ lines, (words line.toList).head? ≠ some "message") (done : List Message) :
    Reading.read ⟨done, none⟩ lines = ⟨done, none⟩ := by
  induction lines with
  | nil => rfl
  | cons line rest ih =>
    rw [List.forall_mem_cons] at h
    rw [Reading.read, List.foldl_cons, step_idle h.1]
    exact ih h.2

theorem words_package (domain : String) :
    (words ("package " ++ packageName domain ++ ";").toList).head? ≠ some "message" := by
  have hline : ("package " ++ packageName domain ++ ";").toList =
      "package".toList ++ ' ' :: (packageName domain ++ ";").toList := by
    simp
  have hwords : words "package".toList = ["package"] := by decide
  rw [hline, words_append, hwords, List.singleton_append, List.head?_cons]
  decide

theorem words_service : ∀ line ∈ serviceLines.flatMap declarations,
    (words line.toList).head? ≠ some "message" := by decide +kernel

theorem legible_recordMessages : ∀ m ∈ recordMessages, m.Legible := by decide +kernel

/-- What opens the file is read as the messages of the service. -/
theorem read_opening (domain : String) :
    Reading.read ⟨[], none⟩ (opening domain) = ⟨serviceMessages, none⟩ := by
  have hpreamble : ∀ line ∈ ["syntax = \"proto3\";", "package " ++ packageName domain ++ ";"],
      (words line.toList).head? ≠ some "message" := by
    simp only [List.forall_mem_cons]
    exact ⟨by decide, words_package domain, by simp⟩
  have hempty : Reading.step ⟨[], none⟩ "message Empty \x7b\x7d" = ⟨[⟨"Empty", []⟩], none⟩ := by
    decide +kernel
  rw [opening, declarations_genericLines, Reading.read_append, Reading.read_append,
    read_idle hpreamble, read_idle words_service, Reading.read, List.foldl_cons, hempty]
  exact read_messages legible_recordMessages [⟨"Empty", []⟩]

/-- The messages in the file of an ontology are those of the service and of its node types. -/
theorem messagesIn_interface {o : Ontology} (h : HarmlessComments o) :
    messagesIn (interface o) = serviceMessages ++ o.nodeTypes.map Message.of := by
  have hlegible : ∀ m ∈ o.nodeTypes.map Message.of, m.Legible :=
    List.forall_mem_map.mpr fun node _ => legible_message node
  have hnodes : (o.nodeTypes.flatMap fun node => (Message.of node).lines) =
      (o.nodeTypes.map Message.of).flatMap Message.lines := by
    rw [List.flatMap_map]
  rw [messagesIn, (declarations_interface_iff o).mpr h, intended, Reading.read_append,
    read_opening, hnodes, read_messages hlegible]

end Ontograph.Proto
