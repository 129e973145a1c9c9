/-
Ontograph.Proofs.Proto.Fields — the fields of a message, one for each property.

Identifiers lose what makes names differ, so that a field may get the
identifier of its property with a number behind it, and this may again be the
identifier of another property. What carries the result is the list of names in
use. A search among more numbers than there are names finds one that is free,
and the least such number from two on (`fresh_freshName`); a name that is new
keeps the names in use distinct (`nodup_fieldNames`); and the names of some
properties do not depend on what follows them (`fieldNames_append`). The fields
stand in the text of the message whatever it says about the properties, and
nothing else does exactly if its comments let nothing out (`fields_numbered`).
-/
import Mathlib.Data.List.Perm.Subperm
import Ontograph.Proofs.Proto.Messages

namespace Ontograph.Proto

/-! ## Names that are new -/

theorem numbered_injective (base : String) {m n : Nat} (h : numbered base m = numbered base n) :
    m = n := by
  have hdigits : Nat.toDigits 10 m = Nat.toDigits 10 n := by
    have hchars := congrArg String.toList h
    simpa [numbered, Nat.toString_eq_ofList_toDigits] using hchars
  rw [← Nat.ofDigitChars_ten_toDigits (n := m), hdigits, Nat.ofDigitChars_ten_toDigits]

/-- A name for a field, given the names in use: the identifier itself if it is new, or else with the
least number from two on that makes it new. -/
inductive Fresh (used : List String) (base : String) : String → Prop
  | plain (hnew : base ∉ used) : Fresh used base base
  | suffixed {n : Nat} (htaken : base ∈ used) (htwo : 2 ≤ n) (hnew : numbered base n ∉ used)
      (hleast : ∀ k, 2 ≤ k → k < n → numbered base k ∈ used) : Fresh used base (numbered base n)

/-- Among one more number than there are names in use, one makes a new name. -/
theorem exists_unused (used : List String) (base : String) :
    ∃ n, n < used.length + 1 ∧ numbered base (n + 2) ∉ used := by
  by_contra hall
  push Not at hall
  let candidates := (List.range (used.length + 1)).map fun n => numbered base (n + 2)
  have hdistinct : candidates.Nodup := by
    refine List.nodup_range.map fun m n h => ?_
    have hnumber := numbered_injective base h
    omega
  have hused : candidates ⊆ used := by
    intro name hname
    obtain ⟨n, hn, rfl⟩ := List.mem_map.mp hname
    exact hall n (List.mem_range.mp hn)
  have hlength := (List.subperm_of_subset hdistinct hused).length_le
  rw [List.length_map, List.length_range] at hlength
  omega

/-- The name that is found is fresh. -/
theorem fresh_freshName (used : List String) (base : String) :
    Fresh used base (freshName used base) := by
  unfold freshName
  split
  · rename_i htaken
    rw [List.find?_map]
    cases hfound : (List.range (used.length + 1)).find?
        ((fun name => decide (name ∉ used)) ∘ fun n => numbered base (n + 2)) with
    | none =>
      obtain ⟨n, hn, hnew⟩ := exists_unused used base
      have hused := List.find?_range_eq_none.mp hfound n hn
      simp [hnew] at hused
    | some n =>
      obtain ⟨hnew, -, hleast⟩ := List.find?_range_eq_some.mp hfound
      refine .suffixed htaken (by omega) (by simpa using hnew) fun k htwo hk => ?_
      have hused := hleast (k - 2) (by omega)
      rw [Function.comp_apply, Nat.sub_add_cancel htwo] at hused
      simpa using hused
  · rename_i hnew
    exact .plain hnew

theorem Fresh.not_mem {used : List String} {base name : String} (h : Fresh used base name) :
    name ∉ used := by
  cases h with
  | plain hnew => exact hnew
  | suffixed _ _ hnew _ => exact hnew

/-! ## Names that are identifiers -/

/-- An ASCII letter, and then letters, digits and underscores. -/
def IsIdentifier (name : String) : Prop :=
  ∃ first rest, name.toList = first :: rest ∧ first.isAlpha = true ∧
    ∀ c ∈ rest, isIdentifierChar c = true

/-- Every name becomes an identifier. -/
theorem isIdentifier_identifier (s : String) : IsIdentifier (identifier s) := by
  have hchars := identifier_chars s
  have hhead : ∃ first rest, (identifier s).toList = first :: rest ∧ first.isAlpha = true := by
    rw [identifier, String.toList_ofList]
    dsimp only [identifierOf]
    split
    · exact ⟨'f', ['_'], rfl, by decide⟩
    · rename_i first rest hkept
      split
      · rename_i halpha
        exact ⟨first, rest, hkept, halpha⟩
      · exact ⟨'f', _, rfl, by decide⟩
  obtain ⟨first, rest, hlist, halpha⟩ := hhead
  rw [hlist, List.forall_mem_cons] at hchars
  exact ⟨first, rest, hlist, halpha, hchars.2⟩

theorem IsIdentifier.numbered {base : String} (h : IsIdentifier base) (n : Nat) :
    IsIdentifier (numbered base n) := by
  obtain ⟨first, rest, hlist, halpha, hrest⟩ := h
  refine ⟨first, rest ++ '_' :: (toString n).toList, by simp [Proto.numbered, hlist], halpha, ?_⟩
  rw [List.forall_mem_append, List.forall_mem_cons]
  exact ⟨hrest, by decide, toString_chars n⟩

theorem Fresh.isIdentifier {used : List String} {base name : String} (h : Fresh used base name)
    (hbase : IsIdentifier base) : IsIdentifier name := by
  cases h with
  | plain => exact hbase
  | suffixed => exact hbase.numbered _

/-! ## The names of a message's fields -/

/-- The names of the first properties do not depend on those behind them. -/
theorem fieldNames_append (used : List String) (ps qs : List Property) :
    fieldNames used (ps ++ qs) =
      fieldNames used ps ++ fieldNames (used ++ fieldNames used ps) qs := by
  induction ps generalizing used with
  | nil => simp [fieldNames]
  | cons p rest ih =>
    simp only [List.cons_append, fieldNames, ih, List.append_assoc, List.nil_append]

theorem isIdentifier_fieldNames (used : List String) (ps : List Property) :
    ∀ field ∈ fieldNames used ps, IsIdentifier field := by
  induction ps generalizing used with
  | nil => simp [fieldNames]
  | cons p rest ih =>
    have hfirst := (fresh_freshName used (identifier p.name)).isIdentifier
      (isIdentifier_identifier p.name)
    exact List.forall_mem_cons.mpr ⟨hfirst, ih _⟩

/-- Names that are in use stay distinct when the names of properties are added to them. -/
theorem nodup_fieldNames {used : List String} (h : used.Nodup) (ps : List Property) :
    (used ++ fieldNames used ps).Nodup := by
  induction ps generalizing used with
  | nil => simpa [fieldNames] using h
  | cons p rest ih =>
    have hnew := (fresh_freshName used (identifier p.name)).not_mem
    have hused : (used ++ [freshName used (identifier p.name)]).Nodup :=
      List.nodup_append.mpr ⟨h, List.nodup_singleton _, fun a ha b hb hab =>
        hnew (List.mem_singleton.mp hb ▸ hab ▸ ha)⟩
    have hrest := ih hused
    rwa [List.append_assoc, List.singleton_append] at hrest

/-! ## Fields -/

/-- Numbering goes on behind the first fields. -/
theorem fieldsFrom_append (n : Nat) (ps qs : List (Property × String)) :
    fieldsFrom n (ps ++ qs) = fieldsFrom n ps ++ fieldsFrom (n + ps.length) qs := by
  induction ps generalizing n with
  | nil => rfl
  | cons p rest ih =>
    rw [List.cons_append, fieldsFrom, ih, fieldsFrom, List.cons_append, List.length_cons,
      Nat.add_right_comm, Nat.add_assoc]

/-- The fields of some properties begin those of more properties. -/
theorem fields_prefix (node : NodeType) (more : List Property) :
    (Message.of node).fields <+:
      (Message.of { node with properties := node.properties ++ more }).fields := by
  simp only [Message.of, fieldNames_append,
    List.zip_append (length_fieldNames [] node.properties).symm, fieldsFrom_append]
  exact List.prefix_append _ _

/-- Fields that stand for the properties of a node type: there is one for each, the j-th has the
number j, and its name is new among those before it. -/
structure Represent (properties : List Property) (fields : List Field) : Prop where
  length : fields.length = properties.length
  numbers : fields.map Field.number = List.range' 1 properties.length
  identifiers : ∀ f ∈ fields, IsIdentifier f.name
  distinct : (fields.map Field.name).Nodup
  fresh : ∀ before p after, properties = before ++ p :: after →
    ∃ f, fields[before.length]? = some f ∧
      Fresh ((fields.take before.length).map Field.name) (identifier p.name) f.name

/-- The fields of a message represent the properties of its node type. -/
theorem represent_fields (node : NodeType) :
    Represent node.properties (Message.of node).fields where
  length := by simpa using congrArg List.length (Message.numbers_of node)
  numbers := Message.numbers_of node
  identifiers := by
    intro f hf
    have hname := List.mem_map_of_mem (f := Field.name) hf
    rw [Message.names_of] at hname
    exact isIdentifier_fieldNames [] node.properties f.name hname
  distinct := by
    rw [Message.names_of]
    exact nodup_fieldNames .nil node.properties
  fresh := by
    intro before p after hproperties
    let field := freshName (fieldNames [] before) (identifier p.name)
    have hlength : before.length = (fieldNames [] before).length :=
      (length_fieldNames [] before).symm
    have hnames : (Message.of node).fields.map Field.name = fieldNames [] before ++
        field :: fieldNames (fieldNames [] before ++ [field]) after := by
      rw [Message.names_of, hproperties, fieldNames_append, List.nil_append, fieldNames]
    have hhere : ((Message.of node).fields.map Field.name)[before.length]? = some field := by
      rw [hnames, hlength, List.getElem?_append_right (Nat.le_refl _), Nat.sub_self]
      rfl
    have hbefore : ((Message.of node).fields.take before.length).map Field.name =
        fieldNames [] before := by
      rw [List.map_take, hnames, hlength, List.take_left]
    rw [List.getElem?_map, Option.map_eq_some_iff] at hhere
    obtain ⟨f, hf, hname⟩ := hhere
    refine ⟨f, hf, ?_⟩
    rw [hbefore, hname]
    exact fresh_freshName _ _

/-! ## The text of a message -/

def messageText (node : NodeType) : String := Text.joinLines (messageLines node)

/-- No comment of a node type's message lets a declaration out. -/
def HarmlessRemarks (node : NodeType) : Prop := ∀ remark ∈ nodeRemarks node, stray remark = []

instance (node : NodeType) : Decidable (HarmlessRemarks node) :=
  inferInstanceAs (Decidable (∀ remark ∈ nodeRemarks node, stray remark = []))

theorem declarations_messageText (node : NodeType) :
    declarations (messageText node) = (messageLines node).flatMap declarations :=
  declarations_joinLines (by simp [messageLines])

/-- The text of a message declares its lines exactly if its comments are harmless. -/
theorem declarations_messageText_iff (node : NodeType) :
    declarations (messageText node) = (Message.of node).lines ↔ HarmlessRemarks node := by
  rw [declarations_messageText]
  exact (says_messageLines node).eq_iff

/-- A message without harmful comments can be read from its text. -/
theorem messagesIn_messageText {node : NodeType} (h : HarmlessRemarks node) :
    messagesIn (messageText node) = [Message.of node] := by
  rw [messagesIn, (declarations_messageText_iff node).mpr h, read_message (legible_message node)]
  rfl

/-- **The fields of a message represent the properties of its node type**, one for each, numbered
from one on, with distinct identifiers for names; and they stay what they are when properties are
added behind. They stand in the text of the message in their order. The text declares nothing else
exactly if its comments are harmless, and then it is read as this message. -/
theorem fields_numbered (node : NodeType) :
    Represent node.properties (Message.of node).fields ∧
      (∀ more, (Message.of node).fields <+:
        (Message.of { node with properties := node.properties ++ more }).fields) ∧
      (Message.of node).lines.Sublist (declarations (messageText node)) ∧
      (declarations (messageText node) = (Message.of node).lines ↔ HarmlessRemarks node) ∧
      (HarmlessRemarks node → messagesIn (messageText node) = [Message.of node]) := by
  refine ⟨represent_fields node, fields_prefix node, ?_, declarations_messageText_iff node,
    messagesIn_messageText⟩
  rw [declarations_messageText]
  exact (says_messageLines node).sublist

/-- A node type without a name, with properties of names that become identifiers of each other. -/
def collidingNames : NodeType where
  name := ""
  properties := ["a-b", "a_b", "a_b_2", "a.b", "2"].map fun name =>
    { name, type := .standard .string, description := "Any text.\n\t// Of any length." }

/-- Names that become identifiers of each other are told apart by numbers. -/
theorem collidingNames_numbered :
    HarmlessRemarks collidingNames ∧
      messagesIn (messageText collidingNames) = [⟨"f_", [⟨"string", "a_b", 1⟩,
        ⟨"string", "a_b_2", 2⟩, ⟨"string", "a_b_2_2", 3⟩, ⟨"string", "a_b_3", 4⟩,
        ⟨"string", "f_2", 5⟩]⟩] := by
  have hharmless : HarmlessRemarks collidingNames := by decide +kernel
  have hread := (fields_numbered collidingNames).2.2.2.2 hharmless
  refine ⟨hharmless, ?_⟩
  rw [hread]
  decide +kernel

/-- A node type of an accepted ontology, with one property. What that says on its second line is
another field of its name. -/
theorem title_repeated :
    ∃ node ∈ (described "1" "" "The title.\n  string title = 2;").nodeTypes,
      (described "1" "" "The title.\n  string title = 2;").validate = .ok () ∧
        node.properties.length = 1 ∧
        messagesIn (messageText node) =
          [⟨"Document", [⟨"string", "title", 1⟩, ⟨"string", "title", 2⟩]⟩] := by
  refine ⟨_, List.mem_singleton_self _, by decide, rfl, ?_⟩
  decide +kernel

end Ontograph.Proto
