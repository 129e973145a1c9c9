/-
Ontograph.Proofs.Cypher.VectorIndex — which vector indexes a script creates.

`vectorIndex?` reads a statement that creates a vector index: the name of the
index, and the label and the property that it is on, each without backticks. A
property of type vector has such an index only if it has no other index:
`indexKind?` prefers a range index and a fulltext index (`creates_iff`). And a
name with a line feed is in no statement at all (`not_creates_of_feed`). The
dimensions are the same for all of them (`Declares.eq`).
-/
import Mathlib.Data.List.Nodup
import Ontograph.Proofs.Cypher.Name
import Ontograph.Proofs.Cypher.Schema
import Ontograph.Proofs.Ontology.Basic

namespace Ontograph.Cypher

open Text (FeedFree)

structure VectorIndex where
  name : String
  type : String
  property : String
  deriving DecidableEq

/-- The pieces of a statement that creates a vector index, up to its options. -/
def vectorPieces : List String :=
  ["CREATE VECTOR INDEX ", " IF NOT EXISTS FOR (n:", ") ON (n.", ") OPTIONS "]

def vectorIndex? (text : String) : Option VectorIndex :=
  match readNames? vectorPieces text.toList with
  | some [name, type, property] => some { name, type, property }
  | _ => none

def vectorIndexOn (node : NodeType) (p : Property) : VectorIndex where
  name := indexName node.name p.name .vector
  type := node.name
  property := p.name

/-- The script of an ontology creates a vector index. -/
def Creates (o : Ontology) (index : VectorIndex) : Prop :=
  ∃ text ∈ statements (script o), vectorIndex? text = some index

/-! ## Reading statements -/

/-- The statement for a vector index creates this index. -/
theorem vectorIndex?_vector (node : NodeType) (p : Property) :
    vectorIndex? (nodeText node p .vector) = some (vectorIndexOn node p) := by
  have hspace : EndsName ' ' := by decide
  have hbracket : EndsName ')' := by decide
  have htext : (nodeText node p .vector).toList =
      "CREATE VECTOR INDEX ".toList ++
        (writtenName (indexName node.name p.name .vector).toList ++
          (" IF NOT EXISTS FOR (n:".toList ++ (writtenName node.name.toList ++
            (") ON (n.".toList ++ (writtenName p.name.toList ++
              (") OPTIONS ".toList ++ ("\x7bindexConfig: \x7b`vector.dimensions`: " ++
                toString vectorDimensions ++
                  ", `vector.similarity_function`: 'cosine'\x7d\x7d").toList)))))) := by
    simp [nodeText, SchemaObject.statement, SchemaObject.opening, SchemaObject.target,
      SchemaObject.name, nameText]
  rw [vectorIndex?, htext, vectorPieces, readNames?_name _ rfl hspace,
    readNames?_name _ rfl hbracket, readNames?_name _ rfl hbracket, readNames?_end]
  rfl

theorem vectorIndex?_of_ne_vector {s : SchemaObject} (h : s.kind ≠ .vector) :
    vectorIndex? s.statement = none := by
  obtain ⟨rest, hrest⟩ : ∃ rest,
      s.statement.toList = (SchemaObject.opening s.kind).toList ++ rest :=
    ⟨_, by simp only [SchemaObject.statement, String.toList_append, List.append_assoc]; rfl⟩
  have hopening : "CREATE VECTOR INDEX ".toList.isPrefixOf
      ((SchemaObject.opening s.kind).toList ++ rest) = false := by
    cases hkind : s.kind with
    | vector => exact absurd hkind h
    | unique => rfl
    | presence => rfl
    | range => rfl
    | fulltext => rfl
  rw [vectorIndex?, vectorPieces, readNames?, hrest, if_neg (Bool.eq_false_iff.mp hopening)]

/-! ## Statements of an ontology -/

/-- A property has a vector index if its type is vector and it has neither a range index nor a
fulltext index. -/
def HasVectorIndex (p : Property) : Prop :=
  p.type.isVector = true ∧ ¬(p.indexed = true ∧ p.unique = false) ∧ p.fulltext = false

theorem mem_indexTexts_of_hasVectorIndex {p : Property} (h : HasVectorIndex p) (node : NodeType) :
    nodeText node p .vector ∈ indexTexts node p := by
  obtain ⟨hvector, hrange, hfulltext⟩ := h
  simp [indexTexts, if_neg hrange, hfulltext, hvector]

/-- A property that has a vector index has its statement in the schema. -/
theorem mem_schemaTexts_of_hasVectorIndex {o : Ontology} {node : NodeType}
    (hnode : node ∈ o.nodeTypes) {p : Property} (hp : p ∈ node.properties)
    (h : HasVectorIndex p) : nodeText node p .vector ∈ schemaTexts o := by
  have hmem := mem_indexTexts_of_hasVectorIndex h node
  simp only [schemaTexts, List.mem_append, List.mem_flatMap]
  exact .inl (.inr ⟨node, hnode, p, hp, hmem⟩)

/-- Of the statements of an ontology, only those for such properties create a vector index. -/
theorem vectorIndex?_schemaTexts {o : Ontology} {text : String} {index : VectorIndex}
    (hmem : text ∈ schemaTexts o) (h : vectorIndex? text = some index) :
    ∃ node ∈ o.nodeTypes, ∃ p ∈ node.properties,
      HasVectorIndex p ∧ index = vectorIndexOn node p ∧ text = nodeText node p .vector := by
  have hother : ∀ s : SchemaObject, s.kind ≠ .vector → text ≠ s.statement := by
    rintro s hkind rfl
    rw [vectorIndex?_of_ne_vector hkind] at h
    cases h
  simp only [schemaTexts, List.mem_append, List.mem_flatMap] at hmem
  rcases hmem with (⟨node, -, p, -, htext⟩ | ⟨node, hnode, p, hp, htext⟩) | ⟨rel, -, p, -, htext⟩
  · unfold constraintTexts at htext
    split at htext
    · exact absurd (List.mem_singleton.mp htext) (hother _ nofun)
    · split at htext
      · exact absurd (List.mem_singleton.mp htext) (hother _ nofun)
      · cases htext
  · -- of the three indexes a property can have, only the last is a vector index
    unfold indexTexts at htext
    split at htext
    · exact absurd (List.mem_singleton.mp htext) (hother _ nofun)
    · rename_i hrange
      split at htext
      · exact absurd (List.mem_singleton.mp htext) (hother _ nofun)
      · rename_i hfulltext
        split at htext
        · rename_i hvector
          have htext := List.mem_singleton.mp htext
          rw [htext, vectorIndex?_vector] at h
          exact ⟨node, hnode, p, hp, ⟨hvector, hrange, Bool.eq_false_iff.mpr hfulltext⟩,
            (Option.some.inj h).symm, htext⟩
        · cases htext
  · unfold relationshipTexts at htext
    split at htext
    · exact absurd (List.mem_singleton.mp htext) (hother _ nofun)
    · cases htext

/-- An accepted ontology creates the vector index of a property exactly if the property has one. -/
theorem creates_iff {o : Ontology} (hvalid : o.validate = .ok ()) (hfree : FeedFreeNames o)
    {node : NodeType} (hnode : node ∈ o.nodeTypes) {p : Property} (hp : p ∈ node.properties) :
    Creates o (vectorIndexOn node p) ↔ HasVectorIndex p := by
  rw [Creates, statements_script hfree]
  constructor
  · rintro ⟨text, htext, hindex⟩
    obtain ⟨node', hnode', p', hp', hhas, heq, -⟩ := vectorIndex?_schemaTexts htext hindex
    -- The names decide which type and which property it is.
    have hsame : node' = node := List.inj_on_of_nodup_map o.nodes.distinct hnode' hnode
      (congrArg VectorIndex.type heq).symm
    subst hsame
    have hnodup := o.properties_nodup_of_validate hvalid hnode
    have hsame : p' = p := List.inj_on_of_nodup_map hnodup hp' hp
      (congrArg VectorIndex.property heq).symm
    exact hsame ▸ hhas
  · intro hhas
    exact ⟨nodeText node p .vector, mem_schemaTexts_of_hasVectorIndex hnode hp hhas,
      vectorIndex?_vector node p⟩

/-- A vector index on a type or a property with a line feed in its name is never created. -/
theorem not_creates_of_feed (o : Ontology) {index : VectorIndex}
    (h : ¬ (FeedFree index.type ∧ FeedFree index.property)) : ¬ Creates o index := by
  rintro ⟨text, htext, hindex⟩
  have hfree := feedFree_of_mem_statements htext
  unfold vectorIndex? at hindex
  split at hindex
  · rename_i name type property hnames
    have hsubset := readNames?_subset hnames
    cases hindex
    exact h ⟨fun hfeed => hfree (hsubset type (by simp) hfeed),
      fun hfeed => hfree (hsubset property (by simp) hfeed)⟩
  · cases hindex

/-! ## Dimensions -/

/-- What a statement that creates a vector index ends with, after the dimensions. -/
def vectorEnding : String := ", `vector.similarity_function`: 'cosine'\x7d\x7d"

/-- The dimensions that a statement declares: the number before the ending. -/
def declaredDimensions? (text : String) : Option Nat :=
  let reversed := text.toList.reverse
  if vectorEnding.toList.reverse.isPrefixOf reversed then
    let digits := (reversed.drop vectorEnding.length).takeWhile Char.isDigit
    some (Nat.ofDigitChars 10 digits.reverse 0)
  else none

/-- The schema of an ontology declares some dimensions for the vector index on a property. -/
def Declares (o : Ontology) (node : NodeType) (p : Property) (dimensions : Nat) : Prop :=
  ∃ text ∈ schemaTexts o, vectorIndex? text = some (vectorIndexOn node p) ∧
    declaredDimensions? text = some dimensions

theorem declaredDimensions?_eq_some {text : String} (front : List Char) {n : Nat}
    (h : text.toList = front ++ ' ' :: ((toString n).toList ++ vectorEnding.toList)) :
    declaredDimensions? text = some n := by
  have htext : (toString n).toList = Nat.toDigits 10 n := by
    rw [Nat.toString_eq_repr, Nat.toList_repr]
  have hdigits : ∀ c ∈ (Nat.toDigits 10 n).reverse, c.isDigit = true := fun c hc =>
    Nat.isDigit_of_mem_toDigits (by decide) (by decide) (List.mem_reverse.mp hc)
  have hreversed : text.toList.reverse =
      vectorEnding.toList.reverse ++ ((Nat.toDigits 10 n).reverse ++ ' ' :: front.reverse) := by
    rw [h, htext]
    simp
  have hlength : vectorEnding.length = vectorEnding.toList.reverse.length := by
    rw [List.length_reverse, String.length_toList]
  simp only [declaredDimensions?, hreversed]
  rw [if_pos (List.isPrefixOf_iff_prefix.mpr (List.prefix_append _ _)), hlength, List.drop_left,
    List.takeWhile_append_of_pos hdigits, List.takeWhile_cons_of_neg (by decide), List.append_nil,
    List.reverse_reverse, Nat.ofDigitChars_ten_toDigits]

/-- Every vector index is declared with the same dimensions. -/
theorem declaredDimensions?_vector (node : NodeType) (p : Property) :
    declaredDimensions? (nodeText node p .vector) = some vectorDimensions := by
  refine declaredDimensions?_eq_some ("CREATE VECTOR INDEX " ++
    nameText (indexName node.name p.name .vector) ++ " IF NOT EXISTS FOR (n:" ++
      nameText node.name ++ ") ON (n." ++ nameText p.name ++
        ") OPTIONS \x7bindexConfig: \x7b`vector.dimensions`:").toList ?_
  simp [nodeText, SchemaObject.statement, SchemaObject.opening, SchemaObject.target,
    SchemaObject.name, vectorEnding]

/-- All vector indexes have the same dimensions. -/
theorem Declares.eq {o : Ontology} {node : NodeType} {p : Property} {n : Nat}
    (h : Declares o node p n) : n = vectorDimensions := by
  obtain ⟨text, htext, hindex, hn⟩ := h
  obtain ⟨node', -, p', -, -, -, rfl⟩ := vectorIndex?_schemaTexts htext hindex
  rw [declaredDimensions?_vector] at hn
  exact (Option.some.inj hn).symm

/-- They are declared for every property that has a vector index. -/
theorem declares_of_hasVectorIndex {o : Ontology} {node : NodeType} (hnode : node ∈ o.nodeTypes)
    {p : Property} (hp : p ∈ node.properties) (h : HasVectorIndex p) :
    Declares o node p vectorDimensions :=
  ⟨nodeText node p .vector, mem_schemaTexts_of_hasVectorIndex hnode hp h,
    vectorIndex?_vector node p, declaredDimensions?_vector node p⟩

end Ontograph.Cypher
