/-
Ontograph.Proofs.Entity.Identity — which entities of two types share an identity.

An entity without an identity of its own is identified by a hash of its type, a
colon and its key: the value of its first natural key, or all of its
properties. The text does not say where the type ends, since names and values
may hold colons themselves. So entities of two types have one text exactly if
`Shifted`: the name of one type goes on from the other's with a colon, and what
follows it there begins the key of the other (`hashedText_eq_iff`).

Types are therefore told apart whatever the properties, unless one of the names
goes on from the other with a colon; if it does, a single value under a natural
key is enough to bring an entity of the shorter name onto one of the longer
(`deriveIdentity_eq_iff`). `validate` accepts such names, and
`deriveIdentity_shared` is an ontology that has two.
-/
import Mathlib.Data.List.Nodup
import Ontograph.Entity.Identity
import Ontograph.Ontology.Basic
import Ontograph.Proofs.Text.Separator

namespace Ontograph.Identity

/-! ## The hashed text -/

/-- What stands behind the type and the colon in the text that is hashed. -/
def keyText (node : NodeType) (p : Properties) : String :=
  match keyValue? (keys (some node)) p with
  | some value => value.displayText
  | none => bagText p

def hashedText (node : NodeType) (p : Properties) : String := node.name ++ ":" ++ keyText node p

theorem of_eq_hashed {node : NodeType} {p : Properties} (h : given? p = none) :
    Identity.of node.name (some node) p = hashed (hashedText node p) := by
  unfold Identity.of hashedText keyText
  rw [h]
  cases keyValue? (keys (some node)) p <;> rfl

/-- The name of the second type goes on from the first's with a colon, and what follows it begins
the key of the first entity. -/
def Shifted (first : NodeType) (p : Properties) (second : NodeType) (q : Properties) : Prop :=
  ∃ between : String, second.name = first.name ++ ":" ++ between ∧
    keyText first p = between ++ ":" ++ keyText second q

/-- Two types hash one text exactly if one of them is shifted against the other. -/
theorem hashedText_eq_iff {first second : NodeType} (hne : first.name ≠ second.name)
    {p q : Properties} :
    hashedText first p = hashedText second q ↔
      Shifted first p second q ∨ Shifted second q first p := by
  unfold hashedText
  rw [Text.append_mark_eq_iff (show ":".toList = [':'] from rfl)]
  exact or_iff_right fun h => hne h.1

/-! ## Types apart -/

/-- One name goes on from another with a colon. -/
def Continues (name other : String) : Prop := (name ++ ":").toList <+: other.toList

instance (name other : String) : Decidable (Continues name other) :=
  inferInstanceAs (Decidable ((name ++ ":").toList <+: other.toList))

theorem continues_iff {name other : String} :
    Continues name other ↔ ∃ between, other = name ++ ":" ++ between := by
  constructor
  · rintro ⟨between, h⟩
    exact ⟨String.ofList between, by rw [← String.toList_inj, ← h]; simp⟩
  · rintro ⟨between, rfl⟩
    exact ⟨between.toList, String.toList_append.symm⟩

/-- No entity of one type is hashed like one of the other. -/
def Apart (first second : NodeType) : Prop :=
  ∀ p q : Properties, given? p = none → given? q = none →
    Identity.of first.name (some first) p ≠ Identity.of second.name (some second) q

/-- Types neither of which goes on from the other behind a colon are apart. -/
theorem apart_of_not_continues {first second : NodeType} (hne : first.name ≠ second.name)
    (h : ¬ Continues first.name second.name) (h' : ¬ Continues second.name first.name) :
    Apart first second := by
  intro p q hp hq heq
  rw [of_eq_hashed hp, of_eq_hashed hq, Identity.hashed.injEq, hashedText_eq_iff hne] at heq
  rcases heq with ⟨between, hname, -⟩ | ⟨between, hname, -⟩
  · exact h (continues_iff.mpr ⟨between, hname⟩)
  · exact h' (continues_iff.mpr ⟨between, hname⟩)

/-- A type has a natural key that is not the identity itself. -/
def HasNaturalKey (node : NodeType) : Prop := ∃ key ∈ keys (some node), key ≠ identityProperty

instance (node : NodeType) : Decidable (HasNaturalKey node) :=
  inferInstanceAs (Decidable (∃ key ∈ keys (some node), key ≠ identityProperty))

/-! ## Bags of one value -/

theorem given?_insert_empty {key : String} (h : key ≠ identityProperty) (value : PropertyValue) :
    given? (Properties.empty.insert key value) = none := by
  simp [given?, Properties.get?_insert, Ne.symm h]

theorem keyText_insert_empty {node : NodeType} {key : String} (h : key ∈ keys (some node))
    (value : PropertyValue) :
    keyText node (Properties.empty.insert key value) = value.displayText := by
  have hfound : keyValue? (keys (some node)) (Properties.empty.insert key value) = some value := by
    cases hvalue : keyValue? (keys (some node)) (Properties.empty.insert key value) with
    | none =>
      have hkey := List.findSome?_eq_none_iff.mp hvalue key h
      simp [Properties.get?_insert] at hkey
    | some found =>
      obtain ⟨other, -, hother⟩ := List.exists_of_findSome?_eq_some hvalue
      rw [Properties.get?_insert] at hother
      split at hother
      · exact hother.symm
      · cases hother
  unfold keyText
  rw [hfound]

/-- A value under a natural key can be any text, so it can be what a longer name goes on with. -/
theorem exists_shifted {first second : NodeType} (h : Continues first.name second.name)
    (hkey : HasNaturalKey first) :
    ∃ p q, given? p = none ∧ given? q = none ∧ Shifted first p second q := by
  obtain ⟨between, hname⟩ := continues_iff.mp h
  obtain ⟨key, hmem, hne⟩ := hkey
  let value := between ++ ":" ++ keyText second .empty
  exact ⟨Properties.empty.insert key (.string value), .empty, given?_insert_empty hne _, rfl,
    between, hname, keyText_insert_empty hmem _⟩

/-! ## Shared identities -/

/-- Two texts have the same first digits of their hashes. -/
def Collide (text other : String) : Prop :=
  text ≠ other ∧ (hashed text).value = (hashed other).value

/-- **Who shares an identity.** Entities of two types of one ontology, neither with an identity of
its own, have the same derived identity exactly if the name of one type and the key of the other
make up for each other, or if the hashes of two different texts collide. Names that do not go on
from each other with a colon keep their types apart; a name that does, does not, if the type with
the shorter name has a natural key. -/
theorem deriveIdentity_eq_iff {o : Ontology} {first second : NodeType}
    (hfirst : first ∈ o.nodeTypes) (hsecond : second ∈ o.nodeTypes) (hne : first ≠ second) :
    (∀ p q, given? p = none → given? q = none →
      (deriveIdentity first.name (some first) p = deriveIdentity second.name (some second) q ↔
        Shifted first p second q ∨ Shifted second q first p ∨
          Collide (hashedText first p) (hashedText second q))) ∧
      (¬ Continues first.name second.name → ¬ Continues second.name first.name →
        Apart first second) ∧
      (Continues first.name second.name → HasNaturalKey first → ¬ Apart first second) := by
  have hnames : first.name ≠ second.name := fun heq =>
    hne (List.inj_on_of_nodup_map o.nodes.distinct hfirst hsecond heq)
  refine ⟨fun p q hp hq => ?_, apart_of_not_continues hnames, fun hcontinues hkey hapart => ?_⟩
  · rw [deriveIdentity, deriveIdentity, of_eq_hashed hp, of_eq_hashed hq, ← or_assoc,
      ← hashedText_eq_iff hnames]
    constructor
    · intro hvalue
      by_cases htext : hashedText first p = hashedText second q
      · exact .inl htext
      · exact .inr ⟨htext, hvalue⟩
    · rintro (htext | hcollide)
      · rw [htext]
      · exact hcollide.2
  · obtain ⟨p, q, hp, hq, hshifted⟩ := exists_shifted hcontinues hkey
    refine hapart p q hp hq ?_
    rw [of_eq_hashed hp, of_eq_hashed hq, (hashedText_eq_iff hnames).mpr (.inl hshifted)]

def numberedType (name : String) : NodeType :=
  { name, properties := [{ name := "number", type := .standard .string }] }

def numberedTypes (name other : String) : Ontology :=
  (({ domain := "library", version := "1" } : Ontology).registerNode
    (numberedType name)).registerNode (numberedType other)

def numberBag (number : String) : Properties := Properties.empty.insert "number" (.string number)

theorem bill_apart_resolution :
    (numberedTypes "Bill" "Resolution").validate = .ok () ∧
      Apart (numberedType "Bill") (numberedType "Resolution") := by
  have hbill : numberedType "Bill" ∈ (numberedTypes "Bill" "Resolution").nodeTypes := by decide
  have hresolution : numberedType "Resolution" ∈ (numberedTypes "Bill" "Resolution").nodeTypes := by
    decide
  obtain ⟨-, hapart, -⟩ := deriveIdentity_eq_iff hbill hresolution (by decide)
  exact ⟨by decide, hapart (by decide) (by decide)⟩

/-- The ontology is accepted, and a report with the number `Annual:7` has the identity of the
annual report with the number `7`. -/
theorem deriveIdentity_shared :
    (numberedTypes "Report" "Report:Annual").validate = .ok () ∧
      numberedType "Report" ∈ (numberedTypes "Report" "Report:Annual").nodeTypes ∧
      numberedType "Report:Annual" ∈ (numberedTypes "Report" "Report:Annual").nodeTypes ∧
      numberedType "Report" ≠ numberedType "Report:Annual" ∧
      given? (numberBag "Annual:7") = none ∧ given? (numberBag "7") = none ∧
      Identity.of "Report" (some (numberedType "Report")) (numberBag "Annual:7") =
        hashed "Report:Annual:7" ∧
      Identity.of "Report:Annual" (some (numberedType "Report:Annual")) (numberBag "7") =
        hashed "Report:Annual:7" ∧
      ¬ Apart (numberedType "Report") (numberedType "Report:Annual") := by
  have hreport : Identity.of "Report" (some (numberedType "Report")) (numberBag "Annual:7") =
      hashed "Report:Annual:7" := by decide
  have hannual : Identity.of "Report:Annual" (some (numberedType "Report:Annual")) (numberBag "7") =
      hashed "Report:Annual:7" := by decide
  refine ⟨by decide, by decide, by decide, by decide, by decide, by decide, hreport, hannual, ?_⟩
  intro hapart
  exact hapart (numberBag "Annual:7") (numberBag "7") (by decide) (by decide)
    (hreport.trans hannual.symm)

end Ontograph.Identity
