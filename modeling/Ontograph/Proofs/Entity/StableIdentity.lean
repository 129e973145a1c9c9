/-
Ontograph.Proofs.Entity.StableIdentity — what an identity depends on.

An identity depends on one value: the identity that a bag holds itself, or else
the value of the first natural key that is there. Two bags that agree on it
(`Agree`) have one identity whatever else is in them, and two without an
identity of their own whose first natural keys have other texts are hashed from
different texts.

An entity that is given its derived identity for its own keeps it, for whatever
type it is derived again, since no identity is blank: a hash is written in
sixteen hexadecimal digits (`toList_hashed`). Both facts stand in
`deriveIdentity_stable`.
-/
import Ontograph.Entity.Identity

namespace Ontograph.Identity

/-! ## Identities of bags -/

/-- A bag holds no identity of its own: there is none, or a blank one. -/
def Anonymous (p : Properties) : Prop :=
  ∀ v, p.get? identityProperty = some v → Text.isBlankText v.displayText = true

/-- The identity that a bag gives is the text under its key, if that is not blank. -/
theorem given?_eq_some_iff {p : Properties} {id : String} :
    given? p = some id ↔
      ∃ v, p.get? identityProperty = some v ∧ v.displayText = id ∧ Text.isBlankText id = false := by
  simp only [given?, Option.filter_eq_some_iff, Option.map_eq_some_iff, Bool.not_eq_true']
  constructor
  · rintro ⟨⟨v, hv, htext⟩, hblank⟩
    exact ⟨v, hv, htext, hblank⟩
  · rintro ⟨v, hv, htext, hblank⟩
    exact ⟨⟨v, hv, htext⟩, hblank⟩

theorem given?_eq_none_iff {p : Properties} : given? p = none ↔ Anonymous p := by
  constructor
  · intro hnone v hv
    cases hblank : Text.isBlankText v.displayText with
    | true => rfl
    | false => cases hnone.symm.trans (given?_eq_some_iff.mpr ⟨v, hv, rfl, hblank⟩)
  · intro hanonymous
    cases hgiven : given? p with
    | none => rfl
    | some id =>
      obtain ⟨v, hv, rfl, hblank⟩ := given?_eq_some_iff.mp hgiven
      cases hblank.symm.trans (hanonymous v hv)

theorem of_eq_given {p : Properties} {id : String} (h : given? p = some id) (type : String)
    (node : Option NodeType) : Identity.of type node p = given id := by
  rw [Identity.of, h]

/-- Without an identity of its own, a bag is known by the hash of its first natural key. -/
theorem of_eq_hashed_value {node : Option NodeType} {p : Properties} {value : PropertyValue}
    (hp : Anonymous p) (hvalue : keyValue? (keys node) p = some value) (type : String) :
    Identity.of type node p = hashed (type ++ ":" ++ value.displayText) := by
  rw [Identity.of, given?_eq_none_iff.mpr hp, hvalue]

/-- Without natural keys, the text of the whole bag is hashed. -/
theorem of_eq_hashed_bag {node : Option NodeType} {p : Properties} (hp : Anonymous p)
    (hnone : keyValue? (keys node) p = none) (type : String) :
    Identity.of type node p = hashed (type ++ ":" ++ bagText p) := by
  rw [Identity.of, given?_eq_none_iff.mpr hp, hnone]

theorem exists_of_eq_hashed {p : Properties} (hp : Anonymous p) (type : String)
    (node : Option NodeType) : ∃ text, Identity.of type node p = hashed text := by
  cases hvalue : keyValue? (keys node) p with
  | some value => exact ⟨_, of_eq_hashed_value hp hvalue type⟩
  | none => exact ⟨_, of_eq_hashed_bag hp hvalue type⟩

/-- Two bags that are known by natural keys are told apart by the texts of these. -/
theorem of_eq_of_iff {node : Option NodeType} {p q : Properties} {v w : PropertyValue}
    (hp : Anonymous p) (hq : Anonymous q) (hv : keyValue? (keys node) p = some v)
    (hw : keyValue? (keys node) q = some w) (type : String) :
    Identity.of type node p = Identity.of type node q ↔ v.displayText = w.displayText := by
  rw [of_eq_hashed_value hp hv, of_eq_hashed_value hq hw, Identity.hashed.injEq,
    String.append_right_inj]

/-! ## Agreement -/

/-- The first of some keys that is in either bag is in both, with values of one text. -/
inductive FirstAgrees (p q : Properties) : List String → Prop where
  | here {key rest v w} (hp : p.get? key = some v) (hq : q.get? key = some w)
      (htext : v.displayText = w.displayText) : FirstAgrees p q (key :: rest)
  | later {key rest} (hp : p.get? key = none) (hq : q.get? key = none)
      (hrest : FirstAgrees p q rest) : FirstAgrees p q (key :: rest)

/-- Two bags have natural keys, and those that come first have values of one text. -/
def SameKey (keys : List String) (p q : Properties) : Prop :=
  ∃ v w, keyValue? keys p = some v ∧ keyValue? keys q = some w ∧ v.displayText = w.displayText

theorem sameKey_iff {keys : List String} {p q : Properties} {v w : PropertyValue}
    (hv : keyValue? keys p = some v) (hw : keyValue? keys q = some w) :
    SameKey keys p q ↔ v.displayText = w.displayText := by
  simp [SameKey, hv, hw]

/-- Bags that are the same, or have the same key, both have a key or both have none. -/
theorem isSome_keyValue?_eq {keys : List String} {p q : Properties} (h : p = q ∨ SameKey keys p q) :
    (keyValue? keys p).isSome = (keyValue? keys q).isSome := by
  rcases h with rfl | ⟨v, w, hv, hw, -⟩
  · rfl
  · rw [hv, hw]
    rfl

/-- Two bags agree on what their identity depends on. -/
inductive Agree (node : Option NodeType) (p q : Properties) : Prop where
  | own {v w} (hp : p.get? identityProperty = some v) (hq : q.get? identityProperty = some w)
      (htext : v.displayText = w.displayText) (hblank : Text.isBlankText v.displayText = false)
  | natural (hp : Anonymous p) (hq : Anonymous q) (hkeys : FirstAgrees p q (keys node))

theorem FirstAgrees.sameKey {p q : Properties} {keys : List String} (h : FirstAgrees p q keys) :
    SameKey keys p q := by
  induction h with
  | @here key rest v w hp hq htext =>
    exact ⟨v, w, by simp [keyValue?, hp], by simp [keyValue?, hq], htext⟩
  | @later key rest hp hq _ ih =>
    obtain ⟨v, w, hv, hw, htext⟩ := ih
    refine ⟨v, w, ?_, ?_, htext⟩
    · rwa [keyValue?, List.findSome?_cons, hp]
    · rwa [keyValue?, List.findSome?_cons, hq]

/-- Bags that agree are identified alike. -/
theorem Agree.of_eq {node : Option NodeType} {p q : Properties} (h : Agree node p q)
    (type : String) : Identity.of type node p = Identity.of type node q := by
  cases h with
  | @own v w hp hq htext hblank =>
    have hv : given? p = some w.displayText :=
      given?_eq_some_iff.mpr ⟨v, hp, htext, htext ▸ hblank⟩
    have hw : given? q = some w.displayText :=
      given?_eq_some_iff.mpr ⟨w, hq, rfl, htext ▸ hblank⟩
    rw [of_eq_given hv, of_eq_given hw]
  | natural hp hq hkeys =>
    obtain ⟨v, w, hv, hw, htext⟩ := hkeys.sameKey
    exact (of_eq_of_iff hp hq hv hw type).mpr htext

/-! ## Hashes -/

theorem length_wordHex (x : UInt32) : (Sha256.wordHex x).length = 8 := by
  rw [Sha256.wordHex, List.length_map, List.length_range]

theorem exists_digit_of_mem_wordHex {x : UInt32} {c : Char} (h : c ∈ Sha256.wordHex x) :
    ∃ d < 16, Json.hexDigit d = c := by
  obtain ⟨i, -, rfl⟩ := List.mem_map.mp h
  exact ⟨_, Nat.mod_lt _ (by decide), rfl⟩

/-- A digest is written word by word. -/
theorem exists_toList_hex (message : List UInt8) :
    ∃ ws : List UInt32, ws.length = 8 ∧
      (Sha256.hex message).toList = ws.flatMap Sha256.wordHex :=
  ⟨_, rfl, String.toList_ofList⟩

/-- A hash keeps sixteen hexadecimal digits. -/
theorem toList_hashed (text : String) :
    (hashed text).value.toList.length = hashLength ∧
      ∀ c ∈ (hashed text).value.toList, ∃ d < 16, Json.hexDigit d = c := by
  obtain ⟨ws, hlength, hhex⟩ := exists_toList_hex text.toUTF8.toList
  have htext : (hashed text).value.toList = (ws.flatMap Sha256.wordHex).take hashLength := by
    rw [Identity.value, String.toList_ofList, Sha256.ofText, hhex]
  rw [htext]
  constructor
  · simp [List.length_flatMap, length_wordHex, List.map_const', hlength, hashLength]
  · intro c hc
    obtain ⟨x, -, hx⟩ := List.mem_flatMap.mp (List.mem_of_mem_take hc)
    exact exists_digit_of_mem_wordHex hx

theorem isBlank_hexDigit : ∀ d < 16, Text.isBlank (Json.hexDigit d) = false := by decide

theorem isBlankText_hashed (text : String) : Text.isBlankText (hashed text).value = false := by
  obtain ⟨hlength, hdigits⟩ := toList_hashed text
  rw [Text.isBlankText, List.all_eq_false]
  cases hchars : (hashed text).value.toList with
  | nil => simp [hchars, hashLength] at hlength
  | cons c rest =>
    obtain ⟨d, hd, rfl⟩ := hdigits c (by simp [hchars])
    exact ⟨_, List.mem_cons_self, by simp [isBlank_hexDigit d hd]⟩

/-- No entity has a blank identity. -/
theorem isBlankText_deriveIdentity (type : String) (node : Option NodeType) (p : Properties) :
    Text.isBlankText (deriveIdentity type node p) = false := by
  rw [deriveIdentity]
  cases hgiven : given? p with
  | some id =>
    obtain ⟨v, -, -, hblank⟩ := given?_eq_some_iff.mp hgiven
    rw [of_eq_given hgiven]
    exact hblank
  | none =>
    obtain ⟨text, htext⟩ := exists_of_eq_hashed (given?_eq_none_iff.mp hgiven) type node
    rw [htext]
    exact isBlankText_hashed text

/-! ## Stability -/

/-- **Identities are stable.** Two bags that agree on their own identity, or else on their first
natural key, have one identity, whatever else is in them; an entity that is given the identity it
has keeps it, under any type. The natural key is not only enough: bags whose first natural keys
have different texts are hashed from different texts. -/
theorem deriveIdentity_stable (type : String) (node : Option NodeType) :
    (∀ p q, Agree node p q → deriveIdentity type node p = deriveIdentity type node q) ∧
      (∀ p q v w, Anonymous p → Anonymous q → keyValue? (keys node) p = some v →
        keyValue? (keys node) q = some w →
          (Identity.of type node p = Identity.of type node q ↔ v.displayText = w.displayText)) ∧
      ∀ p type' node',
        deriveIdentity type' node'
            (p.insert identityProperty (.string (deriveIdentity type node p))) =
          deriveIdentity type node p := by
  refine ⟨fun p q h => ?_, fun p q v w hp hq hv hw => ?_, fun p type' node' => ?_⟩
  · rw [deriveIdentity, deriveIdentity, h.of_eq]
  · exact of_eq_of_iff hp hq hv hw type
  · have hown : given? (p.insert identityProperty (.string (deriveIdentity type node p))) =
        some (deriveIdentity type node p) :=
      given?_eq_some_iff.mpr
        ⟨_, by rw [Properties.get?_insert, if_pos rfl], rfl, isBlankText_deriveIdentity type node p⟩
    rw [deriveIdentity, of_eq_given hown, Identity.value]

def listingType : NodeType :=
  { name := "Listing", identityKeys := ["symbol", "number"] }

def blankListing : Properties := .ofList [("id", .string " "), ("number", .string "7")]

def namedListing : Properties := .ofList [("name", .string "seven"), ("number", .integer 7)]

/-- A blank identity is none, the first key is in neither listing, and an integer counts by its
digits. -/
theorem blankListing_stable :
    blankListing ≠ namedListing ∧ Agree (some listingType) blankListing namedListing ∧
      deriveIdentity "Listing" (some listingType) blankListing =
        deriveIdentity "Listing" (some listingType) namedListing := by
  have hagree : Agree (some listingType) blankListing namedListing := by
    refine .natural (given?_eq_none_iff.mp (by decide)) (given?_eq_none_iff.mp (by decide)) ?_
    have hkeys : keys (some listingType) = ["symbol", "number"] := by decide
    rw [hkeys]
    exact .later (by decide) (by decide)
      (.here (v := .string "7") (w := .integer 7) (by decide) (by decide) (by decide))
  exact ⟨by decide, hagree, (deriveIdentity_stable _ _).1 _ _ hagree⟩

end Ontograph.Identity
