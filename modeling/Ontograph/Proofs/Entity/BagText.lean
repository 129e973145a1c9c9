/-
Ontograph.Proofs.Entity.BagText — entities that are known by all they hold.

An entity without a natural key is hashed as the compact JSON of its bag, and
the reader of this library reads that back. For bags of truth values, integers
and texts, which are `Discrete`, nothing is lost on the way
(`Discrete.read_bagText`), so no quote, brace or control character in a key or a
value gives two bags one text. Entities without any natural key are therefore
hashed from one text only if they hold the same (`of_eq_iff_of_keyless`).

An identity that is blank counts as none. A natural key counts as soon as it is
there, also if it is blank, and then it is all that is hashed. So entities whose
keys were left blank are told apart if one of them has no key at all or if the
blanks are different ones, and otherwise not, whatever else they hold
(`of_eq_iff_of_unnamed`). `unnumberedBill_shared` are two bills that become one
node.
-/
import Ontograph.Proofs.Entity.Document
import Ontograph.Proofs.Entity.StableIdentity

namespace Ontograph

/-! ## Discrete values -/

namespace PropertyValue

/-- A truth value, an integer of sixty-four bits or a text. -/
inductive Discrete : PropertyValue → Prop where
  | boolean (b : Bool) : Discrete (boolean b)
  | integer {i : Int} (fits : Literal.fitsSigned i = true) : Discrete (integer i)
  | string (s : String) : Discrete (string s)

instance : DecidablePred Discrete
  | boolean b => .isTrue (.boolean b)
  | integer i =>
    decidable_of_iff (Literal.fitsSigned i = true) ⟨.integer, fun (.integer fits) => fits⟩
  | string s => .isTrue (.string s)
  | float _ => .isFalse nofun
  | timestamp _ => .isFalse nofun
  | vector _ => .isFalse nofun

theorem Discrete.decoded {v : PropertyValue} (h : v.Discrete) : v.Decoded := by
  cases h with
  | boolean b => exact ⟨.bool b, rfl⟩
  | @integer i fits => exact ⟨.int i, by rw [ofJson?, if_pos fits]⟩
  | string s => exact ⟨.string s, rfl⟩

/-- Discrete values hold no floats, and documents hold them as the graph store gets them. -/
theorem Discrete.toDocument {v : PropertyValue} (h : v.Discrete) :
    v.toDocument = v.toJson ∧ v.doubles = [] ∧ v.singles = [] := by
  cases h with
  | boolean b => exact ⟨rfl, rfl, rfl⟩
  | integer fits => exact ⟨rfl, rfl, rfl⟩
  | string s => exact ⟨rfl, rfl, rfl⟩

end PropertyValue

/-! ## Discrete bags -/

namespace Properties

/-- A bag of discrete values. -/
def Discrete (p : Properties) : Prop := ∀ e ∈ p.entries, e.2.Discrete

instance (p : Properties) : Decidable p.Discrete :=
  inferInstanceAs (Decidable (∀ e ∈ p.entries, e.2.Discrete))

theorem Discrete.toDocument {p : Properties} (h : p.Discrete) :
    p.toDocument = .object p.toFields := by
  rw [Properties.toDocument, toFields]
  refine congrArg Json.object (List.map_congr_left fun e he => ?_)
  rw [(h e he).toDocument.1]

/-- A discrete bag is read back from its text. -/
theorem Discrete.read_bagText {p : Properties} (h : p.Discrete) :
    (Json.read (Identity.bagText p)).bind (ofShape? 2) = some p := by
  have hdoubles : p.doubles = [] := List.flatMap_eq_nil_iff.mpr fun e he => (h e he).toDocument.2.1
  have hsingles : p.singles = [] := List.flatMap_eq_nil_iff.mpr fun e he => (h e he).toDocument.2.2
  obtain ⟨k, hk⟩ := exists_returns (fun e he => (h e he).decoded)
    (by simp [hdoubles]) (by simp [hsingles])
  have hread := (hk 0).of_compact
  rwa [h.toDocument] at hread

/-- Discrete bags have one text only if they are the same. -/
theorem Discrete.bagText_inj {p q : Properties} (hp : p.Discrete) (hq : q.Discrete) :
    Identity.bagText p = Identity.bagText q ↔ p = q := by
  refine ⟨fun htext => Option.some.inj ?_, fun h => h ▸ rfl⟩
  rw [← hp.read_bagText, ← hq.read_bagText, htext]

end Properties

namespace Identity

/-! ## No key -/

/-- A bag holds neither an identity nor any natural key. -/
structure Keyless (node : Option NodeType) (p : Properties) : Prop where
  anonymous : Anonymous p
  absent : ∀ key ∈ keys node, p.get? key = none

/-- **Entities without a key.** What holds neither an identity nor a natural key is hashed as all
that it holds, and entities that hold different things are hashed from different texts. -/
theorem of_eq_iff_of_keyless (type : String) {node : Option NodeType} {p q : Properties}
    (hp : p.Discrete) (hq : q.Discrete) (hpkeys : Keyless node p) (hqkeys : Keyless node q) :
    Identity.of type node p = hashed (type ++ ":" ++ bagText p) ∧
      Identity.of type node q = hashed (type ++ ":" ++ bagText q) ∧
      (type ++ ":" ++ bagText p = type ++ ":" ++ bagText q ↔ p = q) := by
  refine ⟨?_, ?_, ?_⟩
  · exact of_eq_hashed_bag hpkeys.anonymous (List.findSome?_eq_none_iff.mpr hpkeys.absent) type
  · exact of_eq_hashed_bag hqkeys.anonymous (List.findSome?_eq_none_iff.mpr hqkeys.absent) type
  · rw [String.append_right_inj, hp.bagText_inj hq]

def quotingNote : Properties := .ofList [("body", .string "a\",\"draft\":true,\"x\":\"")]

def draftNote : Properties :=
  .ofList [("body", .string "a"), ("draft", .boolean true), ("x", .string "")]

/-- A text that looks like two values is told apart from two values. -/
theorem quotingNote_apart :
    quotingNote.Discrete ∧ draftNote.Discrete ∧ Keyless none quotingNote ∧ Keyless none draftNote ∧
      Identity.of "Note" none quotingNote ≠ Identity.of "Note" none draftNote := by
  have hquoting : Keyless none quotingNote := ⟨given?_eq_none_iff.mp (by decide), by decide⟩
  have hdraft : Keyless none draftNote := ⟨given?_eq_none_iff.mp (by decide), by decide⟩
  obtain ⟨hof, hof', htexts⟩ :=
    of_eq_iff_of_keyless "Note" (by decide : quotingNote.Discrete) (by decide) hquoting hdraft
  refine ⟨by decide, by decide, hquoting, hdraft, fun heq => ?_⟩
  rw [hof, hof', Identity.hashed.injEq, htexts] at heq
  exact absurd heq (by decide)

/-! ## Blank keys -/

/-- Whatever identity and natural keys a bag holds are blank. -/
structure Unnamed (node : Option NodeType) (p : Properties) : Prop where
  anonymous : Anonymous p
  blank : ∀ key ∈ keys node, ∀ v ∈ p.get? key, Text.isBlankText v.displayText = true

theorem Unnamed.isBlankText_keyValue {node : Option NodeType} {p : Properties} (h : Unnamed node p)
    {v : PropertyValue} (hv : keyValue? (keys node) p = some v) :
    Text.isBlankText v.displayText = true := by
  obtain ⟨key, hkey, hfound⟩ := List.exists_of_findSome?_eq_some hv
  exact h.blank key hkey v hfound

/-- The text of a bag begins with a brace. -/
theorem isBlankText_bagText (p : Properties) : Text.isBlankText (bagText p) = false := by
  have hbrace : Text.isBlank '\x7b' = false := by decide
  simp [bagText, Json.compact, Text.isBlankText, String.toList_append, hbrace]

/-- No blank key is the text of a bag. -/
theorem Unnamed.ne_bagText {node : Option NodeType} {p : Properties} (h : Unnamed node p)
    {v : PropertyValue} (hv : keyValue? (keys node) p = some v) (q : Properties) :
    v.displayText ≠ bagText q := by
  intro heq
  have hblank := h.isBlankText_keyValue hv
  rw [heq, isBlankText_bagText] at hblank
  cases hblank

/-- **Entities with blank keys.** They are hashed from one text if they hold the same, or if each
has a natural key and those that come first are the same blanks, and from different texts
otherwise. -/
theorem of_eq_iff_of_unnamed (type : String) {node : Option NodeType} {p q : Properties}
    (hp : p.Discrete) (hq : q.Discrete) (hpblank : Unnamed node p) (hqblank : Unnamed node q) :
    ∃ text other, Identity.of type node p = hashed text ∧ Identity.of type node q = hashed other ∧
      (text = other ↔ p = q ∨ SameKey (keys node) p q) := by
  -- a key that is there makes up the text alone; it is blank, and the text of a bag is not
  cases hv : keyValue? (keys node) p with
  | some v =>
    have hofp := of_eq_hashed_value hpblank.anonymous hv type
    cases hw : keyValue? (keys node) q with
    | some w =>
      have hofq := of_eq_hashed_value hqblank.anonymous hw type
      refine ⟨_, _, hofp, hofq, ?_⟩
      rw [String.append_right_inj, sameKey_iff hv hw, or_iff_right_of_imp]
      rintro rfl
      cases hv.symm.trans hw
      rfl
    | none =>
      have hofq := of_eq_hashed_bag hqblank.anonymous hw type
      refine ⟨_, _, hofp, hofq, ?_⟩
      rw [String.append_right_inj]
      refine iff_of_false (hpblank.ne_bagText hv q) fun hsame => ?_
      simpa [hv, hw] using isSome_keyValue?_eq hsame
  | none =>
    have hofp := of_eq_hashed_bag hpblank.anonymous hv type
    cases hw : keyValue? (keys node) q with
    | some w =>
      have hofq := of_eq_hashed_value hqblank.anonymous hw type
      refine ⟨_, _, hofp, hofq, ?_⟩
      rw [String.append_right_inj]
      refine iff_of_false (hqblank.ne_bagText hw p).symm fun hsame => ?_
      simpa [hv, hw] using isSome_keyValue?_eq hsame
    | none =>
      have hofq := of_eq_hashed_bag hqblank.anonymous hw type
      refine ⟨_, _, hofp, hofq, ?_⟩
      rw [String.append_right_inj, hp.bagText_inj hq, or_iff_left_of_imp]
      rintro ⟨v, w, hfound, -⟩
      cases hv.symm.trans hfound

def billType : NodeType :=
  { name := "Bill", properties := [{ name := "number", type := .standard .string }] }

def unnumberedBill (summary : String) : Properties :=
  .ofList [("number", .string ""), ("summary", .string summary)]

def summaryBill (summary : String) : Properties := .ofList [("summary", .string summary)]

/-- A blank number and no number at all are told apart by what is hashed. -/
theorem unnumberedBill_apart :
    (unnumberedBill "first").Discrete ∧ (summaryBill "first").Discrete ∧
      Unnamed (some billType) (unnumberedBill "first") ∧
      Unnamed (some billType) (summaryBill "first") ∧
      Identity.of "Bill" (some billType) (unnumberedBill "first") ≠
        Identity.of "Bill" (some billType) (summaryBill "first") := by
  have hblank : Unnamed (some billType) (unnumberedBill "first") :=
    ⟨given?_eq_none_iff.mp (by decide), by decide⟩
  have habsent : Unnamed (some billType) (summaryBill "first") :=
    ⟨given?_eq_none_iff.mp (by decide), by decide⟩
  obtain ⟨text, other, hof, hof', htexts⟩ :=
    of_eq_iff_of_unnamed "Bill" (by decide : (unnumberedBill "first").Discrete)
      (by decide : (summaryBill "first").Discrete) hblank habsent
  refine ⟨by decide, by decide, hblank, habsent, fun heq => ?_⟩
  rw [hof, hof', Identity.hashed.injEq, htexts] at heq
  exact absurd (isSome_keyValue?_eq heq) (by decide)

/-- Two bills with different summaries whose numbers were left blank have one identity. -/
theorem unnumberedBill_shared :
    (unnumberedBill "first").Discrete ∧ (unnumberedBill "second").Discrete ∧
      Unnamed (some billType) (unnumberedBill "first") ∧
      Unnamed (some billType) (unnumberedBill "second") ∧
      unnumberedBill "first" ≠ unnumberedBill "second" ∧
      Identity.of "Bill" (some billType) (unnumberedBill "first") = hashed "Bill:" ∧
      Identity.of "Bill" (some billType) (unnumberedBill "second") = hashed "Bill:" := by
  exact ⟨by decide, by decide, ⟨given?_eq_none_iff.mp (by decide), by decide⟩,
    ⟨given?_eq_none_iff.mp (by decide), by decide⟩, by decide, by decide, by decide⟩

end Identity
end Ontograph
