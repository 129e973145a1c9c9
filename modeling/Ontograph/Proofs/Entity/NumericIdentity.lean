/-
Ontograph.Proofs.Entity.NumericIdentity — entities with integers for identities.

What a record holds under a key of its properties is decoded by itself
(`get?_of_ofShape?`). An integer that fits sixty-four bits with a sign is kept
and has a text of its own; one that needs the sign's bit as well becomes a
double. Identities and natural keys are texts, so two different integers tell
entities apart unless they are `Merged`: both too large for a sign, and rounded
to one multiple of 2048 (`identities_eq_iff_merged`).
-/
import Ontograph.Entity.Basic
import Ontograph.Proofs.Entity.StableIdentity
import Ontograph.Proofs.Json.Record
import Ontograph.Proofs.Number.WideInteger

namespace Ontograph

/-! ## What a record holds -/

namespace Properties

/-- With distinct keys, the entries of an object are decoded one by one on top of a bag. -/
theorem get?_foldl_insert {fields : Fields} (hkeys : (Fields.keys fields).Nodup) (p : Properties)
    (key : String) :
    ((fields.filterMap fun e => (PropertyValue.ofJson? e.2).map (e.1, ·)).foldl
        (fun p e => p.insert e.1 e.2) p).get? key =
      ((Fields.get? key fields).bind PropertyValue.ofJson?).or (p.get? key) := by
  induction fields generalizing p with
  | nil => rfl
  | cons field rest ih =>
    obtain ⟨k, j⟩ := field
    obtain ⟨hnew, hrest⟩ := List.nodup_cons.mp hkeys
    rw [Fields.get?_cons]
    cases hj : PropertyValue.ofJson? j with
    | none =>
      rw [List.filterMap_cons_none (by simp [hj]), ih hrest]
      split
      · rename_i hk
        subst hk
        rw [Fields.get?_eq_none hnew]
        simp [hj]
      · rfl
    | some v =>
      rw [List.filterMap_cons_some (b := (k, v)) (by simp [hj]), List.foldl_cons, ih hrest,
        get?_insert]
      by_cases hk : k = key
      · subst hk
        rw [Fields.get?_eq_none hnew]
        simp [hj]
      · simp [hk, Ne.symm hk]

/-- Under a key of an object stands what is decoded from its value. -/
theorem get?_ofFields {fields : Fields} (hkeys : (Fields.keys fields).Nodup) (key : String) :
    (ofFields fields).get? key = (Fields.get? key fields).bind PropertyValue.ofJson? := by
  rw [ofFields, ofList, get?_foldl_insert hkeys, get?_empty, Option.or_none]

end Properties

namespace Entity

def property? (j : Json.Shape) (key : String) : Option Json := do
  let r ← j.record? ["entity_type", "properties", "relationships", "confidence", "source_span",
    "domain", "jsonld_schema", "embedding"]
  match ← findNamed? "properties" r with
  | (_, .object entries) =>
    (← Json.Shape.settle (Json.depthLimit - 1) (.object entries)).field? key
  | _ => none

theorem get?_of_ofShape? {j : Json.Shape} {e : Entity} (h : ofShape? j = some e) {key : String}
    {v : Json} (hv : property? j key = some v) :
    e.properties.get? key = PropertyValue.ofJson? v := by
  simp only [ofShape?, Option.bind_eq_bind, Option.bind_eq_some_iff, Option.pure_def] at h
  obtain ⟨r, hr, _, -, p, hp, _, -, _, -, _, -, _, -, _, -, _, -, he⟩ := h
  cases he
  simp only [property?, hr, Option.bind_eq_bind, Option.bind_some, Option.bind_eq_some_iff] at hv
  obtain ⟨⟨name, shape⟩, hfound, hv⟩ := hv
  split at hv
  · rename_i entries heq
    cases heq
    obtain ⟨value, hsettled, hfield⟩ := Option.bind_eq_some_iff.mp hv
    obtain ⟨fields, rfl, hkeys⟩ := Json.exists_nodup_of_settle hsettled
    simp only [Json.defaulted, hfound, Properties.ofShape?, hsettled, Option.some.injEq] at hp
    have hget : Fields.get? key fields = some v := hfield
    rw [← hp, Properties.get?_ofFields hkeys, hget, Option.bind_some]
  · cases hv

end Entity

/-! ## Integers as values -/

/-- A JSON value that is written as an integer. A zero with a sign is read as a double. -/
inductive Json.IsInteger : Json → Int → Prop
  | int (i : Int) : IsInteger (.int i) i
  | negativeZero : IsInteger (.double (Binary.negate .zero)) 0

/-- An integer fits sixty-four bits, with a sign or without. -/
def FitsEither (i : Int) : Prop := Literal.fitsSigned i = true ∨ Literal.fitsUnsigned i = true

namespace FitsEither

/-- An integer fits sixty-four bits with a sign, or it is wide. -/
theorem signed_or_wide {i : Int} (h : FitsEither i) :
    Literal.fitsSigned i = true ∧ i < 2 ^ 63 ∨ Literal.fitsSigned i = false ∧ Wide i := by
  have hsigned : Literal.fitsSigned i = true ↔ -(2 : Int) ^ 63 ≤ i ∧ i < 2 ^ 63 := by
    rw [Literal.fitsSigned, Bool.and_eq_true, decide_eq_true_eq, decide_eq_true_eq]
    exact Iff.rfl
  have hunsigned : Literal.fitsUnsigned i = true ↔ 0 ≤ i ∧ i < (2 : Int) ^ 64 := by
    rw [Literal.fitsUnsigned, Bool.and_eq_true, decide_eq_true_eq, decide_eq_true_eq]
    exact Iff.rfl
  by_cases hfits : Literal.fitsSigned i = true
  · exact .inl ⟨hfits, (hsigned.mp hfits).2⟩
  · obtain ⟨hpos, hhigh⟩ := hunsigned.mp (h.resolve_left hfits)
    refine .inr ⟨by simpa using hfits, ?_, hhigh⟩
    by_contra hlow
    exact hfits (hsigned.mpr ⟨by omega, by omega⟩)

end FitsEither

def shownInteger (i : Int) : ℚ := if i < 2 ^ 63 then i else (Binary.ofInt i : Double).shown

/-- Two different integers are shown alike exactly if they are merged. -/
theorem shownInteger_eq_iff {m n : Int} (hm : FitsEither m) (hn : FitsEither n) (hne : m ≠ n) :
    shownInteger m = shownInteger n ↔ Merged m n := by
  have hbeyond {i j : Int} (hi : i < 2 ^ 63) (hj : Wide j) :
      (i : ℚ) < (Binary.ofInt j : Double).shown := by
    have hcast : (i : ℚ) < (2 : ℚ) ^ 63 := by exact_mod_cast hi
    exact hcast.trans_le (Binary.le_shown_ofInt hj)
  unfold shownInteger Merged
  rcases hm.signed_or_wide with ⟨-, hm⟩ | ⟨-, hm⟩
  · rw [if_pos hm]
    refine iff_of_false ?_ fun h => absurd h.1 (Int.not_le.mpr hm)
    rcases hn.signed_or_wide with ⟨-, hn⟩ | ⟨-, hn⟩
    · rw [if_pos hn]
      exact_mod_cast hne
    · rw [if_neg (Int.not_lt.mpr hn.low)]
      exact (hbeyond hm hn).ne
  · rw [if_neg (Int.not_lt.mpr hm.low)]
    rcases hn.signed_or_wide with ⟨-, hn⟩ | ⟨-, hn⟩
    · rw [if_pos hn]
      exact iff_of_false (hbeyond hn hm).ne' fun h => absurd h.2.1 (Int.not_le.mpr hn)
    · rw [if_neg (Int.not_lt.mpr hn.low), Binary.shown_ofInt_eq_iff hm hn]
      exact ⟨fun h => ⟨hm.low, hn.low, h⟩, fun h => h.2.2⟩

/-- A value that an integer is decoded to. -/
def PropertyValue.Holds (v : PropertyValue) (i : Int) : Prop :=
  ∃ j : Json, j.IsInteger i ∧ ofJson? j = some v

namespace PropertyValue

theorem exists_holds {j : Json} {i : Int} (h : j.IsInteger i) :
    ∃ v : PropertyValue, ofJson? j = some v ∧ v.Holds i := by
  cases h with
  | int i => exact ⟨_, rfl, _, .int i, rfl⟩
  | negativeZero => exact ⟨_, rfl, _, .negativeZero, rfl⟩

/-- Integers of sixty-four bits with a sign are kept, others become doubles. -/
theorem Holds.eq_or {v : PropertyValue} {i : Int} (h : v.Holds i) (hi : FitsEither i) :
    v = integer i ∧ i < 2 ^ 63 ∨ v = float (Binary.ofInt i) ∧ Wide i ∨
      v = float (Binary.negate .zero) ∧ i = 0 := by
  obtain ⟨j, hj, hv⟩ := h
  cases hj with
  | negativeZero => exact .inr (.inr ⟨(Option.some.inj hv).symm, rfl⟩)
  | int =>
    rw [ofJson?, Option.some.injEq] at hv
    rcases hi.signed_or_wide with ⟨hfits, hi⟩ | ⟨hfits, hi⟩
    · rw [if_pos hfits] at hv
      exact .inl ⟨hv.symm, hi⟩
    · rw [hfits] at hv
      exact .inr (.inl ⟨hv.symm, hi⟩)

/-- The text of a value that holds an integer has the value that the integer is shown with. -/
theorem Holds.value?_displayText {v : PropertyValue} {i : Int} (h : v.Holds i)
    (hi : FitsEither i) : Literal.value? v.displayText = some (shownInteger i) := by
  rcases h.eq_or hi with ⟨rfl, hi⟩ | ⟨rfl, hi⟩ | ⟨rfl, rfl⟩
  · rw [shownInteger, if_pos hi]
    exact Literal.value?_toString i
  · rw [shownInteger, if_neg (Int.not_lt.mpr hi.low)]
    exact Binary.value?_displayText (Binary.isFinite_ofInt hi)
  · have hzero : ((Binary.zero : Double).negate).shown = 0 := by
      simp [Binary.shown, Binary.negate, Binary.zero, Binary.shortest, Decimal.value]
    rw [shownInteger, if_pos (by decide), Int.cast_zero, ← hzero]
    exact Binary.value?_displayText (by decide)

/-- A wide integer is held as a float. -/
theorem Holds.eq_float {v : PropertyValue} {i : Int} (h : v.Holds i) (hi : FitsEither i)
    (hlow : 2 ^ 63 ≤ i) : v = float (Binary.ofInt i) ∧ Wide i := by
  rcases h.eq_or hi with ⟨-, hi⟩ | hwide | ⟨-, rfl⟩
  · exact absurd hlow (Int.not_le.mpr hi)
  · exact hwide
  · exact absurd hlow (by decide)

/-- Two different integers have one text once they are decoded only if they are merged. -/
theorem Holds.displayText_eq_iff {u v : PropertyValue} {m n : Int} (hu : u.Holds m)
    (hv : v.Holds n) (hm : FitsEither m) (hn : FitsEither n) (hne : m ≠ n) :
    u.displayText = v.displayText ↔ Merged m n := by
  constructor
  · intro htext
    rw [← shownInteger_eq_iff hm hn hne]
    have hvalue := hu.value?_displayText hm
    rw [htext, hv.value?_displayText hn] at hvalue
    exact (Option.some.inj hvalue).symm
  · intro hmerged
    obtain ⟨hmlow, hnlow, hmultiple⟩ := hmerged
    obtain ⟨rfl, hm⟩ := hu.eq_float hm hmlow
    obtain ⟨rfl, hn⟩ := hv.eq_float hn hnlow
    rw [Binary.ofInt_wide hm, Binary.ofInt_wide hn, hmultiple]

end PropertyValue

/-! ## Integers as identities -/

namespace Identity

/-- A bag is known by a natural key: it has no identity of its own, and of the natural keys this one
is the first that is there. -/
structure KnownBy (node : Option NodeType) (p : Properties) (key : String) : Prop where
  anonymous : Anonymous p
  first : ∃ before after, keys node = before ++ key :: after ∧
    ∀ earlier ∈ before, p.get? earlier = none

/-- The identity is the hash of the value under the key. -/
theorem KnownBy.of_eq {node : Option NodeType} {p : Properties} {key : String}
    (h : KnownBy node p key) {v : PropertyValue} (hv : p.get? key = some v) (type : String) :
    Identity.of type node p = hashed (type ++ ":" ++ v.displayText) := by
  obtain ⟨before, after, hkeys, habsent⟩ := h.first
  refine of_eq_hashed_value h.anonymous ?_ type
  rw [keyValue?, hkeys, List.findSome?_append, List.findSome?_eq_none_iff.mpr habsent,
    Option.none_or, List.findSome?_cons, hv]

/-- **When integers tell entities apart.** Of two entities of one type, the records hold different
integers of sixty-four bits, with a sign or without. As identities, they identify the entities as
one exactly if they are merged. Under the first natural key that is there, they give the entities
one text to be hashed exactly if they are merged. -/
theorem identities_eq_iff_merged {j k : Json.Shape} {e f : Entity}
    (hj : Entity.ofShape? j = some e) (hk : Entity.ofShape? k = some f) (htype : e.type = f.type)
    {v w : Json} {m n : Int} (hv : v.IsInteger m) (hw : w.IsInteger n) (hm : FitsEither m)
    (hn : FitsEither n) (hne : m ≠ n) (node : Option NodeType) :
    (Entity.property? j identityProperty = some v → Entity.property? k identityProperty = some w →
      (deriveIdentity e.type node e.properties = deriveIdentity f.type node f.properties ↔
        Merged m n)) ∧
    ∀ key, KnownBy node e.properties key → KnownBy node f.properties key →
      Entity.property? j key = some v → Entity.property? k key = some w →
        ∃ text other, Identity.of e.type node e.properties = hashed text ∧
          Identity.of f.type node f.properties = hashed other ∧ (text = other ↔ Merged m n) := by
  obtain ⟨a, ha, ham⟩ := PropertyValue.exists_holds hv
  obtain ⟨b, hb, hbn⟩ := PropertyValue.exists_holds hw
  have htexts := ham.displayText_eq_iff hbn hm hn hne
  constructor
  · intro hjid hkid
    have heget := (Entity.get?_of_ofShape? hj hjid).trans ha
    have hfget := (Entity.get?_of_ofShape? hk hkid).trans hb
    have hegiven := given?_eq_some_iff.mpr ⟨a, heget, rfl,
      Literal.isBlankText_of_value? (ham.value?_displayText hm)⟩
    have hfgiven := given?_eq_some_iff.mpr ⟨b, hfget, rfl,
      Literal.isBlankText_of_value? (hbn.value?_displayText hn)⟩
    rw [deriveIdentity, deriveIdentity, of_eq_given hegiven, of_eq_given hfgiven]
    exact htexts
  · intro key he hf hjkey hkkey
    have heget := (Entity.get?_of_ofShape? hj hjkey).trans ha
    have hfget := (Entity.get?_of_ofShape? hk hkkey).trans hb
    refine ⟨_, _, he.of_eq heget e.type, hf.of_eq hfget f.type, ?_⟩
    rw [htype, String.append_right_inj]
    exact htexts

def integerRecord (key : String) (i : Int) : Json :=
  .object [("entity_type", .string "Bill"), ("properties", .object [(key, .int i)])]

def integerBill (key : String) (i : Int) : Entity :=
  { type := "Bill", properties := .ofFields [(key, .int i)] }

theorem ofShape?_integerRecord (key : String) (i : Int) :
    Entity.ofShape? (integerRecord key i).shape = some (integerBill key i) := rfl

/-- Integers too large for a sign tell bills apart if they are rounded to two multiples of 2048. -/
theorem integerBills_apart :
    deriveIdentity "Bill" none (integerBill "id" 9223372036854775808).properties ≠
        deriveIdentity "Bill" none (integerBill "id" 9223372036854777857).properties ∧
      Identity.of "Bill" none (integerBill "number" 9223372036854775808).properties ≠
        Identity.of "Bill" none (integerBill "number" 9223372036854777857).properties := by
  have hfits : FitsEither 9223372036854775808 ∧ FitsEither 9223372036854777857 :=
    ⟨.inr (by decide), .inr (by decide)⟩
  have hne : (9223372036854775808 : Int) ≠ 9223372036854777857 := by decide
  have happart : ¬ Merged 9223372036854775808 9223372036854777857 := by decide
  have happlied (key : String) := identities_eq_iff_merged
    (ofShape?_integerRecord key 9223372036854775808)
    (ofShape?_integerRecord key 9223372036854777857) rfl (.int _) (.int _) hfits.1 hfits.2 hne none
  constructor
  · exact mt ((happlied "id").1 rfl rfl).mp happart
  · obtain ⟨text, other, hof, hof', htexts⟩ := (happlied "number").2 "number"
      ⟨given?_eq_none_iff.mp (by decide), [], _, rfl, by simp⟩
      ⟨given?_eq_none_iff.mp (by decide), [], _, rfl, by simp⟩ rfl rfl
    intro heq
    exact happart (htexts.mp (Identity.hashed.inj (hof.symm.trans (heq.trans hof'))))

/-- How the entity is identified that the text of a record is read as. -/
def identified? (record : Json) : Option Identity :=
  (Entity.ofText? record.compact).map fun e => Identity.of e.type none e.properties

/-- Two integers that follow each other identify two bills as one, and give them one text to be
hashed. -/
theorem integerBills_shared :
    FitsEither 9223372036854775808 ∧ FitsEither 9223372036854775809 ∧
      identified? (integerRecord "id" 9223372036854775808) =
        some (given "9223372036854776000") ∧
      identified? (integerRecord "id" 9223372036854775809) =
        some (given "9223372036854776000") ∧
      identified? (integerRecord "number" 9223372036854775808) =
        some (hashed "Bill:9223372036854776000") ∧
      identified? (integerRecord "number" 9223372036854775809) =
        some (hashed "Bill:9223372036854776000") :=
  ⟨.inr (by decide), .inr (by decide), by decide +kernel, by decide +kernel, by decide +kernel,
    by decide +kernel⟩

end Identity

end Ontograph
