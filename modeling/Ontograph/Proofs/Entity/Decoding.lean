/-
Ontograph.Proofs.Entity.Decoding — what of a JSON object gets into a bag.

A truth value, a number, a text or an array of numbers does, and nothing else:
no null, no object, and no array with anything in it that is no number. The kinds
are tried one after another, so that the question is whether one takes a value
that is meant for another. None does (`Survives`). What is kept is written as it
was, up to integers that need more than sixty-four bits with a sign, which become
doubles, and arrays, whose numbers become singles. A text stays a text, also
where it looks like a number or a time.

A bag is sorted, so that the order of the object's entries is nothing to it
(`ofFields_perm`). Of the object itself only this is asked, that its numbers are
finite and its keys distinct, as they are in every document (`survives_of_parse`).
-/
import Ontograph.Proofs.Entity.Document
import Ontograph.Proofs.Entity.NumericIdentity
import Ontograph.Proofs.Json.Held

namespace Ontograph

/-! ## Values by key -/

/-- With distinct keys, what is found under a key is what stands there. -/
theorem value_eq_some_iff {α : Type} {entries : List (String × α)}
    (h : (entries.map Prod.fst).Nodup) {key : String} {value : α} :
    (entries.find? (·.1 = key)).map Prod.snd = some value ↔ (key, value) ∈ entries := by
  induction entries with
  | nil => simp
  | cons e rest ih =>
    obtain ⟨k, v⟩ := e
    obtain ⟨hnot, hrest⟩ := List.nodup_cons.mp h
    rw [List.find?_cons]
    by_cases hk : k = key
    · subst hk
      have hother : (k, value) ∉ rest := fun hmem => hnot (List.mem_map.mpr ⟨_, hmem, rfl⟩)
      simp [hother, eq_comm]
    · simp [hk, ih hrest, Ne.symm hk]

/-- With distinct keys, what is found under a key is what stands there. -/
theorem Fields.get?_eq_some_iff {fields : Fields} (h : (keys fields).Nodup) {key : String}
    {value : Json} : get? key fields = some value ↔ (key, value) ∈ fields :=
  value_eq_some_iff h

/-- The order of an object's entries is nothing to what stands under its keys. -/
theorem Fields.get?_perm {fields other : Fields} (h : (keys fields).Nodup)
    (hperm : other.Perm fields) (key : String) : get? key other = get? key fields := by
  have hother : (keys other).Nodup := (hperm.map Prod.fst).nodup_iff.mpr h
  refine Option.ext fun value => ?_
  rw [get?_eq_some_iff h, get?_eq_some_iff hother, hperm.mem_iff]

/-- Bags with the same values under all keys are the same. -/
theorem Properties.ext_get? {p q : Properties} (h : ∀ key, p.get? key = q.get? key) : p = q := by
  have hmem : ∀ e, e ∈ p.entries ↔ e ∈ q.entries := by
    rintro ⟨key, value⟩
    rw [← value_eq_some_iff p.keys_nodup, ← value_eq_some_iff q.keys_nodup]
    exact iff_of_eq (congrArg (· = some value) (h key))
  have hperm : p.entries.Perm q.entries :=
    (List.perm_ext_iff_of_nodup (List.Nodup.of_map _ p.keys_nodup)
      (List.Nodup.of_map _ q.keys_nodup)).mpr hmem
  have hentries : p.entries = q.entries :=
    hperm.eq_of_pairwise (fun a b _ _ hab hba => absurd hba (String.lt_asymm hab)) p.sorted q.sorted
  cases p
  cases q
  cases hentries
  rfl

/-! ## Kinds of values -/

namespace Json

/-- A number. -/
inductive IsNumber : Json → Prop where
  | int (i : Int) : IsNumber (.int i)
  | double (x : Double) : IsNumber (.double x)

/-- A value that a property can have: a truth value, a number, a text or an array of numbers. -/
inductive Storable : Json → Prop where
  | bool (b : Bool) : Storable (.bool b)
  | number {j : Json} (h : IsNumber j) : Storable j
  | string (s : String) : Storable (.string s)
  | array {items : List Json} (h : ∀ item ∈ items, IsNumber item) : Storable (.array items)

/-- A value that a property holds as it is. -/
inductive Exact : Json → Prop where
  | bool (b : Bool) : Exact (.bool b)
  | int {i : Int} (low : -2 ^ 63 ≤ i) (high : i < 2 ^ 63) : Exact (.int i)
  | double (x : Double) : Exact (.double x)
  | string (s : String) : Exact (.string s)

theorem storable_array_iff {items : List Json} :
    Storable (.array items) ↔ ∀ item ∈ items, IsNumber item := by
  refine ⟨fun h => ?_, .array⟩
  cases h with
  | number h => cases h
  | array h => exact h

theorem isSome_single?_iff {j : Json} (h : Held j) : j.single?.isSome = true ↔ IsNumber j := by
  cases h with
  | int i => exact iff_of_true rfl (.int i)
  | @double x finite => exact iff_of_true (by rw [single?, if_pos finite]; rfl) (.double x)
  | _ => exact iff_of_false (by simp [single?]) nofun

end Json

/-! ## Decoding -/

theorem isSome_mapM_iff {α β : Type} {f : α → Option β} {as : List α} :
    (as.mapM f).isSome = true ↔ ∀ a ∈ as, (f a).isSome = true := by
  induction as with
  | nil => simp
  | cons a as ih =>
    rw [List.forall_mem_cons, ← ih, List.mapM_cons]
    cases f a <;> cases as.mapM f <;> simp

theorem length_of_mapM {α β : Type} {f : α → Option β} {as : List α} {bs : List β}
    (h : as.mapM f = some bs) : bs.length = as.length := by
  induction as generalizing bs with
  | nil =>
    cases h
    rfl
  | cons a as ih =>
    simp only [List.mapM_cons, Option.bind_eq_bind, Option.bind_eq_some_iff, Option.pure_def] at h
    obtain ⟨b, -, rest, hrest, hbs⟩ := h
    cases hbs
    rw [List.length_cons, List.length_cons, ih hrest]

namespace PropertyValue

open Json (Held Storable Exact IsNumber)

/-- Of what a document holds, just what is storable is decoded. -/
theorem isSome_ofJson?_iff {j : Json} (h : Held j) : (ofJson? j).isSome = true ↔ Storable j := by
  cases h with
  | null =>
    refine iff_of_false (by simp [ofJson?]) fun hstorable => ?_
    cases hstorable with
    | number h => cases h
  | bool b => exact iff_of_true rfl (.bool b)
  | int i => exact iff_of_true rfl (.number (.int i))
  | @double x finite => exact iff_of_true rfl (.number (.double x))
  | string s => exact iff_of_true rfl (.string s)
  | @array items hitems =>
    have hnumbers : (∀ item ∈ items, item.single?.isSome = true) ↔ ∀ item ∈ items, IsNumber item :=
      forall₂_congr fun item hitem => Json.isSome_single?_iff (hitems item hitem)
    rw [ofJson?, Option.isSome_map, isSome_mapM_iff, hnumbers, Json.storable_array_iff]
  | object =>
    refine iff_of_false (by simp [ofJson?]) fun hstorable => ?_
    cases hstorable with
    | number h => cases h

/-- What is exact is written as it was. -/
theorem exists_toJson_eq {j : Json} (h : Held j) (hexact : Exact j) :
    ∃ v, ofJson? j = some v ∧ v.toJson = j := by
  cases hexact with
  | bool b => exact ⟨boolean b, rfl, rfl⟩
  | @int i low high =>
    have hfits : Literal.fitsSigned i = true := by
      simp only [Literal.fitsSigned, Bool.and_eq_true, decide_eq_true_eq]
      exact ⟨low, high⟩
    exact ⟨integer i, by rw [ofJson?, if_pos hfits], rfl⟩
  | double x => exact ⟨float x, rfl, if_pos h.isFinite⟩
  | string s => exact ⟨string s, rfl, rfl⟩

/-- An array of numbers is written with as many. -/
theorem exists_toJson_array {items : List Json} (h : Held (.array items))
    (hnumbers : ∀ item ∈ items, IsNumber item) :
    ∃ v written, ofJson? (.array items) = some v ∧ v.toJson = .array written ∧
      written.length = items.length := by
  obtain ⟨v, hv⟩ := Option.isSome_iff_exists.mp ((isSome_ofJson?_iff h).mpr (.array hnumbers))
  obtain ⟨xs, hxs, rfl⟩ := Option.map_eq_some_iff.mp hv
  refine ⟨_, _, hv, rfl, ?_⟩
  rw [List.length_map, length_of_mapM hxs]

end PropertyValue

/-! ## Bags -/

namespace Properties

open Json (Held Storable Exact IsNumber)

/-- The order of an object's entries is nothing to the bag that is decoded from it. -/
theorem ofFields_perm {fields other : Fields} (h : (Fields.keys fields).Nodup)
    (hperm : other.Perm fields) : ofFields other = ofFields fields := by
  have hother : (Fields.keys other).Nodup := (hperm.map Prod.fst).nodup_iff.mpr h
  refine ext_get? fun key => ?_
  rw [get?_ofFields h, get?_ofFields hother, Fields.get?_perm h hperm]

/-- A bag has kept of an object what is storable, each value under its key and the exact ones as
they were; an array has kept its length, and nothing has become a time. -/
structure Survives (fields : Fields) (p : Properties) : Prop where
  kept : ∀ key, (p.get? key).isSome = true ↔ ∃ value, (key, value) ∈ fields ∧ Storable value
  exact : ∀ key value, (key, value) ∈ fields → Exact value →
    (p.get? key).map PropertyValue.toJson = some value
  arrays : ∀ key items, (key, .array items) ∈ fields → (∀ item ∈ items, IsNumber item) →
    ∃ written, (p.get? key).map PropertyValue.toJson = some (.array written) ∧
      written.length = items.length
  timeless : ∀ key t, p.get? key ≠ some (.timestamp t)

/-- Decoding keeps what can be stored and nothing else. -/
theorem survives_ofFields {fields : Fields} (h : Held (.object fields)) :
    Survives fields (ofFields fields) := by
  have distinct := h.keys_nodup
  have hheld := h.of_mem
  have hget {key : String} {value : Json} (hmem : (key, value) ∈ fields) :
      (ofFields fields).get? key = PropertyValue.ofJson? value := by
    rw [get?_ofFields distinct, (Fields.get?_eq_some_iff distinct).mpr hmem, Option.bind_some]
  constructor
  · intro key
    constructor
    · intro hsome
      rw [get?_ofFields distinct] at hsome
      obtain ⟨v, hv⟩ := Option.isSome_iff_exists.mp hsome
      obtain ⟨value, hvalue, hdecoded⟩ := Option.bind_eq_some_iff.mp hv
      have hmem := (Fields.get?_eq_some_iff distinct).mp hvalue
      refine ⟨value, hmem, (PropertyValue.isSome_ofJson?_iff (hheld _ hmem)).mp ?_⟩
      rw [hdecoded, Option.isSome_some]
    · rintro ⟨value, hmem, hstorable⟩
      rw [hget hmem]
      exact (PropertyValue.isSome_ofJson?_iff (hheld _ hmem)).mpr hstorable
  · intro key value hmem hexact
    obtain ⟨v, hv, hwritten⟩ := PropertyValue.exists_toJson_eq (hheld _ hmem) hexact
    rw [hget hmem, hv, Option.map_some, hwritten]
  · intro key items hmem hnumbers
    obtain ⟨v, written, hv, hwritten, hlength⟩ :=
      PropertyValue.exists_toJson_array (hheld _ hmem) hnumbers
    exact ⟨written, by rw [hget hmem, hv, Option.map_some, hwritten], hlength⟩
  · intro key t htime
    rw [get?_ofFields distinct] at htime
    obtain ⟨value, -, hdecoded⟩ := Option.bind_eq_some_iff.mp htime
    exact PropertyValue.Decoded.range ⟨value, hdecoded⟩ |>.1 t rfl

/-- So it is with every object that is read from a text. -/
theorem survives_of_parse {s : String} {fields : Fields}
    (h : Json.parse s = some (.object fields)) : Survives fields (ofFields fields) :=
  survives_ofFields (Json.held_of_parse h)

/-- **Bags survive decoding.** Of every object a bag keeps just what is storable, and that as it
was; and the order of the object's entries is nothing to it. -/
theorem ofFields_survives {fields : Fields} (h : Held (.object fields)) :
    Survives fields (ofFields fields) ∧
      ∀ other, other.Perm fields → ofFields other = ofFields fields :=
  ⟨survives_ofFields h, fun _ => ofFields_perm h.keys_nodup⟩

/-- An object with texts that look like other values, and with arrays and values that no property
can have. -/
def mixed : Fields :=
  [("title", .string "true"), ("date", .string "2023-01-09T00:00:00Z"), ("active", .bool false),
    ("congress", .int (-2 ^ 63)), ("score", .double ⟨false, 1022 * 2 ^ 52⟩), ("tags", .array []),
    ("embedding", .array [.int (2 ^ 64 - 1), .double .zero]), ("votes", .array [.int 1, .null]),
    ("sponsor", .null), ("meta", .object [])]

theorem mixed_survives :
    Held (.object mixed) ∧ ofFields mixed.reverse = ofFields mixed ∧
      ((ofFields mixed).get? "date").map PropertyValue.toJson =
        some (.string "2023-01-09T00:00:00Z") ∧
      ((ofFields mixed).get? "congress").map PropertyValue.toJson = some (.int (-2 ^ 63)) ∧
      (∃ written, ((ofFields mixed).get? "embedding").map PropertyValue.toJson =
        some (.array written) ∧ written.length = 2) ∧
      ((ofFields mixed).get? "tags").isSome = true ∧
      ((ofFields mixed).get? "votes").isSome = false := by
  have hheld : Held (.object mixed) := by
    have hvector : Held (.array [.int (2 ^ 64 - 1), .double .zero]) :=
      .array (by simp [Held.int, Held.double (show Binary.isFinite .zero = true by decide)])
    refine .object (by decide) ?_
    simp only [mixed, List.forall_mem_cons, List.not_mem_nil, false_imp_iff, implies_true, and_true]
    exact ⟨.string _, .string _, .bool _, .int _, .double (by decide), .array (by simp), hvector,
      .array (by simp [Held.int, Held.null]), .null, .object (by decide) (by simp)⟩
  obtain ⟨hsurvives, hperm⟩ := ofFields_survives hheld
  refine ⟨hheld, hperm _ (List.reverse_perm mixed), ?_, ?_, ?_, ?_, ?_⟩
  · exact hsurvives.exact "date" _ (by simp [mixed]) (.string _)
  · exact hsurvives.exact "congress" _ (by simp [mixed]) (.int (by decide) (by decide))
  · exact hsurvives.arrays "embedding" [.int (2 ^ 64 - 1), .double .zero] (by simp [mixed])
      (by simp [IsNumber.int, IsNumber.double])
  · exact (hsurvives.kept "tags").mpr ⟨.array [], by simp [mixed], .array (by simp)⟩
  · rw [Bool.eq_false_iff, ne_eq, hsurvives.kept]
    rintro ⟨value, hmem, hstorable⟩
    obtain rfl : value = .array [.int 1, .null] := by simpa [mixed] using hmem
    cases hstorable with
    | number h => cases h
    | array h => cases h .null (by simp)

end Properties

end Ontograph
