/-
Ontograph.Proofs.Entity.Document — entities that come back from their texts.

What stands in the text of an entity is read by decoders that were not made for
it: a bag settles its object first, a value takes what JSON it finds, and a
record has defaults. For the values that JSON values stand for they agree. A
time is none of them, and of the integers only those of sixty-four bits are.

Numbers are the one thing that the text may not hold as it is: `KeepsDouble` and
`KeepsSingle` say of a number that it is read back from its text. An entity
comes back if its numbers do (`ofText?_compact`).
-/
import Mathlib.Tactic.Choose
import Ontograph.Entity.Basic
import Ontograph.Proofs.Json.Record

namespace Ontograph

open Json (Returns)

/-! ## Numbers -/

namespace Json

def double? : Json → Option Double
  | .double x => some x
  | _ => none

/-- A double is read back from its text. -/
def KeepsDouble (x : Double) : Prop := (parse (numberText x)).bind double? = some x

/-- A single is read back from its text, which holds the digits of its own width. -/
def KeepsSingle (x : Single) : Prop := (parse (numberText x)).bind single? = some x

instance (x : Double) : Decidable (KeepsDouble x) :=
  inferInstanceAs (Decidable ((parse (numberText x)).bind double? = some x))

instance (x : Single) : Decidable (KeepsSingle x) :=
  inferInstanceAs (Decidable ((parse (numberText x)).bind single? = some x))

/-- What the text of a number is read as is no array and no object. -/
theorem shape_of_parse_numberText {w : Width} {x : Binary w} {k : Json}
    (h : parse (numberText x) = some k) : k.shape = .literal (some k) := by
  unfold numberText at h
  split at h
  · exact shape_numberLiteral ((parse_eq_some_iff (isNumeric_documentText x)).mp h)
  · obtain rfl : Json.null = k := Option.some.inj h
    rfl

/-- What is read back is finite, since nothing else has a text of its own. -/
theorem isFinite_of_parse {w : Width} {x : Binary w} (h : parse (numberText x) ≠ some .null) :
    x.isFinite = true := by
  unfold numberText at h
  split at h
  · assumption
  · exact absurd rfl h

theorem reread?_ofDouble {x : Double} (h : KeepsDouble x) :
    (ofDouble x).reread? = some (.double x) := by
  obtain ⟨k, hk, hx⟩ := Option.bind_eq_some_iff.mp h
  cases k with
  | double y =>
    cases hx
    rw [ofDouble, if_pos (isFinite_of_parse (by rw [hk]; simp)), reread?, hk]
  | _ => cases hx

/-- A single that its text keeps is read as a number that rounds to it. -/
theorem exists_reread?_ofSingle {x : Single} (h : KeepsSingle x) :
    ∃ k, (ofSingle x).reread? = some k ∧ k.shape = .literal (some k) ∧ k.single? = some x := by
  obtain ⟨k, hk, hx⟩ := Option.bind_eq_some_iff.mp h
  have hfinite : x.isFinite = true := by
    refine isFinite_of_parse fun hnull => ?_
    obtain rfl : k = .null := Option.some.inj (hk.symm.trans hnull)
    cases hx
  refine ⟨k, ?_, shape_of_parse_numberText hk, hx⟩
  rw [ofSingle, if_pos hfinite, reread?, hk]

end Json

/-! ## Values -/

namespace PropertyValue

def doubles : PropertyValue → List Double
  | float x => [x]
  | _ => []

def singles : PropertyValue → List Single
  | vector xs => xs
  | _ => []

/-- A value that JSON values stand for. -/
def Decoded (v : PropertyValue) : Prop := ∃ j, ofJson? j = some v

/-- The value in documents is read as one that stands for it, nested at most one level deep. -/
structure ComesBack (v : PropertyValue) (k : Json) : Prop where
  reread : v.toDocument.reread? = some k
  settled : ∀ depth, Json.Shape.settle (depth + 1) k.shape = some k
  decoded : ofJson? k = some v

/-- No JSON value stands for a time, or for an integer beyond sixty-four bits. -/
theorem Decoded.range {v : PropertyValue} (h : Decoded v) :
    (∀ t, v ≠ timestamp t) ∧ ∀ i, v = integer i → Literal.fitsSigned i = true := by
  obtain ⟨j, hj⟩ := h
  cases j with
  | int n =>
    simp only [ofJson?, Option.some.injEq] at hj
    -- an integer beyond the range is taken as a double
    split at hj
    · rename_i hfits
      subst hj
      refine ⟨nofun, fun i hi => ?_⟩
      cases hi
      exact hfits
    · subst hj
      exact ⟨nofun, nofun⟩
  | array items =>
    obtain ⟨xs, -, rfl⟩ := Option.map_eq_some_iff.mp hj
    exact ⟨nofun, nofun⟩
  | _ => cases hj <;> exact ⟨nofun, nofun⟩

theorem exists_comesBack_integer {i : Int} (h : Literal.fitsSigned i = true) :
    ∃ k, ComesBack (integer i) k := by
  have hbounds : -(2 ^ 63 : Int) ≤ i ∧ i < 2 ^ 63 := by
    simpa [Literal.fitsSigned] using h
  refine ⟨.int i, ?_, fun _ => by simp [Json.shape, Json.Shape.settle], ?_⟩
  · exact Json.parse_toString hbounds.1 (by omega)
  · rw [ofJson?, if_pos h]

/-- A vector comes back if its components do. -/
theorem exists_comesBack_vector {xs : List Single} (h : ∀ x ∈ xs, Json.KeepsSingle x) :
    ∃ k, ComesBack (vector xs) k := by
  choose! read hread hshape hsingle using fun x hx => Json.exists_reread?_ofSingle (h x hx)
  refine ⟨.array (xs.map read), ?_, fun depth => ?_, ?_⟩
  · exact Json.reread?_array (Json.rereadItems?_map hread)
  · refine Json.settle_array fun k hk => ?_
    obtain ⟨x, hx, rfl⟩ := List.mem_map.mp hk
    rw [hshape x hx, Json.Shape.settle]
  · rw [ofJson?, Json.mapM_map_eq_some hsingle]
    rfl

/-- Every value that JSON values stand for comes back, if its numbers do. -/
theorem exists_comesBack {v : PropertyValue} (h : Decoded v)
    (hdoubles : ∀ x ∈ v.doubles, Json.KeepsDouble x)
    (hsingles : ∀ x ∈ v.singles, Json.KeepsSingle x) : ∃ k, ComesBack v k := by
  cases v with
  | boolean b => exact ⟨.bool b, rfl, fun _ => by simp [Json.shape, Json.Shape.settle], rfl⟩
  | integer i => exact exists_comesBack_integer (h.range.2 i rfl)
  | float x =>
    exact ⟨.double x, Json.reread?_ofDouble (hdoubles x List.mem_cons_self),
      fun _ => by simp [Json.shape, Json.Shape.settle], rfl⟩
  | timestamp t => exact absurd rfl (h.range.1 t)
  | string s => exact ⟨.string s, rfl, fun _ => by simp, rfl⟩
  | vector xs => exact exists_comesBack_vector hsingles

end PropertyValue

/-! ## Bags -/

namespace Properties

def doubles (p : Properties) : List Double := p.entries.flatMap (·.2.doubles)

def singles (p : Properties) : List Single := p.entries.flatMap (·.2.singles)

/-- A bag of values that JSON values stand for. -/
def Decoded (p : Properties) : Prop := ∀ e ∈ p.entries, e.2.Decoded

theorem insertSorted_of_lt {key : String} {value : PropertyValue}
    {entries : List (String × PropertyValue)} (h : ∀ e ∈ entries, e.1 < key) :
    insertSorted key value entries = entries ++ [(key, value)] := by
  induction entries with
  | nil => rfl
  | cons e rest ih =>
    obtain ⟨k, v⟩ := e
    rw [List.forall_mem_cons] at h
    have hlt : k < key := h.1
    have hgt : ¬ key < k := fun hgt => String.lt_irrefl k (String.lt_trans hlt hgt)
    have hne : key ≠ k := fun heq => String.lt_irrefl k (heq ▸ hlt)
    rw [insertSorted, if_neg hgt, if_neg hne, ih h.2, List.cons_append]

/-- Entries whose keys ascend behind those of a bag come to stand behind them. -/
theorem entries_foldl_insert {entries : List (String × PropertyValue)} {p : Properties}
    (h : (p.entries ++ entries).Pairwise (fun a b => a.1 < b.1)) :
    (entries.foldl (fun p e => p.insert e.1 e.2) p).entries = p.entries ++ entries := by
  induction entries generalizing p with
  | nil => exact (List.append_nil _).symm
  | cons e rest ih =>
    have hlast : (p.insert e.1 e.2).entries = p.entries ++ [e] :=
      insertSorted_of_lt fun a ha => (List.pairwise_append.mp h).2.2 a ha e List.mem_cons_self
    rw [List.foldl_cons, ih (by rwa [hlast, List.append_assoc]), hlast, List.append_assoc]
    rfl

/-- A bag is the bag of its entries. -/
theorem ofList_entries (p : Properties) : ofList p.entries = p := by
  have hentries : (ofList p.entries).entries = p.entries :=
    entries_foldl_insert (by simpa [empty] using p.sorted)
  cases hp : ofList p.entries
  rw [hp] at hentries
  cases p
  cases hentries
  rfl

/-- No key of a bag is repeated. -/
theorem keys_nodup (p : Properties) : (p.entries.map Prod.fst).Nodup := by
  refine List.pairwise_map.mpr (p.sorted.imp ?_)
  intro a b hlt heq
  exact String.lt_irrefl b.1 (heq ▸ hlt)

/-- A bag comes back if its values do. -/
theorem exists_returns {p : Properties} (h : p.Decoded)
    (hdoubles : ∀ x ∈ p.doubles, Json.KeepsDouble x)
    (hsingles : ∀ x ∈ p.singles, Json.KeepsSingle x) :
    ∃ k, ∀ depth, Returns (ofShape? (depth + 2)) p.toDocument k p := by
  have hvalues : ∀ e ∈ p.entries, ∃ k, e.2.ComesBack k := fun e he =>
    PropertyValue.exists_comesBack (h e he)
      (fun x hx => hdoubles x (List.mem_flatMap.mpr ⟨e, he, hx⟩))
      (fun x hx => hsingles x (List.mem_flatMap.mpr ⟨e, he, hx⟩))
  choose! read hread using hvalues
  refine ⟨.object (p.entries.map fun e => (e.1, read e)), fun depth => ⟨?_, ?_⟩⟩
  · exact Json.reread?_object (Json.rereadFields?_map fun e he => (hread e he).reread)
  · have hkeys : (Fields.keys (p.entries.map fun e => (e.1, read e))).Nodup := by
      rw [Fields.keys, List.map_map]
      exact p.keys_nodup
    have hsettle : Json.Shape.settle (depth + 2)
        (Json.object (p.entries.map fun e => (e.1, read e))).shape =
          some (.object (p.entries.map fun e => (e.1, read e))) := by
      refine Json.settle_object hkeys fun e he => ?_
      obtain ⟨entry, hentry, rfl⟩ := List.mem_map.mp he
      exact (hread entry hentry).settled depth
    have hfields : ofFields (p.entries.map fun e => (e.1, read e)) = p := by
      have hentries : p.entries.filterMap
          (fun e => (PropertyValue.ofJson? (read e)).map (e.1, ·)) = p.entries :=
        (List.filterMap_congr fun e he => congrArg (Option.map (e.1, ·)) (hread e he).decoded).trans
          List.filterMap_some
      rw [ofFields, List.filterMap_map]
      exact (congrArg ofList hentries).trans p.ofList_entries
    unfold ofShape?
    rw [hsettle]
    exact congrArg some hfields

/-- What is decoded into a bag are values that JSON values stand for. -/
theorem decoded_ofFields (fields : Fields) : (ofFields fields).Decoded := by
  have hmem (entries : List (String × PropertyValue)) (p : Properties)
      (hp : p.Decoded) (h : ∀ e ∈ entries, e.2.Decoded) :
      (entries.foldl (fun p e => p.insert e.1 e.2) p).Decoded := by
    induction entries generalizing p with
    | nil => exact hp
    | cons e rest ih =>
      rw [List.forall_mem_cons] at h
      refine ih (p.insert e.1 e.2) (fun a ha => ?_) h.2
      rcases keys_insertSorted ha with rfl | ha
      · exact h.1
      · exact hp a ha
  refine hmem _ empty (fun e he => absurd he List.not_mem_nil) fun e he => ?_
  obtain ⟨field, -, hfield⟩ := List.mem_filterMap.mp he
  obtain ⟨v, hv, rfl⟩ := Option.map_eq_some_iff.mp hfield
  exact ⟨field.2, hv⟩

theorem decoded_empty : empty.Decoded := fun _ he => absurd he List.not_mem_nil

/-- What is read from a document is made of values that JSON values stand for. -/
theorem decoded_of_ofShape? {depth : Nat} {j : Json.Shape} {p : Properties}
    (h : ofShape? depth j = some p) : p.Decoded := by
  unfold ofShape? at h
  split at h
  · cases h
    exact decoded_empty
  · cases h
    exact decoded_ofFields _
  · cases h

end Properties

/-! ## Relationships -/

namespace RelationshipRef

/-- A reference whose properties are values that JSON values stand for. -/
theorem decoded_of_ofShape? {depth : Nat} {j : Json.Shape} {r : RelationshipRef}
    (h : ofShape? depth j = some r) : r.properties.Decoded := by
  simp only [ofShape?, Option.bind_eq_bind, Option.bind_eq_some_iff, Option.pure_def] at h
  obtain ⟨fields, -, _, -, _, -, _, -, p, hp, hr⟩ := h
  cases hr
  unfold Json.defaulted at hp
  split at hp
  · cases hp
    exact Properties.decoded_empty
  · exact Properties.decoded_of_ofShape? hp

theorem exists_returns {r : RelationshipRef} (h : r.properties.Decoded)
    (hdoubles : ∀ x ∈ r.properties.doubles, Json.KeepsDouble x)
    (hsingles : ∀ x ∈ r.properties.singles, Json.KeepsSingle x) :
    ∃ k, ∀ depth, Returns (ofShape? (depth + 2)) r.toJson k r := by
  obtain ⟨p, hp⟩ := Properties.exists_returns h hdoubles hsingles
  refine ⟨.object [("target_type", .string r.targetType), ("target_id", .string r.targetId),
    ("relationship_type", .string r.kind), ("properties", p)], fun depth => ⟨?_, ?_⟩⟩
  · exact Json.reread?_object (by simp [Json.rereadFields?, (hp depth).reread])
  · unfold ofShape?
    rw [Json.record?_shape]
    · simp [Json.shapes, (hp depth).decoded]
    · exact List.Sublist.refl _
    · decide

end RelationshipRef

/-! ## Entities -/

namespace Entity

def doubles (e : Entity) : List Double :=
  e.properties.doubles ++ e.relationships.flatMap (·.properties.doubles)

/-- The singles in an entity, apart from its confidence and its embedding. -/
def singles (e : Entity) : List Single :=
  e.properties.singles ++ e.relationships.flatMap (·.properties.singles)

/-- An entity that its text can hold: values that JSON values stand for, an annotation without
numbers and no embedding. -/
structure Textual (e : Entity) : Prop where
  properties : e.properties.Decoded
  relationships : ∀ r ∈ e.relationships, r.properties.Decoded
  annotation : Json.Plain (Json.depthLimit - 1) e.annotation
  embedding : e.embedding = none

/-- An entity comes back from its text if its numbers come back from theirs. -/
theorem ofText?_compact {e : Entity} (h : e.Textual)
    (hdoubles : ∀ x ∈ e.doubles, Json.KeepsDouble x)
    (hsingles : ∀ x ∈ e.singles, Json.KeepsSingle x) (hconfidence : Json.KeepsSingle e.confidence) :
    ofText? e.toJson.compact = some e := by
  obtain ⟨p, hp⟩ := Properties.exists_returns h.properties
    (fun x hx => hdoubles x (List.mem_append_left _ hx))
    (fun x hx => hsingles x (List.mem_append_left _ hx))
  have hrefs : ∀ r ∈ e.relationships, ∃ k, ∀ depth,
      Returns (RelationshipRef.ofShape? (depth + 2)) r.toJson k r := fun r hr =>
    RelationshipRef.exists_returns (h.relationships r hr)
      (fun x hx => hdoubles x (List.mem_append_right _ (List.mem_flatMap.mpr ⟨r, hr, hx⟩)))
      (fun x hx => hsingles x (List.mem_append_right _ (List.mem_flatMap.mpr ⟨r, hr, hx⟩)))
  choose! read hread using hrefs
  obtain ⟨c, hc, hcshape, hcsingle⟩ := Json.exists_reread?_ofSingle hconfidence
  have hconfidence' : c.shape.single? = some e.confidence := by
    rw [hcshape]
    exact hcsingle
  have hproperties : Returns (Properties.ofShape? (Json.depthLimit - 1)) e.properties.toDocument p
      e.properties := hp 124
  have hrelationships : Returns
      (Json.listOf (RelationshipRef.ofShape? (Json.depthLimit - 1 - 2)))
      (.array (e.relationships.map RelationshipRef.toJson)) (.array (e.relationships.map read))
      e.relationships := Json.returns_listOf fun r hr => hread r hr 122
  have hreturns : Returns ofShape? e.toJson (.object [("entity_type", .string e.type),
      ("properties", p), ("relationships", .array (e.relationships.map read)), ("confidence", c),
      ("source_span", .string e.sourceSpan), ("domain", .string e.domain),
      ("jsonld_schema", e.annotation)]) e := by
    constructor
    · refine Json.reread?_object ?_
      simp [Json.rereadFields?, h.embedding, hproperties.reread, hrelationships.reread, hc,
        h.annotation.reread]
    · unfold ofShape?
      rw [Json.record?_shape]
      · simp [Json.shapes, hproperties.decoded, hrelationships.decoded, hconfidence',
          h.annotation.decoded, ← h.embedding]
      · exact List.sublist_append_left _ ["embedding"]
      · decide
  exact hreturns.of_compact

end Entity
end Ontograph
