/-
Ontograph.Proofs.Json.Record — decoding what was written.

A value with distinct keys that is not nested too deeply is what its shape
settles to, one lemma for arrays and one for objects. An object whose keys are
among a record's names is the record of its entries (`record?_shape`), and
then each field is found by its name.

`Returns` ties the two ways together: the text of one value is read as another,
and that decodes to what was written. For values without numbers the two are
the same.
-/
import Ontograph.Json.Record
import Ontograph.Proofs.Json.Compact
import Ontograph.Proofs.Registry

namespace Ontograph

theorem Fields.ofList_of_nodup {fields : Fields} (h : (Fields.keys fields).Nodup) :
    Fields.ofList fields = fields :=
  foldl_place h

/-- Writing entries one after another leaves each key once. -/
theorem Fields.nodup_keys_ofList (entries : Fields) : (keys (ofList entries)).Nodup := by
  induction entries using List.reverseRecOn with
  | nil => exact .nil
  | append_singleton entries e ih =>
    rw [ofList, List.foldl_append]
    exact nodup_place ih

/-- The entries of an object are among those that were written to it. -/
theorem Fields.ofList_subset (entries : Fields) : ofList entries ⊆ entries := by
  induction entries using List.reverseRecOn with
  | nil => exact List.Subset.refl []
  | append_singleton entries e ih =>
    rw [ofList, List.foldl_append]
    refine List.Subset.trans (place_subset e (ofList entries))
      (List.cons_subset.mpr ⟨by simp, ?_⟩)
    exact List.Subset.trans ih (List.subset_append_left entries [e])

theorem Fields.get?_eq_none {fields : Fields} {key : String} (h : key ∉ keys fields) :
    get? key fields = none := by
  have hnone : findNamed? key fields = none := by
    refine List.find?_eq_none.mpr fun e he hname => h ?_
    rw [decide_eq_true_eq] at hname
    exact hname ▸ List.mem_map_of_mem he
  rw [get?, hnone]
  rfl

theorem Fields.get?_cons (key other : String) (value : Json) (fields : Fields) :
    get? other ((key, value) :: fields) =
      if key = other then some value else get? other fields := by
  unfold get? findNamed?
  rw [List.find?_cons]
  by_cases h : key = other <;> simp [h, Named.name]

namespace Json

/-- Decoding what was encoded item by item gives something for the whole list as soon as it does for
every item. -/
theorem mapM_map_eq_map {α β γ : Type} {as : List α} {encode : α → β} {decode : β → Option γ}
    {f : α → γ} (h : ∀ a ∈ as, decode (encode a) = some (f a)) :
    (as.map encode).mapM decode = some (as.map f) := by
  induction as with
  | nil => rfl
  | cons a as ih =>
    rw [List.forall_mem_cons] at h
    simp only [List.map_cons, List.mapM_cons, h.1, ih h.2, Option.bind_eq_bind, Option.bind_some,
      Option.pure_def]

/-- Decoding undoes encoding on a list as soon as it does on every item. -/
theorem mapM_map_eq_some {α β : Type} {as : List α} {encode : α → β} {decode : β → Option α}
    (h : ∀ a ∈ as, decode (encode a) = some a) : (as.map encode).mapM decode = some as := by
  rw [mapM_map_eq_map h, List.map_id']

theorem shapeItems_eq_map (items : List Json) : shapeItems items = items.map shape := by
  induction items with
  | nil => rfl
  | cons item items ih => rw [shapeItems, ih, List.map_cons]

/-! ## Settling -/

/-- Items settle to themselves if each of them does. -/
theorem settleItems_shapeItems {depth : Nat} {items : List Json}
    (h : ∀ item ∈ items, Shape.settle depth item.shape = some item) :
    Shape.settleItems depth (shapeItems items) = some items := by
  induction items with
  | nil => rfl
  | cons item items ih =>
    rw [List.forall_mem_cons] at h
    simp [shapeItems, Shape.settleItems, h.1, ih h.2]

/-- An array is settled one level above its items. -/
theorem settle_array {depth : Nat} {items : List Json}
    (h : ∀ item ∈ items, Shape.settle depth item.shape = some item) :
    Shape.settle (depth + 1) (shape (.array items)) = some (.array items) := by
  simp [shape, Shape.settle, settleItems_shapeItems h]

theorem settleFields_shapeFields {depth : Nat} {fields : Fields}
    (h : ∀ e ∈ fields, Shape.settle depth e.2.shape = some e.2) :
    Shape.settleFields depth (shapeFields fields) = some fields := by
  induction fields with
  | nil => rfl
  | cons field fields ih =>
    obtain ⟨key, value⟩ := field
    rw [List.forall_mem_cons] at h
    simp [shapeFields, Shape.settleFields, h.1, ih h.2]

/-- An object is settled one level above the values of its entries, if no key is repeated. -/
theorem settle_object {depth : Nat} {fields : Fields} (hkeys : (Fields.keys fields).Nodup)
    (h : ∀ e ∈ fields, Shape.settle depth e.2.shape = some e.2) :
    Shape.settle (depth + 1) (shape (.object fields)) = some (.object fields) := by
  simp [shape, Shape.settle, settleFields_shapeFields h, Json.ofEntries,
    Fields.ofList_of_nodup hkeys]

/-- An object settles to an object in which no key is repeated. -/
theorem exists_nodup_of_settle {depth : Nat} {entries : List (Option String × Shape)}
    {value : Json} (h : Shape.settle depth (.object entries) = some value) :
    ∃ fields, value = .object fields ∧ (Fields.keys fields).Nodup := by
  cases depth with
  | zero => simp [Shape.settle] at h
  | succ depth =>
    rw [Shape.settle, Option.map_eq_some_iff] at h
    obtain ⟨settled, -, rfl⟩ := h
    exact ⟨Fields.ofList settled, rfl, Fields.nodup_keys_ofList settled⟩

@[simp]
theorem settle_string (depth : Nat) (s : String) :
    Shape.settle depth (shape (.string s)) = some (.string s) := by
  simp [shape, Shape.settle]

/-! ## Records -/

@[simp]
theorem string?_shape (s : String) : (shape (.string s)).string? = some s := rfl

@[simp]
theorem bool?_shape (b : Bool) : (shape (.bool b)).bool? = some b := rfl

def shapes (fields : Fields) : List (String × Shape) := fields.map fun e => (e.1, e.2.shape)

theorem entries?_shape (fields : Fields) :
    (shape (.object fields)).entries? = some (shapes fields) := by
  have hfields : (shapeFields fields).mapM (fun e => e.1.map (·, e.2)) = some (shapes fields) := by
    induction fields with
    | nil => rfl
    | cons field fields ih =>
      obtain ⟨key, value⟩ := field
      simp [shapeFields, shapes, ih]
  simpa [shape, Shape.entries?] using hfields

/-- An object whose keys are some of a record's names, in their order, is the record. -/
theorem record?_shape {names : List String} {fields : Fields}
    (hkeys : (Fields.keys fields).Sublist names) (hnames : names.Nodup) :
    (shape (.object fields)).record? names = some (shapes fields) := by
  have hshapes : (shapes fields).map Prod.fst = Fields.keys fields := by
    simp [shapes, Fields.keys]
  have hknown : (shapes fields).filter (fun e => names.contains e.1) = shapes fields := by
    refine List.filter_eq_self.mpr fun e he => ?_
    have hmem : e.1 ∈ Fields.keys fields := hshapes ▸ List.mem_map_of_mem he
    exact List.contains_iff_mem.mpr (hkeys.subset hmem)
  have hnodup : ((shapes fields).map Prod.fst).Nodup := hshapes ▸ hnames.sublist hkeys
  have hentries := entries?_shape fields
  rw [shape] at hentries ⊢
  simp only [Shape.record?, hentries, Option.bind_eq_bind, Option.bind_some, hknown, if_pos hnodup]

section
variable {α : Type}

@[simp]
theorem required_cons (key name : String) (value : Shape) (rest : List (String × Shape))
    (decode : Shape → Option α) :
    required ((key, value) :: rest) name decode =
      if key = name then decode value else required rest name decode := by
  simp only [required, findNamed?, List.find?_cons]
  by_cases h : key = name <;> simp [h, Named.name]

@[simp]
theorem defaulted_nil (name : String) (absent : α) (decode : Shape → Option α) :
    defaulted [] name absent decode = some absent := rfl

@[simp]
theorem defaulted_cons (key name : String) (value : Shape) (rest : List (String × Shape))
    (absent : α) (decode : Shape → Option α) :
    defaulted ((key, value) :: rest) name absent decode =
      if key = name then decode value else defaulted rest name absent decode := by
  simp only [defaulted, findNamed?, List.find?_cons]
  by_cases h : key = name <;> simp [h, Named.name]

/-! ## There and back -/

@[simp]
theorem reread?_string (s : String) : (Json.string s).reread? = some (.string s) := rfl

@[simp]
theorem reread?_bool (b : Bool) : (Json.bool b).reread? = some (.bool b) := rfl

@[simp]
theorem reread?_null : Json.null.reread? = some .null := rfl

/-- An object is read as its entries are. -/
theorem reread?_object {fields ks : Fields} (h : rereadFields? fields = some ks) :
    (Json.object fields).reread? = some (.object ks) := by
  rw [reread?, h]
  rfl

/-- An array is read as its items are. -/
theorem reread?_array {items ks : List Json} (h : rereadItems? items = some ks) :
    (Json.array items).reread? = some (.array ks) := by
  rw [reread?, h]
  rfl

/-- The text of a value is read as another, which decodes to something. -/
structure Returns (decode : Shape → Option α) (written read : Json) (a : α) : Prop where
  reread : written.reread? = some read
  decoded : decode read.shape = some a

/-- What returns is decoded from its compact text. -/
theorem Returns.of_compact {decode : Shape → Option α} {written k : Json} {a : α}
    (h : Returns decode written k a) : (read written.compact).bind decode = some a := by
  rw [read_compact h.reread]
  exact h.decoded

/-- Items are read as others if each of them is. -/
theorem rereadItems?_map {as : List α} {f g : α → Json}
    (h : ∀ a ∈ as, (f a).reread? = some (g a)) : rereadItems? (as.map f) = some (as.map g) := by
  induction as with
  | nil => rfl
  | cons a as ih =>
    rw [List.forall_mem_cons] at h
    simp [rereadItems?, h.1, ih h.2]

theorem rereadFields?_map {as : List α} {key : α → String} {f g : α → Json}
    (h : ∀ a ∈ as, (f a).reread? = some (g a)) :
    rereadFields? (as.map fun a => (key a, f a)) = some (as.map fun a => (key a, g a)) := by
  induction as with
  | nil => rfl
  | cons a as ih =>
    rw [List.forall_mem_cons] at h
    simp [rereadFields?, h.1, ih h.2]

/-- A list comes back if every item does. -/
theorem returns_listOf {decode : Shape → Option α} {as : List α} {f g : α → Json}
    (h : ∀ a ∈ as, Returns decode (f a) (g a) a) :
    Returns (listOf decode) (.array (as.map f)) (.array (as.map g)) as where
  reread := reread?_array (rereadItems?_map fun a ha => (h a ha).reread)
  decoded := by
    rw [shape, shapeItems_eq_map, List.map_map]
    exact mapM_map_eq_some fun a ha => (h a ha).decoded

/-- A value that comes back from its text as it is, nested at most `depth` levels deep. -/
def Plain (depth : Nat) (j : Json) : Prop := Returns (Shape.settle depth) j j j

@[simp]
theorem plain_string (depth : Nat) (s : String) : Plain depth (.string s) :=
  ⟨rfl, settle_string depth s⟩

/-- An array comes back as it is if its items do. -/
theorem plain_array {depth : Nat} {items : List Json} (h : ∀ item ∈ items, Plain depth item) :
    Plain (depth + 1) (.array items) where
  reread := by
    have hitems := rereadItems?_map fun item hitem => (h item hitem).reread
    rw [List.map_id'] at hitems
    exact reread?_array hitems
  decoded := settle_array fun item hitem => (h item hitem).decoded

/-- An object with distinct keys comes back as it is if its values do. -/
theorem plain_object {depth : Nat} {fields : Fields} (hkeys : (Fields.keys fields).Nodup)
    (h : ∀ e ∈ fields, Plain depth e.2) : Plain (depth + 1) (.object fields) where
  reread := by
    have hfields : rereadFields? (fields.map fun e => (e.1, e.2)) = some _ :=
      rereadFields?_map fun e he => (h e he).reread
    rw [List.map_id'] at hfields
    exact reread?_object hfields
  decoded := settle_object hkeys fun e he => (h e he).decoded

theorem returns_string (s : String) : Returns Shape.string? (.string s) (.string s) s :=
  ⟨rfl, rfl⟩

theorem returns_strings (texts : List String) :
    Returns (listOf Shape.string?) (strings texts) (strings texts) texts :=
  returns_listOf fun s _ => returns_string s

end

end Json

end Ontograph
