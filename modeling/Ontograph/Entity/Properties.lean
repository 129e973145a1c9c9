/-
Ontograph.Entity.Properties — property bags.

A bag holds one value for each key and is sorted by key, so that equal bags
are equal lists and everything that is derived from a bag depends on its
contents only. The order is that of the code points of the keys.
-/
import Ontograph.Entity.Value
import Ontograph.Json.Shape

namespace Ontograph

/-- Values by key, sorted by key. -/
structure Properties where
  entries : List (String × PropertyValue)
  sorted : entries.Pairwise (fun a b => a.1 < b.1)
  deriving DecidableEq

namespace Properties

def empty : Properties := ⟨[], .nil⟩

def insertSorted (key : String) (value : PropertyValue) :
    List (String × PropertyValue) → List (String × PropertyValue)
  | [] => [(key, value)]
  | (k, v) :: rest =>
    if key < k then (key, value) :: (k, v) :: rest
    else if key = k then (key, value) :: rest
    else (k, v) :: insertSorted key value rest

theorem keys_insertSorted {key : String} {value : PropertyValue} {e : String × PropertyValue} :
    ∀ {entries : List (String × PropertyValue)}, e ∈ insertSorted key value entries →
      e = (key, value) ∨ e ∈ entries
  | [], h => by simpa [insertSorted] using h
  | (k, v) :: rest, h => by
    unfold insertSorted at h
    split at h
    · simpa using h
    · split at h
      · rcases List.mem_cons.1 h with h | h
        · exact .inl h
        · exact .inr (List.mem_cons_of_mem _ h)
      · rcases List.mem_cons.1 h with h | h
        · exact .inr (h ▸ List.mem_cons_self)
        · rcases keys_insertSorted h with h | h
          · exact .inl h
          · exact .inr (List.mem_cons_of_mem _ h)

/-- A list that is sorted by its keys remains so. -/
theorem sorted_insertSorted (key : String) (value : PropertyValue) :
    ∀ {entries : List (String × PropertyValue)}, entries.Pairwise (fun a b => a.1 < b.1) →
      (insertSorted key value entries).Pairwise (fun a b => a.1 < b.1)
  | [], _ => by simp [insertSorted]
  | (k, v) :: rest, h => by
    obtain ⟨hk, hrest⟩ := List.pairwise_cons.1 h
    unfold insertSorted
    split
    · rename_i hlt
      refine List.pairwise_cons.2 ⟨fun e he => ?_, h⟩
      rcases List.mem_cons.1 he with rfl | he
      · exact hlt
      · exact String.lt_trans hlt (hk e he)
    · split
      · rename_i heq
        subst heq
        exact List.pairwise_cons.2 ⟨hk, hrest⟩
      · rename_i hlt hne
        refine List.pairwise_cons.2 ⟨fun e he => ?_, sorted_insertSorted key value hrest⟩
        rcases keys_insertSorted he with rfl | he
        · exact Std.lt_of_le_of_ne (String.not_lt.1 hlt) fun e => hne e.symm
        · exact hk e he

def insert (key : String) (value : PropertyValue) (p : Properties) : Properties :=
  ⟨insertSorted key value p.entries, sorted_insertSorted key value p.sorted⟩

/-- The bag of some values by key; a repeated key takes its last value. -/
def ofList (entries : List (String × PropertyValue)) : Properties :=
  entries.foldl (fun p e => p.insert e.1 e.2) empty

def get? (p : Properties) (key : String) : Option PropertyValue :=
  (p.entries.find? (·.1 = key)).map Prod.snd

/-- The new value stands under its key, and nothing changes under other keys. -/
theorem find?_insertSorted (key other : String) (value : PropertyValue)
    (entries : List (String × PropertyValue)) :
    (insertSorted key value entries).find? (·.1 = other) =
      if other = key then some (key, value) else entries.find? (·.1 = other) := by
  induction entries with
  | nil => by_cases h : other = key <;> simp [insertSorted, h, Ne.symm]
  | cons e rest ih =>
    obtain ⟨k, v⟩ := e
    unfold insertSorted
    split
    · by_cases h : other = key <;> simp [h, Ne.symm]
    · split
      · rename_i heq
        subst heq
        by_cases h : other = key <;> simp [h, Ne.symm]
      · rename_i hne
        rw [List.find?_cons, List.find?_cons, ih]
        by_cases h : other = key
        · subst h
          simp [Ne.symm hne]
        · simp [h]

@[simp]
theorem get?_empty (key : String) : empty.get? key = none := rfl

/-- Under the key stands the value that was inserted, under any other what stood there before. -/
theorem get?_insert (key other : String) (value : PropertyValue) (p : Properties) :
    (p.insert key value).get? other = if other = key then some value else p.get? other := by
  rw [get?, insert, find?_insertSorted]
  split
  · rfl
  · rfl

/-- A bag as the graph store gets it, sorted by key. -/
def toFields (p : Properties) : Fields := p.entries.map fun e => (e.1, e.2.toJson)

/-- A bag as documents hold it, sorted by key. -/
def toDocument (p : Properties) : Json := .object (p.entries.map fun e => (e.1, e.2.toDocument))

/-- The bag of an object's entries; entries that are no property values are left out. -/
def ofFields (fields : Fields) : Properties :=
  ofList (fields.filterMap fun e => (PropertyValue.ofJson? e.2).map (e.1, ·))

/-- The bag of a record's field, nested at most `depth` levels deep; null is the empty bag. -/
def ofShape? (depth : Nat) (j : Json.Shape) : Option Properties :=
  match j.settle depth with
  | some .null => some empty
  | some (.object fields) => some (ofFields fields)
  | _ => none

end Properties

end Ontograph
