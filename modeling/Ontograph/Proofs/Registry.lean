/-
Ontograph.Proofs.Registry — what registering a list of things leaves.

Registering a thing under a new name puts it at the end. A list in which no
name occurs twice is therefore registered as it stands, and the things of a
registry, registered one after another, are the registry (`ofList_entries`).

A list in which names are repeated is registered as it settles: each name
stands where it came first and with what came last for it (`settled`). One call
of `register` changes the names and what is found as `names_register` and
`find?_register` say; `names_ofList` and `find?_ofList` follow by going through
the list from its end, and they leave a registry no choice
(`entries_eq_filterMap`).
-/
import Mathlib.Data.List.Nodup
import Mathlib.Data.List.Induction
import Ontograph.Registry

namespace Ontograph

section
variable {α : Type} [Named α]

theorem place_of_not_mem {a : α} {entries : List α} (h : name a ∉ entries.map name) :
    place a entries = entries ++ [a] := by
  induction entries with
  | nil => rfl
  | cons b rest ih =>
    rw [List.map_cons, List.mem_cons, not_or] at h
    rw [place, if_neg (Ne.symm h.1), ih h.2, List.cons_append]

theorem place_subset (a : α) (entries : List α) : place a entries ⊆ a :: entries := by
  induction entries with
  | nil => exact List.Subset.refl [a]
  | cons b rest ih =>
    rw [place]
    split
    · exact List.cons_subset_cons a (List.subset_cons_self b rest)
    · refine List.cons_subset.mpr ⟨by simp, List.Subset.trans ih ?_⟩
      exact List.cons_subset_cons a (List.subset_cons_self b rest)

/-- Things under names of their own are placed one behind another. -/
theorem foldl_place {things entries : List α} (h : ((entries ++ things).map name).Nodup) :
    things.foldl (fun es a => place a es) entries = entries ++ things := by
  induction things generalizing entries with
  | nil => exact (List.append_nil entries).symm
  | cons a rest ih =>
    have hnew : name a ∉ entries.map name := by
      rw [List.map_append, List.map_cons] at h
      exact fun hmem => (List.nodup_append.mp h).2.2 _ hmem _ List.mem_cons_self rfl
    rw [List.foldl_cons, place_of_not_mem hnew, ih (by rwa [List.append_assoc]), List.append_assoc]
    rfl

end

namespace Registry

variable {α : Type} [Named α]

/-- Registering one after another places the entries one after another. -/
theorem entries_foldl_register (r : Registry α) (things : List α) :
    (things.foldl register r).entries = things.foldl (fun es a => place a es) r.entries := by
  induction things generalizing r with
  | nil => rfl
  | cons a rest ih => exact ih (r.register a)

/-- Things with distinct names are registered as they stand. -/
theorem entries_ofList {things : List α} (h : (things.map name).Nodup) :
    (ofList things).entries = things := by
  unfold ofList
  rw [entries_foldl_register]
  exact foldl_place h

theorem eq_of_entries {r s : Registry α} (h : r.entries = s.entries) : r = s := by
  cases r
  cases s
  cases h
  rfl

/-- A registry comes back from its entries. -/
theorem ofList_entries (r : Registry α) : ofList r.entries = r :=
  eq_of_entries (entries_ofList r.distinct)

end Registry

/-! ## Settled lists -/

section
variable {α β κ μ : Type} [DecidableEq κ] [DecidableEq μ]

/-- The keys of some things, each once, in the order of first occurrence. -/
def firstKeys (key : α → κ) (things : List α) : List κ := (things.map key).eraseDups

def lastWith? (key : α → κ) (k : κ) (things : List α) : Option α :=
  things.reverse.find? (key · = k)

/-- The things of a list as they settle: one for each key, in the place of the first with this key
and with the contents of the last. -/
def settled (key : α → κ) (things : List α) : List α :=
  (firstKeys key things).filterMap (lastWith? key · things)

/-- Taking out repeated keys and then a part of what is left is taking the part first, if the part
tells keys apart. -/
theorem filterMap_eraseDups {part : κ → Option μ}
    (hpart : ∀ k k' m, part k = some m → part k' = some m → k = k') : ∀ ks : List κ,
    ks.eraseDups.filterMap part = (ks.filterMap part).eraseDups
  | [] => by simp
  | k :: rest => by
    have hshorter : (rest.filter fun x => !x == k).length < (k :: rest).length :=
      Nat.lt_succ_of_le (List.length_filter_le _ _)
    have ih := filterMap_eraseDups hpart (rest.filter fun x => !x == k)
    rw [List.eraseDups_cons, List.filterMap_cons, List.filterMap_cons, ih]
    cases hk : part k with
    | none =>
      have hsame : (rest.filter fun x => !x == k).filterMap part = rest.filterMap part := by
        rw [List.filterMap_filter]
        refine List.filterMap_congr fun x _ => ?_
        by_cases hx : x = k <;> simp [hx, hk]
      rw [hsame]
    | some m =>
      have hsame : (rest.filter fun x => !x == k).filterMap part =
          (rest.filterMap part).filter fun y => !y == m := by
        rw [List.filterMap_filter, List.filter_filterMap]
        refine List.filterMap_congr fun x _ => ?_
        by_cases hx : x = k
        · simp [hx, hk, Option.filter]
        · cases hxm : part x with
          | none => simp
          | some y =>
            have hne : y ≠ m := fun e => hx (hpart x k m (e ▸ hxm) hk)
            simp [hx, Option.filter, hne]
      rw [hsame, List.eraseDups_cons]
termination_by ks => ks.length
decreasing_by exact hshorter

theorem firstKeys_concat (key : α → κ) (things : List α) (a : α) :
    firstKeys key (things ++ [a]) =
      if key a ∈ firstKeys key things then firstKeys key things
      else firstKeys key things ++ [key a] := by
  unfold firstKeys
  rw [List.map_append, List.map_singleton, List.eraseDups_append]
  split
  · rename_i h
    have hold : [key a].removeAll (things.map key) = [] := by
      simpa [List.removeAll, List.mem_eraseDups] using h
    rw [hold, List.eraseDups_nil, List.append_nil]
  · rename_i h
    have hnew : [key a].removeAll (things.map key) = [key a] := by
      simpa [List.removeAll, List.mem_eraseDups] using h
    rw [hnew, List.eraseDups_cons, List.filter_nil, List.eraseDups_nil]

theorem lastWith?_concat (key : α → κ) (k : κ) (things : List α) (a : α) :
    lastWith? key k (things ++ [a]) = if k = key a then some a else lastWith? key k things := by
  rw [lastWith?, List.reverse_concat, List.find?_cons]
  by_cases h : k = key a
  · simp [h]
  · simp [h, Ne.symm h, lastWith?]

theorem lastWith?_eq_none_iff {key : α → κ} {k : κ} {things : List α} :
    lastWith? key k things = none ↔ ∀ a ∈ things, key a ≠ k := by
  simp [lastWith?, List.find?_eq_none]

/-- Of the things that pass through `pick`, the last with a key is the last of all with that key. -/
theorem bind_lastWith? {key : α → κ} {key' : β → μ} {pick : α → Option β} {part : κ → Option μ}
    (hpart : ∀ k k' m, part k = some m → part k' = some m → k = k')
    (hkey : ∀ a, part (key a) = (pick a).map key') (k : κ) (things : List α) :
    (lastWith? key k things).bind pick =
      (part k).bind fun m => lastWith? key' m (things.filterMap pick) := by
  -- from the end, where the last thing with a key is found first
  induction things using List.reverseRecOn with
  | nil => simp [lastWith?]
  | append_singleton things a ih =>
    rw [lastWith?_concat, List.filterMap_append]
    have hka := hkey a
    cases hpick : pick a with
    | none =>
      rw [hpick, Option.map_none] at hka
      rw [List.filterMap_cons_none hpick, List.filterMap_nil, List.append_nil, ← ih]
      split
      · rename_i h
        rw [ih, h, hka, Option.bind_some, hpick, Option.bind_none]
      · rfl
    | some b =>
      rw [hpick, Option.map_some] at hka
      rw [List.filterMap_cons_some hpick, List.filterMap_nil]
      simp only [lastWith?_concat]
      split
      · rename_i h
        rw [h, hka, Option.bind_some, Option.bind_some, hpick, if_pos rfl]
      · rename_i h
        rw [ih]
        cases hk : part k with
        | none => rfl
        | some m =>
          -- two keys with one part would be the same key
          have hne : m ≠ key' b := fun e => h (hpart k (key a) m hk (e ▸ hka))
          rw [Option.bind_some, Option.bind_some, if_neg hne]

/-- A part of a list settles as it does within the list. -/
theorem filterMap_settled {key : α → κ} {key' : β → μ} {pick : α → Option β} (part : κ → Option μ)
    (hpart : ∀ k k' m, part k = some m → part k' = some m → k = k')
    (hkey : ∀ a, part (key a) = (pick a).map key') (things : List α) :
    (settled key things).filterMap pick = settled key' (things.filterMap pick) := by
  have hfirst : (firstKeys key things).filterMap part =
      firstKeys key' (things.filterMap pick) := by
    rw [firstKeys, filterMap_eraseDups hpart, List.filterMap_map, firstKeys, List.map_filterMap]
    congr 1
    exact List.filterMap_congr fun a _ => hkey a
  rw [settled, List.filterMap_filterMap, settled, ← hfirst, List.filterMap_filterMap]
  exact List.filterMap_congr fun k _ => bind_lastWith? hpart hkey k things

end

/-! ## What registering a list leaves -/

namespace Registry

variable {α : Type} [Named α]

theorem ofList_concat (things : List α) (a : α) :
    ofList (things ++ [a]) = (ofList things).register a := by
  rw [ofList, List.foldl_append]
  rfl

/-- Names are known in the order in which they occur first. -/
theorem names_ofList (things : List α) : (ofList things).names = firstKeys name things := by
  induction things using List.reverseRecOn with
  | nil => rfl
  | append_singleton things a ih => rw [ofList_concat, names_register, firstKeys_concat, ih]

/-- What is found under a name is the last thing with it. -/
theorem find?_ofList (things : List α) (key : String) :
    (ofList things).find? key = lastWith? name key things := by
  induction things using List.reverseRecOn with
  | nil => rfl
  | append_singleton things a ih => rw [ofList_concat, find?_register, lastWith?_concat, ih]

theorem name_of_find? {r : Registry α} {key : String} {a : α} (h : r.find? key = some a) :
    name a = key := by simpa using List.find?_some h

theorem exists_mem_of_contains {r : Registry α} {key : String} (h : r.contains key = true) :
    ∃ a ∈ r.entries, name a = key := by
  obtain ⟨a, ha⟩ := Option.isSome_iff_exists.mp h
  exact ⟨a, List.mem_of_find?_eq_some ha, name_of_find? ha⟩

theorem find?_name {r : Registry α} {a : α} (h : a ∈ r.entries) : r.find? (name a) = some a := by
  have hfound : (r.find? (name a)).isSome = true := by
    rw [find?, findNamed?, List.find?_isSome]
    exact ⟨a, h, by simp⟩
  obtain ⟨b, hb⟩ := Option.isSome_iff_exists.mp hfound
  have hname : name b = name a := name_of_find? hb
  rw [hb, List.inj_on_of_nodup_map r.distinct (List.mem_of_find?_eq_some hb) h hname]

theorem contains_iff {r : Registry α} {key : String} : r.contains key = true ↔ key ∈ r.names := by
  constructor
  · intro h
    obtain ⟨a, ha, rfl⟩ := exists_mem_of_contains h
    exact List.mem_map_of_mem ha
  · intro h
    obtain ⟨a, ha, rfl⟩ := List.mem_map.mp h
    rw [contains, find?_name ha]
    rfl

/-- A registry is what its names find, in the order of its names. -/
theorem entries_eq_filterMap (r : Registry α) : r.entries = r.names.filterMap r.find? := by
  rw [names, List.filterMap_map]
  have hself : r.entries.filterMap (r.find? ∘ name) = r.entries.filterMap some :=
    List.filterMap_congr fun a ha => find?_name ha
  rw [hself, List.filterMap_some]

/-- What registering leaves: for each name, in the order of first occurrence, the last thing with
it. -/
theorem entries_ofList_eq (things : List α) : (ofList things).entries = settled name things := by
  rw [entries_eq_filterMap, names_ofList, settled]
  exact List.filterMap_congr fun key _ => find?_ofList things key

/-- Registering what registering has left changes nothing. -/
theorem ofList_settled (things : List α) : ofList (settled name things) = ofList things := by
  rw [← entries_ofList_eq, ofList_entries]

end Registry

end Ontograph
