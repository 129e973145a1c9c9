/-
Ontograph.Registry — named things in the order of their first appearance.

Placing a thing into a list of named things puts it where the thing of the
same name stands, or at the end if there is none. A `Registry` is a list in
which no name occurs twice; `names_register` says what placing does to the
names, and `find?_register` which thing a name finds afterwards.
-/

namespace Ontograph

class Named (α : Type u) where
  name : α → String

export Named (name)

instance : Named (String × α) := ⟨Prod.fst⟩

/-! ## Placing in a list -/

section
variable {α : Type u} [Named α]

/-- The list with `a` in the place of the entry of its name, or at the end. -/
def place (a : α) : List α → List α
  | [] => [a]
  | b :: rest => if name b = name a then a :: rest else b :: place a rest

def findNamed? (key : String) (entries : List α) : Option α := entries.find? (name · = key)

/-- Some names, each once, in the order of their code points. -/
def sortedNames (names : List String) : List String :=
  names.eraseDups.mergeSort fun a b => decide (a ≤ b)

/-- A name that is known keeps its place, and a new one comes last. -/
theorem names_place (a : α) : ∀ entries : List α,
    (place a entries).map name =
      if name a ∈ entries.map name then entries.map name else entries.map name ++ [name a]
  | [] => by simp [place]
  | b :: rest => by
    by_cases h : name b = name a
    · simp [place, h]
    · have h' : name a ≠ name b := fun e => h e.symm
      simp only [place, h, if_false, List.map_cons, names_place a rest, List.mem_cons, h', false_or]
      split <;> simp

theorem findNamed?_place_self (a : α) : ∀ entries : List α,
    findNamed? (name a) (place a entries) = some a
  | [] => by simp [place, findNamed?]
  | b :: rest => by
    by_cases h : name b = name a
    · simp [place, findNamed?, h]
    · have ih := findNamed?_place_self a rest
      simp only [findNamed?] at ih ⊢
      simp [place, h, ih]

theorem findNamed?_place_of_ne {key : String} (a : α) (hne : key ≠ name a) :
    ∀ entries : List α, findNamed? key (place a entries) = findNamed? key entries
  | [] => by simp [place, findNamed?, hne.symm]
  | b :: rest => by
    by_cases h : name b = name a
    · have hb : name b ≠ key := fun e => hne (e.symm.trans h)
      simp [place, findNamed?, h, hne.symm]
    · have ih := findNamed?_place_of_ne a hne rest
      simp only [findNamed?] at ih ⊢
      simp [place, h, List.find?_cons, ih]

theorem nodup_place {a : α} {entries : List α} (h : (entries.map name).Nodup) :
    ((place a entries).map name).Nodup := by
  rw [names_place]
  split
  · exact h
  · rename_i hn
    refine List.nodup_append.2 ⟨h, by simp, fun x hx y hy => ?_⟩
    rw [List.mem_singleton.1 hy]
    exact fun e => hn (e ▸ hx)

end

/-! ## Registries -/

/-- Named things in the order of their first appearance, one for each name. -/
structure Registry (α : Type u) [Named α] where
  entries : List α
  distinct : (entries.map name).Nodup

namespace Registry

variable {α : Type u} [Named α]

instance [DecidableEq α] : DecidableEq (Registry α)
  | ⟨xs, _⟩, ⟨ys, _⟩ =>
    if h : xs = ys then isTrue (by subst h; rfl)
    else isFalse fun e => h (congrArg entries e)

def empty : Registry α := ⟨[], by simp⟩

/-- The registry with a thing in the place of the one of its name, or at the end. -/
def register (r : Registry α) (a : α) : Registry α := ⟨place a r.entries, nodup_place r.distinct⟩

def ofList (things : List α) : Registry α := things.foldl register empty

def names (r : Registry α) : List String := r.entries.map name

def find? (r : Registry α) (key : String) : Option α := findNamed? key r.entries

def contains (r : Registry α) (key : String) : Bool := (r.find? key).isSome

def size (r : Registry α) : Nat := r.entries.length

theorem names_register (r : Registry α) (a : α) :
    (r.register a).names = if name a ∈ r.names then r.names else r.names ++ [name a] :=
  names_place a r.entries

/-- Under its own name a thing is found, and under other names what was there before. -/
theorem find?_register (r : Registry α) (a : α) (key : String) :
    (r.register a).find? key = if key = name a then some a else r.find? key := by
  split
  · rename_i h; subst h; exact findNamed?_place_self a r.entries
  · rename_i h; exact findNamed?_place_of_ne a h r.entries

end Registry

end Ontograph
