/-
Ontograph.Proofs.Store.Table — rows that are merged into.

A table has at most one row for each key. Writing to a key makes the row if
there is none and otherwise overlays its properties, entry by entry; what else
a row carries, its tag, stays what the first write made it.

`writeAll_writeAll` is the reason for which a batch can be written again: a
list of writes, in which any key and any property may occur any number of
times, changes nothing the second time. The proof looks at one key. The row
there is decided by the writes to that key alone (`writeAll_apply`); these
overlay, one after another, what is one overlay of all their entries; and an
overlay is absorbed by itself (`overlay_overlay`).
-/
import Mathlib.Logic.Function.Basic
import Ontograph.Json.Value

namespace Ontograph

/-! ## Overlays -/

/-- Properties by name. -/
abbrev PropertyMap := String → Option Json

/-- The properties with some entries written over them, one after another. -/
def overlay (entries : Fields) (old : PropertyMap) : PropertyMap :=
  entries.foldl (fun map e => Function.update map e.1 (some e.2)) old

theorem overlay_append (first second : Fields) (old : PropertyMap) :
    overlay (first ++ second) old = overlay second (overlay first old) :=
  List.foldl_append

/-- What the entries do not mention is read through them. -/
theorem overlay_apply (entries : Fields) (old : PropertyMap) (key : String) :
    overlay entries old key = (overlay entries (fun _ => none) key).or (old key) := by
  induction entries generalizing old with
  | nil => rfl
  | cons e rest ih =>
    have hstep : ∀ map : PropertyMap,
        overlay (e :: rest) map = overlay rest (Function.update map e.1 (some e.2)) := fun _ => rfl
    rw [hstep, hstep, ih, ih (Function.update (fun _ => none) _ _), Option.or_assoc]
    by_cases h : key = e.1
    · subst h; simp
    · simp [Function.update_of_ne h]

/-- Laying the same entries over twice is laying them over once. -/
theorem overlay_overlay (entries : Fields) (old : PropertyMap) :
    overlay entries (overlay entries old) = overlay entries old := by
  funext key
  rw [overlay_apply entries (overlay entries old), overlay_apply entries old]
  cases overlay entries (fun _ => none) key <;> rfl

/-! ## Tables -/

/-- A row: what it was made with, and its properties. -/
structure Row (τ : Type) where
  tag : τ
  properties : PropertyMap

/-- At most one row for each key. -/
abbrev Table (κ τ : Type) := κ → Option (Row τ)

/-- A write: the tag is for a row that is not there yet. -/
structure Write (κ τ : Type) where
  key : κ
  tag : τ
  properties : Fields

variable {κ τ : Type}

def Write.row (w : Write κ τ) : Option (Row τ) → Row τ
  | none => ⟨w.tag, overlay w.properties fun _ => none⟩
  | some row => { row with properties := overlay w.properties row.properties }

namespace Table

def rowAfter (ws : List (Write κ τ)) (row : Option (Row τ)) : Option (Row τ) :=
  ws.foldl (fun row w => some (w.row row)) row

/-- To a row that is there, some writes are one overlay of all their entries. -/
theorem rowAfter_some (ws : List (Write κ τ)) (row : Row τ) :
    rowAfter ws (some row) =
      some { row with properties := overlay (ws.flatMap (·.properties)) row.properties } := by
  induction ws generalizing row with
  | nil => rfl
  | cons w rest ih =>
    rw [List.flatMap_cons, overlay_append]
    exact ih (w.row (some row))

/-- Writing a row again in the same way changes nothing. -/
theorem rowAfter_rowAfter (ws : List (Write κ τ)) (row : Option (Row τ)) :
    rowAfter ws (rowAfter ws row) = rowAfter ws row := by
  cases ws with
  | nil => rfl
  | cons w rest =>
    -- The first write leaves a row, made from some properties.
    obtain ⟨tag, base, hfirst⟩ : ∃ tag base, w.row row = ⟨tag, overlay w.properties base⟩ := by
      cases row with
      | none => exact ⟨w.tag, fun _ => none, rfl⟩
      | some row => exact ⟨row.tag, row.properties, rfl⟩
    have honce : rowAfter (w :: rest) row =
        some ⟨tag, overlay ((w :: rest).flatMap (·.properties)) base⟩ := by
      rw [List.flatMap_cons, overlay_append]
      exact (congrArg (fun r => rowAfter rest (some r)) hfirst).trans (rowAfter_some rest _)
    rw [honce, rowAfter_some, overlay_overlay]

variable [DecidableEq κ]

def write (t : Table κ τ) (w : Write κ τ) : Table κ τ :=
  Function.update t w.key (some (w.row (t w.key)))

def writeAll (t : Table κ τ) (ws : List (Write κ τ)) : Table κ τ := ws.foldl write t

/-- Of some writes, those to other keys do not matter to a row. -/
theorem writeAll_apply (t : Table κ τ) (ws : List (Write κ τ)) (key : κ) :
    t.writeAll ws key = rowAfter (ws.filter (·.key = key)) (t key) := by
  induction ws generalizing t with
  | nil => rfl
  | cons w rest ih =>
    have hstep : t.writeAll (w :: rest) = (t.write w).writeAll rest := rfl
    rw [hstep, ih]
    by_cases h : w.key = key
    · subst h; simp [write, rowAfter]
    · simp [write, Function.update_of_ne (Ne.symm h), h]

/-- **Writing again changes nothing.** -/
theorem writeAll_writeAll (t : Table κ τ) (ws : List (Write κ τ)) :
    (t.writeAll ws).writeAll ws = t.writeAll ws := by
  funext key
  rw [writeAll_apply (t.writeAll ws), writeAll_apply t, rowAfter_rowAfter]

/-! ## Tags -/

def tag? (t : Table κ τ) (key : κ) : Option τ := (t key).map Row.tag

theorem tag?_write_of_some {t : Table κ τ} {key : κ} {tag : τ} (w : Write κ τ)
    (h : t.tag? key = some tag) : (t.write w).tag? key = some tag := by
  obtain ⟨row, hrow, rfl⟩ := Option.map_eq_some_iff.mp h
  by_cases hkey : key = w.key
  · subst hkey; simp [tag?, write, hrow, Write.row]
  · simp [tag?, write, Function.update_of_ne hkey, hrow]

theorem tag?_write_self (t : Table κ τ) (w : Write κ τ) :
    ((t.write w).tag? w.key).isSome = true := by
  simp [tag?, write]

/-- A write to a row that is there leaves all tags alone. -/
theorem tag?_write_of_isSome {t : Table κ τ} {w : Write κ τ}
    (h : (t.tag? w.key).isSome = true) : (t.write w).tag? = t.tag? := by
  funext key
  by_cases hkey : key = w.key
  · subst hkey
    obtain ⟨tag, htag⟩ := Option.isSome_iff_exists.mp h
    rw [htag, tag?_write_of_some w htag]
  · simp [tag?, write, Function.update_of_ne hkey]

end Table

end Ontograph
