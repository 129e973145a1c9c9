/-
Ontograph.Proofs.Json.Held — what the values of documents are made of.

The type of JSON values has room for more than a text says: for doubles that are
not finite, for singles, and for an object that has a key twice. No value that is
read from a text has any of these (`held_of_parse`). Of numbers it is said first:
the digits of a literal are gathered into sixty-four bits, dividing by a power of
ten makes nothing infinite, and a product that is infinite is no value
(`isFinite_scaled?`). Then it is said of the literals of a shape, by induction on
the fuel of the reader (`reads_sound`), and last of what a shape settles to, where
a repeated key has gone before there is an object.
-/
import Ontograph.Proofs.Json.Record
import Ontograph.Proofs.Json.Surroundings
import Ontograph.Proofs.Number.Finite

namespace Ontograph.Json

/-- A value as it is read from a document: its numbers are integers and finite doubles, and no key
of its objects is repeated. -/
inductive Held : Json → Prop where
  | null : Held .null
  | bool (b : Bool) : Held (.bool b)
  | int (i : Int) : Held (.int i)
  | double {x : Double} (finite : x.isFinite = true) : Held (.double x)
  | string (s : String) : Held (.string s)
  | array {items : List Json} (items_held : ∀ item ∈ items, Held item) : Held (.array items)
  | object {fields : Fields} (distinct : (Fields.keys fields).Nodup)
      (values_held : ∀ e ∈ fields, Held e.2) : Held (.object fields)

theorem Held.isFinite {x : Double} : Held (.double x) → x.isFinite = true
  | .double finite => finite

/-- An object from a document has distinct keys. -/
theorem Held.keys_nodup {fields : Fields} : Held (.object fields) → (Fields.keys fields).Nodup
  | .object distinct _ => distinct

theorem Held.of_mem {fields : Fields} : Held (.object fields) → ∀ e ∈ fields, Held e.2
  | .object _ values_held => values_held

/-! ## Numbers -/

/-- A significand never leaves sixty-four bits. -/
theorem lt_of_extend? {n next : Nat} {c : Char} (h : extend? n c = some next) :
    next < 2 ^ 64 := by
  unfold extend? at h
  dsimp only at h
  split at h
  · rename_i hnext
    cases h
    exact hnext
  · cases h

theorem gatherWhole_lt {n : Nat} (h : n < 2 ^ 64) (cs : List Char) :
    (gatherWhole n cs).significand < 2 ^ 64 := by
  induction cs generalizing n with
  | nil => exact h
  | cons c rest ih =>
    rw [gatherWhole_cons_eq]
    split
    · rename_i hnext
      exact ih (lt_of_extend? hnext)
    · exact h

theorem gatherFraction_nil (g : Gathered) : gatherFraction g [] = g := rfl

theorem gatherFraction_cons_eq (g : Gathered) (c : Char) (rest : List Char) :
    gatherFraction g (c :: rest) =
      match extend? g.significand c with
      | some next => gatherFraction ⟨next, g.exponent - 1⟩ rest
      | none => g := by
  -- Here, too, the simplifier would evaluate the bound.
  show (match extend? g.significand c with
    | some next => gatherFraction ⟨next, g.exponent - 1⟩ rest
    | none => g) = _
  rfl

theorem gatherFraction_lt {g : Gathered} (h : g.significand < 2 ^ 64) (cs : List Char) :
    (gatherFraction g cs).significand < 2 ^ 64 := by
  induction cs generalizing g with
  | nil => rwa [gatherFraction_nil]
  | cons c rest ih =>
    rw [gatherFraction_cons_eq]
    split
    · rename_i hnext
      exact ih (lt_of_extend? hnext)
    · exact h

/-- Every power of ten that a double is divided by is two at least. -/
theorem powerOfTen_atLeastTwo :
    ∀ n < greatestPower, (powerOfTen (n + 1)).AtLeastTwo := by decide +kernel

theorem isFinite_scaleDown {x : Double} (hx : x.isFinite = true) {n : Nat} (hn : 0 < n) :
    (scaleDown x n).isFinite = true := by
  have hdiv {x : Double} (hx : x.isFinite = true) {n : Nat} (hn : 0 < n)
      (hle : n ≤ greatestPower) : (x.div (powerOfTen n)).isFinite = true := by
    obtain ⟨m, rfl⟩ : ∃ m, n = m + 1 := ⟨n - 1, by omega⟩
    exact Binary.isFinite_div hx (powerOfTen_atLeastTwo m hle)
  induction x, n using scaleDown.induct with
  | case1 x n hle =>
    rw [scaleDown, if_pos hle]
    exact hdiv hx hn hle
  | case2 x n hle hzero =>
    rw [scaleDown, if_neg hle, if_pos hzero]
    exact hx
  | case3 x n hle hzero ih =>
    rw [scaleDown, if_neg hle, if_neg hzero]
    exact ih (hdiv hx (by decide) (Nat.le_refl _)) (by omega)

/-- Gathered digits are scaled to a finite double or to none. -/
theorem isFinite_scaled? {g : Gathered} (hg : g.significand < 2 ^ 64) {x : Double}
    (h : scaled? g = some x) : x.isFinite = true := by
  have hfinite := Binary.isFinite_ofNat hg
  unfold scaled? at h
  dsimp only at h
  split at h
  · rename_i hneg
    cases h
    exact isFinite_scaleDown hfinite (by omega)
  · split at h
    · split at h
      · rename_i hproduct
        cases h
        exact hproduct
      · cases h
    · split at h
      · cases h
        exact hfinite
      · cases h

theorem isFinite_magnitude? {g : Gathered} (hg : g.significand < 2 ^ 64)
    {exponent : Option (Bool × Nat)} {x : Double} (h : magnitude? g exponent = some x) :
    x.isFinite = true := by
  unfold magnitude? at h
  split at h
  · exact isFinite_scaled? hg h
  · split at h
    · refine isFinite_scaled? ?_ h
      exact hg
    · split at h
      · cases h
        decide
      · cases h

theorem held_literalValue {negative : Bool} {whole : List Char} {fraction : Option (List Char)}
    {exponent : Option (Bool × Nat)} {value : Json}
    (h : literalValue negative whole fraction exponent = some value) : Held value := by
  have hwhole : (gatherWhole 0 whole).significand < 2 ^ 64 := gatherWhole_lt (by decide) whole
  have hsigned {x : Double} (hx : x.isFinite = true) : Held (signedDouble negative x) := by
    refine .double ?_
    split <;> exact hx
  unfold literalValue at h
  dsimp only at h
  split at h
  · split at h
    · cases h
      exact .int _
    · split at h
      · cases h
        exact .int _
      · obtain ⟨x, hx, rfl⟩ := Option.map_eq_some_iff.mp h
        exact hsigned (isFinite_scaled? hwhole hx)
  · obtain ⟨x, hx, rfl⟩ := Option.map_eq_some_iff.mp h
    exact hsigned (isFinite_magnitude? (gatherFraction_lt hwhole _) hx)

theorem held_magnitudeLiteral {negative : Bool} {cs r : List Char} {value : Json}
    (h : magnitudeLiteral? negative cs = some (some value, r)) : Held value := by
  simp only [magnitudeLiteral?_eq, Option.bind_eq_bind, Option.bind_eq_some_iff] at h
  obtain ⟨_, _, _, _, _, _, hr⟩ := h
  exact held_literalValue (congrArg Prod.fst (Option.some.inj hr))

/-- A number literal stands for an integer or a finite double. -/
theorem held_numberLiteral {cs r : List Char} {value : Json}
    (h : numberLiteral? cs = some (some value, r)) : Held value := by
  unfold numberLiteral? at h
  split at h <;> exact held_magnitudeLiteral h

/-! ## Shapes -/

/-- A shape whose literals stand for values of documents. -/
inductive Shape.Sound : Shape → Prop where
  | literal {value : Option Json} (held : ∀ j, value = some j → Held j) : Sound (.literal value)
  | array {items : List Shape} (items_sound : ∀ item ∈ items, Sound item) : Sound (.array items)
  | object {fields : List (Option String × Shape)} (values_sound : ∀ e ∈ fields, Sound e.2) :
    Sound (.object fields)

open Shape (Sound)

/-- With this fuel, whatever is read has a property. -/
def Reads {α : Type} (reader : Nat → List Char → Option (α × List Char)) (P : α → Prop)
    (fuel : Nat) : Prop :=
  ∀ ⦃cs r : List Char⦄ ⦃a : α⦄, reader fuel cs = some (a, r) → P a

theorem reads_value {fuel : Nat} (hitems : Reads items? (∀ item ∈ ·, Sound item) fuel)
    (hfields : Reads fields? (∀ e ∈ ·, Sound e.2) fuel) : Reads value? Sound (fuel + 1) := by
  have hword {word cs r : List Char} {value : Json} {shape : Shape} (hvalue : Held value)
      (h : (word? word cs).map (Shape.literal (some value), ·) = some (shape, r)) :
      Sound shape := by
    obtain ⟨rest, -, hr⟩ := Option.map_eq_some_iff.mp h
    cases hr
    exact .literal fun j hj => Option.some.inj hj ▸ hvalue
  intro cs r shape h
  rw [value?] at h
  split at h
  · cases h
  · split at h
    · cases h
      exact .object (List.forall_mem_nil _)
    · obtain ⟨⟨fields, rest⟩, hread, hr⟩ := Option.map_eq_some_iff.mp h
      cases hr
      exact .object (hfields hread)
  · split at h
    · cases h
      exact .array (List.forall_mem_nil _)
    · obtain ⟨⟨items, rest⟩, hread, hr⟩ := Option.map_eq_some_iff.mp h
      cases hr
      exact .array (hitems hread)
  · obtain ⟨⟨content, rest⟩, -, hr⟩ := Option.map_eq_some_iff.mp h
    cases hr
    refine .literal fun j hj => ?_
    obtain ⟨cs, -, rfl⟩ := Option.map_eq_some_iff.mp hj
    exact .string _
  · exact hword .null h
  · exact hword (.bool true) h
  · exact hword (.bool false) h
  · obtain ⟨⟨value, rest⟩, hread, hr⟩ := Option.map_eq_some_iff.mp h
    cases hr
    exact .literal fun j hj => held_numberLiteral (hj ▸ hread)

/-- What is read in a list has a property if every item has it. -/
theorem reads_separated {α : Type} {fuel : Nat}
    {reader : Nat → List Char → Option (List α × List Char)} {closed : Char} {k : Shape → α}
    {P : α → Prop} (hk : ∀ value, Sound value → P (k value)) (hvalue : Reads value? Sound fuel)
    (hreader : Reads reader (∀ a ∈ ·, P a) fuel) {cs r : List Char} {found : List α}
    (h : ((value? fuel cs).bind fun (value, read) =>
      separated closed (reader fuel) k value read) = some (found, r)) : ∀ a ∈ found, P a := by
  obtain ⟨⟨value, read⟩, hfirst, h⟩ := Option.bind_eq_some_iff.mp h
  have hhead := hk value (hvalue hfirst)
  rcases of_separated h with ⟨-, rfl⟩ | ⟨-, rest, more, -, hmore, rfl⟩
  · exact List.forall_mem_singleton.mpr hhead
  · exact List.forall_mem_cons.mpr ⟨hhead, hreader hmore⟩

/-- Whatever is read is sound, by induction on the fuel. -/
theorem reads_sound (fuel : Nat) : Reads value? Sound fuel ∧
    Reads items? (∀ item ∈ ·, Sound item) fuel ∧ Reads fields? (∀ e ∈ ·, Sound e.2) fuel := by
  induction fuel with
  | zero => exact ⟨nofun, nofun, nofun⟩
  | succ fuel ih =>
    obtain ⟨hvalue, hitems, hfields⟩ := ih
    refine ⟨reads_value hitems hfields, fun cs r items h => ?_, fun cs r fields h => ?_⟩
    · rw [items?_succ] at h
      exact reads_separated (fun _ hsound => hsound) hvalue hitems h
    · obtain ⟨key, behind, hkey⟩ := exists_keyAt h
      rw [fields?_succ hkey] at h
      exact reads_separated (k := fun value => (key.map String.ofList, value))
        (fun _ hsound => hsound) hvalue hfields h

theorem sound_of_read {s : String} {shape : Shape} (h : read s = some shape) : Sound shape := by
  unfold read at h
  dsimp only at h
  split at h
  · rename_i hread
    split at h
    · cases h
      exact (reads_sound _).1 hread
    · cases h
  · cases h

/-! ## Settling -/

theorem held_settleItems {depth : Nat} {items : List Shape} {values : List Json}
    (h : Shape.settleItems depth items = some values)
    (hitems : ∀ item ∈ items, ∀ {j}, Shape.settle depth item = some j → Held j) :
    ∀ j ∈ values, Held j := by
  induction items generalizing values with
  | nil =>
    cases h
    exact List.forall_mem_nil _
  | cons item items ih =>
    rw [List.forall_mem_cons] at hitems
    simp only [Shape.settleItems, Option.bind_eq_bind, Option.bind_eq_some_iff,
      Option.pure_def] at h
    obtain ⟨j, hj, rest, hrest, hvalues⟩ := h
    cases hvalues
    exact List.forall_mem_cons.mpr ⟨hitems.1 hj, ih hrest hitems.2⟩

theorem held_settleFields {depth : Nat} {fields : List (Option String × Shape)} {entries : Fields}
    (h : Shape.settleFields depth fields = some entries)
    (hfields : ∀ e ∈ fields, ∀ {j}, Shape.settle depth e.2 = some j → Held j) :
    ∀ e ∈ entries, Held e.2 := by
  induction fields generalizing entries with
  | nil =>
    cases h
    exact List.forall_mem_nil _
  | cons field fields ih =>
    obtain ⟨key, shape⟩ := field
    rw [List.forall_mem_cons] at hfields
    simp only [Shape.settleFields, Option.bind_eq_bind, Option.bind_eq_some_iff,
      Option.pure_def] at h
    obtain ⟨name, -, j, hj, rest, hrest, hentries⟩ := h
    cases hentries
    exact List.forall_mem_cons.mpr ⟨hfields.1 hj, ih hrest hfields.2⟩

/-- Repeated keys are gone once an object is made of entries. -/
theorem held_ofEntries {entries : Fields} (h : ∀ e ∈ entries, Held e.2) :
    Held (.ofEntries entries) :=
  .object (Fields.nodup_keys_ofList entries) fun e he => h e (Fields.ofList_subset entries he)

/-- A sound shape is settled as a value from a document. -/
theorem held_of_settle {shape : Shape} (hsound : Sound shape) {depth : Nat} {j : Json}
    (h : shape.settle depth = some j) : Held j := by
  induction hsound generalizing depth j with
  | literal held => exact held j h
  | array _ ih =>
    cases depth with
    | zero => cases h
    | succ depth =>
      rw [Shape.settle, Option.map_eq_some_iff] at h
      obtain ⟨values, hvalues, rfl⟩ := h
      exact .array (held_settleItems hvalues fun item hitem => ih item hitem)
  | object _ ih =>
    cases depth with
    | zero => cases h
    | succ depth =>
      rw [Shape.settle, Option.map_eq_some_iff] at h
      obtain ⟨entries, hentries, rfl⟩ := h
      exact held_ofEntries (held_settleFields hentries fun e he => ih e he)

/-- **What is read is a value of documents**: no text has a number that is not finite, or an object
with a repeated key. -/
theorem held_of_parse {s : String} {j : Json} (h : parse s = some j) : Held j := by
  obtain ⟨shape, hshape, hsettle⟩ := Option.bind_eq_some_iff.mp h
  exact held_of_settle (sound_of_read hshape) hsettle

end Ontograph.Json
