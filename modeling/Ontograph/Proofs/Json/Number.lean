/-
Ontograph.Proofs.Json.Number — number literals, alone and inside a longer text.

A scanner of numbers goes on for as long as it can, so what it makes of a text
depends on what stands behind it. `Blind` and `Bounded` say how far: a scanner
leaves the end of its text, and if the text goes on with no number, that is left
as well and makes nothing a number or no number. Every scanner of a literal is
so, the literal's last of all (`blind_numberLiteral`, `bounded_numberLiteral`).
Hence a numeric text that is a value by itself is that value wherever a number
may end (`value?_of_parse`).

The texts that numbers are written in are numeric (`isNumeric_toString`,
`isNumeric_documentText`). An integer of sixty-four bits is read as itself
(`parse_toString`); what a double is read as is left open here, since reading
rounds twice.
-/
import Mathlib.Algebra.Group.Int.Defs
import Mathlib.Data.List.Basic
import Mathlib.Data.List.TakeWhile
import Ontograph.Json.Parser
import Ontograph.Json.Printer
import Ontograph.Number.Literal

namespace Ontograph.Json

/-! ## What may stand in a literal -/

def isNumberChar (c : Char) : Bool :=
  c.isDigit || c = '-' || c = '+' || c = '.' || c = 'e' || c = 'E'

/-- A text that goes on with no number. -/
def EndsNumber (rest : List Char) : Prop := ∀ c ∈ rest.head?, isNumberChar c = false

/-- What is found, with more text behind the rest. -/
def andBehind {α : Type} (more : List Char) : α × List Char → α × List Char
  | (a, rest) => (a, rest ++ more)

/-- A scanner that does the same if the text goes on with no number. -/
def Blind {α : Type} (scan : List Char → Option (α × List Char)) : Prop :=
  ∀ ⦃rest : List Char⦄, EndsNumber rest → ∀ cs, scan (cs ++ rest) = (scan cs).map (andBehind rest)

theorem Blind.append {α : Type} {scan : List Char → Option (α × List Char)} (h : Blind scan)
    {cs r rest : List Char} {a : α} (hrest : EndsNumber rest) (hscan : scan cs = some (a, r)) :
    scan (cs ++ rest) = some (a, r ++ rest) := by
  rw [h hrest, hscan]
  rfl

/-- Two scanners one after the other. -/
theorem Blind.bind {α β : Type} {scan : List Char → Option (α × List Char)}
    {g : α → List Char → Option (β × List Char)} (hscan : Blind scan) (hg : ∀ a, Blind (g a)) :
    Blind fun cs => (scan cs).bind fun x => g x.1 x.2 := by
  intro rest hrest cs
  dsimp only
  rw [hscan hrest, Option.bind_map, Option.map_bind]
  exact Option.bind_congr fun ⟨a, left⟩ _ => hg a hrest left

/-- A scanner that leaves the end of its text, and whatever else stands behind it if that goes on
with no number. -/
structure Bounded {α : Type} (scan : List Char → Option (α × List Char)) : Prop where
  suffix : ∀ {cs : List Char} {a : α} {r : List Char}, scan cs = some (a, r) → r <:+ cs
  append : ∀ {cs : List Char} {a : α} {r rest : List Char}, EndsNumber rest →
    scan cs = some (a, r) → scan (cs ++ rest) = some (a, r ++ rest)

theorem spanDigits_append {rest : List Char} (h : EndsNumber rest) (cs : List Char) :
    spanDigits (cs ++ rest) = ((spanDigits cs).1, (spanDigits cs).2 ++ rest) := by
  induction cs with
  | nil =>
    cases rest with
    | nil => rfl
    | cons c rest =>
      have hc : c.isDigit = false := by
        have := h c rfl
        simp only [isNumberChar, Bool.or_eq_false_iff] at this
        exact this.1.1.1.1.1
      simp [spanDigits, hc]
  | cons c cs ih =>
    simp only [spanDigits, Prod.mk.injEq] at ih ⊢
    cases hc : c.isDigit <;> simp [hc, ih]

theorem blind_whole : Blind whole? := by
  intro rest hrest cs
  unfold whole?
  rw [spanDigits_append hrest]
  rcases spanDigits cs with ⟨_ | ⟨c, _ | ⟨d, digits⟩⟩, left⟩
  · rfl
  · split <;> simp_all [andBehind]
  · by_cases hc : c = '0'
    · subst hc
      rfl
    · split <;> split <;> simp_all [andBehind]

/-- Scanning a whole part stays within the number. -/
theorem bounded_whole : Bounded whole? where
  suffix := by
    intro cs a r h
    unfold whole? at h
    split at h
    · cases h
    · cases h
    · cases h
      exact List.dropWhile_suffix _
  append := blind_whole.append

theorem spanDigits_suffix {cs digits r : List Char} (h : spanDigits cs = (digits, r)) :
    r <:+ cs := by
  cases h
  exact List.dropWhile_suffix _

theorem fraction?_of_ne {c : Char} (hc : c ≠ '.') (cs : List Char) :
    fraction? (c :: cs) = some (none, c :: cs) := by
  unfold fraction?
  split
  · simp_all
  · rfl

theorem blind_fraction : Blind fraction? := by
  intro rest hrest cs
  cases cs with
  | nil =>
    cases rest with
    | nil => rfl
    | cons c rest =>
      refine fraction?_of_ne ?_ rest
      rintro rfl
      exact absurd (hrest '.' rfl) (by decide)
  | cons c cs =>
    by_cases hc : c = '.'
    · subst hc
      simp only [List.cons_append, fraction?, spanDigits_append hrest]
      rcases spanDigits cs with ⟨_ | ⟨d, digits⟩, left⟩ <;> rfl
    · rw [List.cons_append, fraction?_of_ne hc, fraction?_of_ne hc]
      rfl

theorem bounded_fraction : Bounded fraction? where
  suffix := by
    intro cs a r h
    unfold fraction? at h
    split at h
    · split at h
      · cases h
      · rename_i hspan
        cases h
        exact (spanDigits_suffix hspan).trans (List.suffix_cons _ _)
    · cases h
      exact List.suffix_rfl
  append := blind_fraction.append

/-- An exponent behind its mark: a sign, and at least one digit. -/
theorem exponent?_mark {c : Char} (hc : c = 'e' ∨ c = 'E') (cs : List Char) :
    exponent? (c :: cs) =
      match spanDigits (Literal.sign cs).2 with
      | ([], _) => none
      | (digits, rest) =>
        some (some ((Literal.sign cs).1, digits.foldl (fun n c => 10 * n + digitValue c) 0),
          rest) :=
  if_pos hc

theorem exponent?_other {c : Char} (hc : ¬(c = 'e' ∨ c = 'E')) (cs : List Char) :
    exponent? (c :: cs) = some (none, c :: cs) := if_neg hc

theorem sign_suffix (cs : List Char) : (Literal.sign cs).2 <:+ cs := by
  unfold Literal.sign
  split <;> simp

theorem sign_append {rest : List Char} (h : EndsNumber rest) (cs : List Char) :
    Literal.sign (cs ++ rest) = ((Literal.sign cs).1, (Literal.sign cs).2 ++ rest) := by
  cases cs with
  | nil =>
    rw [List.nil_append]
    unfold Literal.sign
    split
    · exact absurd (h '-' rfl) (by decide)
    · exact absurd (h '+' rfl) (by decide)
    · rfl
  | cons c cs =>
    unfold Literal.sign
    split <;> simp_all

theorem blind_exponent : Blind exponent? := by
  intro rest hrest cs
  cases cs with
  | nil =>
    cases rest with
    | nil => rfl
    | cons c rest =>
      refine exponent?_other ?_ rest
      rintro (rfl | rfl) <;> exact absurd (hrest _ rfl) (by decide)
  | cons c cs =>
    rw [List.cons_append]
    by_cases hc : c = 'e' ∨ c = 'E'
    · rw [exponent?_mark hc, exponent?_mark hc, sign_append hrest, spanDigits_append hrest]
      rcases spanDigits (Literal.sign cs).2 with ⟨_ | ⟨d, digits⟩, left⟩ <;> rfl
    · rw [exponent?_other hc, exponent?_other hc]
      rfl

theorem bounded_exponent : Bounded exponent? where
  suffix := by
    intro cs a r h
    cases cs with
    | nil =>
      cases h
      exact List.suffix_rfl
    | cons c cs =>
      by_cases hc : c = 'e' ∨ c = 'E'
      · rw [exponent?_mark hc] at h
        split at h
        · cases h
        · rename_i hspan
          cases h
          exact (spanDigits_suffix hspan).trans ((sign_suffix cs).trans (List.suffix_cons c cs))
      · rw [exponent?_other hc] at h
        cases h
        exact List.suffix_rfl
  append := blind_exponent.append

/-! ## Literals -/

/-- What a literal stands for, by its whole part, its fraction and its exponent. -/
def literalValue (negative : Bool) (whole : List Char) (fraction : Option (List Char))
    (exponent : Option (Bool × Nat)) : Option Json :=
  let g := gatherWhole 0 whole
  match fraction, exponent with
  | none, none =>
    if g.exponent = 0 ∧ ¬ negative then some (.int g.significand)
    else if g.exponent = 0 ∧ 0 < g.significand ∧ g.significand ≤ Nat.pow 2 63 then
      some (.int (-(g.significand : Int)))
    else (scaled? g).map (signedDouble negative)
  | fraction, exponent =>
    (magnitude? (gatherFraction g (fraction.getD [])) exponent).map (signedDouble negative)

/-- A literal stands for no array and no object. -/
theorem shape_literalValue {negative : Bool} {whole : List Char} {fraction : Option (List Char)}
    {exponent : Option (Bool × Nat)} {value : Json}
    (h : literalValue negative whole fraction exponent = some value) :
    value.shape = .literal (some value) := by
  have hdouble {x : Option Double} (h : x.map (signedDouble negative) = some value) :
      value.shape = .literal (some value) := by
    obtain ⟨y, -, rfl⟩ := Option.map_eq_some_iff.mp h
    rfl
  unfold literalValue at h
  split at h
  · dsimp only at h
    split at h
    · cases h
      rfl
    · split at h
      · cases h
        rfl
      · exact hdouble h
  · exact hdouble h

/-- A literal is its whole part, its fraction and its exponent, in this order. -/
theorem magnitudeLiteral?_eq (negative : Bool) (cs : List Char) :
    magnitudeLiteral? negative cs = (do
      let (whole, rest) ← whole? cs
      let (fraction, rest) ← fraction? rest
      let (exponent, rest) ← exponent? rest
      pure (literalValue negative whole fraction exponent, rest)) := by
  refine bind_congr fun ⟨whole, _⟩ => bind_congr fun ⟨fraction, _⟩ =>
    bind_congr fun ⟨exponent, _⟩ => ?_
  unfold literalValue
  cases fraction with
  | some => rfl
  | none =>
    cases exponent with
    | some => rfl
    | none =>
      dsimp only
      split
      · rfl
      · split <;> rfl

theorem blind_magnitudeLiteral (negative : Bool) : Blind (magnitudeLiteral? negative) := by
  have hparts := blind_whole.bind fun whole => blind_fraction.bind fun fraction =>
    blind_exponent.bind (g := fun exponent left =>
      some (literalValue negative whole fraction exponent, left)) fun _ _ _ _ => rfl
  intro rest hrest cs
  rw [magnitudeLiteral?_eq, magnitudeLiteral?_eq]
  exact hparts hrest cs

theorem bounded_magnitudeLiteral (negative : Bool) : Bounded (magnitudeLiteral? negative) where
  suffix := by
    intro cs a r h
    simp only [magnitudeLiteral?_eq, Option.bind_eq_bind, Option.bind_eq_some_iff] at h
    obtain ⟨⟨whole, r₁⟩, hwhole, ⟨fraction, r₂⟩, hfraction, ⟨exponent, r₃⟩, hexponent, hr⟩ := h
    cases hr
    exact (bounded_exponent.suffix hexponent).trans
      ((bounded_fraction.suffix hfraction).trans (bounded_whole.suffix hwhole))
  append := (blind_magnitudeLiteral negative).append

theorem blind_numberLiteral : Blind numberLiteral? := by
  intro rest hrest cs
  have hplain {c : Char} (hc : c ≠ '-') (cs : List Char) :
      numberLiteral? (c :: cs) = magnitudeLiteral? false (c :: cs) := by
    unfold numberLiteral?
    split
    · simp_all
    · rfl
  cases cs with
  | nil =>
    cases rest with
    | nil => rfl
    | cons c rest =>
      have hc : c ≠ '-' := by
        rintro rfl
        exact absurd (hrest '-' rfl) (by decide)
      exact (hplain hc rest).trans (blind_magnitudeLiteral false hrest [])
  | cons c cs =>
    by_cases hc : c = '-'
    · subst hc
      exact blind_magnitudeLiteral true hrest cs
    · rw [List.cons_append, hplain hc, hplain hc]
      exact blind_magnitudeLiteral false hrest (c :: cs)

/-- Scanning a literal stays within the number. -/
theorem bounded_numberLiteral : Bounded numberLiteral? where
  suffix := by
    intro cs a r h
    unfold numberLiteral? at h
    split at h
    · exact ((bounded_magnitudeLiteral _).suffix h).trans (List.suffix_cons _ _)
    · exact (bounded_magnitudeLiteral _).suffix h
  append := blind_numberLiteral.append

theorem shape_magnitudeLiteral {negative : Bool} {cs r : List Char} {value : Json}
    (h : magnitudeLiteral? negative cs = some (some value, r)) :
    value.shape = .literal (some value) := by
  simp only [magnitudeLiteral?_eq, Option.bind_eq_bind, Option.bind_eq_some_iff] at h
  obtain ⟨_, _, _, _, _, _, hr⟩ := h
  exact shape_literalValue (congrArg Prod.fst (Option.some.inj hr))

theorem shape_numberLiteral {cs r : List Char} {value : Json}
    (h : numberLiteral? cs = some (some value, r)) : value.shape = .literal (some value) := by
  unfold numberLiteral? at h
  split at h <;> exact shape_magnitudeLiteral h

/-! ## Integers -/

theorem le_ofDigitChars (ds : List Char) (n : Nat) : n ≤ Nat.ofDigitChars 10 ds n := by
  induction ds generalizing n with
  | nil => exact Nat.le_refl n
  | cons c rest ih =>
    rw [Nat.ofDigitChars_cons]
    exact Nat.le_trans (by omega) (ih _)

theorem extend?_eq {n m : Nat} {c : Char} (h : m = 10 * n + (c.toNat - '0'.toNat))
    (hm : m < Nat.pow 2 64) : extend? n c = some m := by
  have hnext : n * 10 + digitValue c = m := by rw [h, Nat.mul_comm, digitValue]
  subst hnext
  exact if_pos hm

/-- A digit is taken in while it fits, and from the first that does not fit on, digits are counted.
-/
theorem gatherWhole_cons_eq (n : Nat) (c : Char) (rest : List Char) :
    gatherWhole n (c :: rest) =
      match extend? n c with
      | some next => gatherWhole next rest
      | none => ⟨n, (rest.length + 1 : Nat)⟩ := by
  -- Unfolded by the simplifier, the bound `2 ^ 64` would be evaluated.
  show (match extend? n c with
    | some next => gatherWhole next rest
    | none => ⟨n, (rest.length + 1 : Nat)⟩) = _
  rfl

theorem gatherWhole_cons {n m : Nat} {c : Char} (h : extend? n c = some m) (rest : List Char) :
    gatherWhole n (c :: rest) = gatherWhole m rest := by
  rw [gatherWhole_cons_eq, h]

/-- Digits of a number below `2^64` are gathered into the number. -/
theorem gatherWhole_eq {ds : List Char} {n : Nat} (h : Nat.ofDigitChars 10 ds n < Nat.pow 2 64) :
    gatherWhole n ds = ⟨Nat.ofDigitChars 10 ds n, 0⟩ := by
  induction ds generalizing n with
  | nil => rfl
  | cons c rest ih =>
    rw [Nat.ofDigitChars_cons] at h ⊢
    have hextend := extend?_eq rfl (Nat.lt_of_le_of_lt (le_ofDigitChars rest _) h)
    rw [gatherWhole_cons hextend]
    exact ih h

theorem head?_toDigits {n : Nat} (h : 0 < n) : (Nat.toDigits 10 n).head? ≠ some '0' := by
  induction n using Nat.strongRecOn with
  | _ n ih =>
    rw [Nat.toDigits_eq_if (by decide)]
    split
    · rename_i hn
      have hdigit : ∀ m < 10, 0 < m → ([m.digitChar].head? ≠ some '0') := by decide
      exact hdigit n hn h
    · rw [List.head?_append, Option.or_of_isSome (List.isSome_head?.mpr Nat.toDigits_ne_nil)]
      exact ih (n / 10) (by omega) (by omega)

theorem whole?_toDigits (n : Nat) : whole? (Nat.toDigits 10 n) = some (Nat.toDigits 10 n, []) := by
  have hdigits : ∀ c ∈ Nat.toDigits 10 n, c.isDigit = true :=
    fun c hc => Nat.isDigit_of_mem_toDigits (by decide) (by decide) hc
  have hspan : spanDigits (Nat.toDigits 10 n) = (Nat.toDigits 10 n, []) := by
    rw [spanDigits, List.takeWhile_eq_self_iff.mpr hdigits, List.dropWhile_eq_nil_iff.mpr hdigits]
  unfold whole?
  rw [hspan]
  split
  · rename_i heq
    exact absurd (congrArg Prod.fst heq) Nat.toDigits_ne_nil
  · rename_i c rest _ heq
    have hzero : Nat.toDigits 10 n = '0' :: c :: rest := congrArg Prod.fst heq
    rcases Nat.eq_zero_or_pos n with rfl | hn
    · cases hzero
    · exact absurd (by rw [hzero]; rfl) (head?_toDigits hn)
  · rfl

theorem magnitudeLiteral?_toDigits (negative : Bool) (n : Nat) :
    magnitudeLiteral? negative (Nat.toDigits 10 n) =
      some (literalValue negative (Nat.toDigits 10 n) none none, []) := by
  rw [magnitudeLiteral?_eq, whole?_toDigits]
  rfl

/-- Digits of sixty-four bits are gathered without loss. -/
theorem gatherWhole_toDigits {n : Nat} (h : n < Nat.pow 2 64) :
    gatherWhole 0 (Nat.toDigits 10 n) = ⟨n, 0⟩ := by
  rw [gatherWhole_eq (by rwa [Nat.ofDigitChars_ten_toDigits]), Nat.ofDigitChars_ten_toDigits]

/-- Digits of sixty-four bits stand for their number. -/
theorem literalValue_natural {n : Nat} (h : n < Nat.pow 2 64) :
    literalValue false (Nat.toDigits 10 n) none none = some (.int n) := by
  simp [literalValue, gatherWhole_toDigits h]

theorem literalValue_negative {n : Nat} (hpos : 0 < n) (h : n ≤ Nat.pow 2 63) :
    literalValue true (Nat.toDigits 10 n) none none = some (.int (-n)) := by
  have hlt : n < Nat.pow 2 64 := Nat.lt_of_le_of_lt h (by decide)
  unfold literalValue
  rw [gatherWhole_toDigits hlt]
  dsimp only
  rw [if_neg (fun hsign => hsign.2 rfl), if_pos ⟨rfl, hpos, h⟩]

/-! ## Literals as values -/

/-- A text of the characters of number literals. -/
def IsNumeric (s : String) : Prop := ∀ c ∈ s.toList, isNumberChar c = true

theorem isNumberChar_of_isSpace {c : Char} (h : isSpace c = true) : isNumberChar c = false := by
  simp only [isSpace, Bool.or_eq_true, decide_eq_true_eq] at h
  rcases h with ((rfl | rfl) | rfl) | rfl <;> decide

theorem skipSpace_numeric {c : Char} (hc : isNumberChar c = true) (cs : List Char) :
    skipSpace (c :: cs) = c :: cs := by
  refine List.dropWhile_cons_of_neg ?_
  intro hspace
  rw [isNumberChar_of_isSpace hspace] at hc
  cases hc

/-- What begins like a number is read as one. -/
theorem value?_numeric {c : Char} (hc : isNumberChar c = true) (fuel : Nat) (cs : List Char) :
    value? (fuel + 1) (c :: cs) =
      (numberLiteral? (c :: cs)).map fun (value, rest) => (.literal value, rest) := by
  have hne {d : Char} (hd : isNumberChar d = false) : c ≠ d := by
    rintro rfl
    rw [hc] at hd
    cases hd
  rw [value?, skipSpace_numeric hc]
  split
  all_goals first
    | rfl
    | (rename_i heq; exact absurd (List.cons.inj heq).1 (hne (by decide)))
    | (rename_i heq; cases heq)

/-- A numeric text that stands for a value is one literal. -/
theorem parse_eq_some_iff {s : String} (h : IsNumeric s) {value : Json} :
    parse s = some value ↔ numberLiteral? s.toList = some (some value, []) := by
  unfold parse read
  cases hcs : s.toList with
  | nil => constructor <;> (intro hnone; cases hnone)
  | cons c cs =>
    simp only [value?_numeric (h c (hcs ▸ List.mem_cons_self))]
    cases hliteral : numberLiteral? (c :: cs) with
    | none => constructor <;> (intro hnone; cases hnone)
    | some found =>
      obtain ⟨v, rest⟩ := found
      have hrest : (skipSpace rest).isEmpty = true ↔ rest = [] := by
        cases rest with
        | nil => exact ⟨fun _ => rfl, fun _ => rfl⟩
        | cons d rest =>
          have hd : d ∈ c :: cs := (bounded_numberLiteral.suffix hliteral).subset List.mem_cons_self
          simp [skipSpace_numeric (h d (hcs ▸ hd))]
      simp only [Option.map_some, hrest]
      split
      · rename_i hnil
        simp [hnil, Shape.settle]
      · rename_i hnil
        simp [hnil]

/-- A numeric text that stands for a value is read as it wherever a number may end. -/
theorem value?_of_parse {s : String} (h : IsNumeric s) {value : Json}
    (hparse : parse s = some value) {rest : List Char} (hrest : EndsNumber rest) (fuel : Nat) :
    value? (fuel + 1) (s.toList ++ rest) = some (value.shape, rest) := by
  have hliteral := (parse_eq_some_iff h).mp hparse
  rw [shape_numberLiteral hliteral]
  cases hcs : s.toList with
  | nil =>
    rw [hcs] at hliteral
    cases hliteral
  | cons c cs =>
    rw [List.cons_append, value?_numeric (h c (hcs ▸ List.mem_cons_self)), ← List.cons_append,
      ← hcs, bounded_numberLiteral.append hrest hliteral]
    rfl

theorem toList_ofNat (n : Nat) : (toString (Int.ofNat n)).toList = Nat.toDigits 10 n := by
  rw [show toString (Int.ofNat n) = n.repr from rfl, Nat.repr_eq_ofList_toDigits,
    String.toList_ofList]

theorem toList_negSucc (n : Nat) :
    (toString (Int.negSucc n)).toList = '-' :: Nat.toDigits 10 (n + 1) := by
  rw [show toString (Int.negSucc n) = "-" ++ (n + 1).repr from rfl, Nat.repr_eq_ofList_toDigits,
    String.toList_append, String.toList_ofList]
  exact congrArg _ String.toList_ofList

/-- An integer is read as itself. -/
theorem numberLiteral?_toString {i : Int} (hlow : -(2 ^ 63 : Int) ≤ i) (hhigh : i < 2 ^ 64) :
    numberLiteral? (toString i).toList = some (some (.int i), []) := by
  cases i with
  | ofNat n =>
    have hn : n < Nat.pow 2 64 := by
      show n < 2 ^ 64
      simp only [Int.ofNat_eq_natCast] at hhigh
      omega
    have hplus : numberLiteral? (Nat.toDigits 10 n) =
        magnitudeLiteral? false (Nat.toDigits 10 n) := by
      unfold numberLiteral?
      split
      · rename_i hminus
        have hdigit := Nat.isDigit_of_mem_toDigits (b := 10) (n := n) (c := '-') (by decide)
          (by decide) (by rw [hminus]; exact List.mem_cons_self)
        exact absurd hdigit (by decide)
      · rfl
    rw [toList_ofNat, hplus, magnitudeLiteral?_toDigits, literalValue_natural hn]
    rfl
  | negSucc n =>
    have hn : n + 1 ≤ Nat.pow 2 63 := by
      show n + 1 ≤ 2 ^ 63
      omega
    rw [toList_negSucc, show numberLiteral? ('-' :: Nat.toDigits 10 (n + 1)) =
      magnitudeLiteral? true (Nat.toDigits 10 (n + 1)) from rfl, magnitudeLiteral?_toDigits,
      literalValue_negative (Nat.succ_pos n) hn]
    rfl

/-! ## The texts of numbers -/

theorem isNumberChar_of_isDigit {c : Char} (h : c.isDigit = true) : isNumberChar c = true := by
  simp [isNumberChar, h]

theorem isNumberChar_of_mem_digitText {n : Nat} {c : Char} (h : c ∈ Decimal.digitText n) :
    isNumberChar c = true :=
  isNumberChar_of_isDigit (Nat.isDigit_of_mem_toDigits (by decide) (by decide) h)

/-- The text of an integer consists of characters of number literals. -/
theorem isNumeric_toString (i : Int) : IsNumeric (toString i) := by
  intro c hc
  cases i with
  | ofNat n =>
    rw [toList_ofNat] at hc
    exact isNumberChar_of_mem_digitText hc
  | negSucc n =>
    rw [toList_negSucc] at hc
    rcases List.mem_cons.mp hc with rfl | hc
    · decide
    · exact isNumberChar_of_mem_digitText hc

/-- An integer of sixty-four bits is read back from its text. -/
theorem parse_toString {i : Int} (hlow : -(2 ^ 63 : Int) ≤ i) (hhigh : i < 2 ^ 64) :
    parse (toString i) = some (.int i) :=
  (parse_eq_some_iff (isNumeric_toString i)).mpr (numberLiteral?_toString hlow hhigh)

theorem isNumberChar_of_mem_positional {d : Decimal} {c : Char}
    (h : c ∈ d.positional ['.', '0']) : isNumberChar c = true := by
  have hdigits {n : Nat} (hc : c ∈ Decimal.digitText n) := isNumberChar_of_mem_digitText hc
  have hzero {n : Nat} (hc : c ∈ List.replicate n '0') : isNumberChar c = true := by
    rw [List.eq_of_mem_replicate hc]
    decide
  unfold Decimal.positional at h
  dsimp only at h
  split at h
  · simp only [List.mem_append, List.mem_cons, List.not_mem_nil, or_false] at h
    rcases h with (h | h) | rfl | rfl
    · exact hdigits h
    · exact hzero h
    all_goals decide
  · split at h
    · simp only [List.mem_cons, List.mem_append] at h
      rcases h with rfl | rfl | h | h
      · decide
      · decide
      · exact hzero h
      · exact hdigits h
    · simp only [List.mem_append, List.mem_cons] at h
      rcases h with h | rfl | h
      · exact hdigits (List.mem_of_mem_take h)
      · decide
      · exact hdigits (List.mem_of_mem_drop h)

theorem isNumberChar_of_mem_scientific {d : Decimal} {c : Char} (h : c ∈ d.scientific) :
    isNumberChar c = true := by
  have hdigits {n : Nat} (hc : c ∈ Decimal.digitText n) := isNumberChar_of_mem_digitText hc
  unfold Decimal.scientific at h
  simp only [List.mem_append, List.mem_cons] at h
  rcases h with h | rfl | rfl | h
  · split at h
    · cases h
    · rename_i hone
      exact hdigits (hone ▸ h)
    · rename_i first rest _ hmany
      rcases List.mem_cons.mp h with rfl | h
      · exact hdigits (hmany ▸ List.mem_cons_self)
      · rcases List.mem_cons.mp h with rfl | h
        · decide
        · exact hdigits (hmany ▸ List.mem_cons_of_mem _ h)
  · decide
  · split <;> decide
  · exact hdigits h

theorem isNumeric_documentText {w : Width} (x : Binary w) : IsNumeric x.documentText := by
  intro c hc
  unfold Binary.documentText Binary.signed at hc
  dsimp only at hc
  rw [String.toList_ofList] at hc
  have hmagnitude : c ∈ (if w.isPositional (x.shortest .even).leading then
      (x.shortest .even).positional ['.', '0'] else (x.shortest .even).scientific) →
      isNumberChar c = true := by
    intro hc
    split at hc
    · exact isNumberChar_of_mem_positional hc
    · exact isNumberChar_of_mem_scientific hc
  split at hc
  · rcases List.mem_cons.mp hc with rfl | hc
    · decide
    · exact hmagnitude hc
  · exact hmagnitude hc

end Ontograph.Json
