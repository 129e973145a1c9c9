/-
Ontograph.Proofs.Number.Display — numbers in running text, read back from it.

A text of digits with a point, perhaps behind a sign, has a value
(`Literal.value?`), whatever made it. The text of an integer has the integer for
its value and that of a finite number the value of the digits that are selected
for it, so numbers that are shown with different values have different texts.
None of these texts is blank.
-/
import Ontograph.Number.Literal
import Ontograph.Number.Notation
import Ontograph.Proofs.Json.Number
import Ontograph.Proofs.Number.Shortest
import Ontograph.Text.Blank

namespace Ontograph

theorem Text.isDigit_of_isBlank {c : Char} (h : isBlank c = true) : c.isDigit = false := by
  rw [Bool.eq_false_iff]
  intro hdigit
  simp only [Char.isDigit, Bool.and_eq_true, decide_eq_true_eq, UInt32.le_iff_toNat_le] at hdigit
  have hlow : 48 ≤ c.toNat := hdigit.1
  have hhigh : c.toNat ≤ 57 := hdigit.2
  simp only [isBlank, inRanges, blankRanges, List.any_cons, List.any_nil, Bool.or_false,
    Bool.or_eq_true, Bool.and_eq_true, decide_eq_true_eq] at h
  omega

namespace Literal

/-! ## Reading -/

/-- Digits are read as the number in base ten. -/
theorem natural?_eq {cs : List Char} (hne : cs ≠ []) (h : ∀ c ∈ cs, c.isDigit = true) :
    natural? cs = some (Nat.ofDigitChars 10 cs 0) := by
  have hsome : (cs.isEmpty || !cs.all Char.isDigit) = false := by
    rw [List.all_eq_true.mpr h, Bool.not_true, Bool.or_false, List.isEmpty_eq_false_iff]
    exact hne
  rw [natural?, hsome]
  rfl

theorem mantissa?_whole {cs : List Char} (hne : cs ≠ []) (h : ∀ c ∈ cs, c.isDigit = true) :
    mantissa? cs = some ⟨Nat.ofDigitChars 10 cs 0, 0⟩ := by
  simp only [mantissa?, List.takeWhile_eq_self_iff.mpr h, List.dropWhile_eq_nil_iff.mpr h,
    natural?_eq hne h, Option.map_some]

/-- Digits behind a point lower the exponent. -/
theorem mantissa?_point {whole fraction : List Char} (hne : whole ≠ [])
    (hwhole : ∀ c ∈ whole, c.isDigit = true) (hfraction : ∀ c ∈ fraction, c.isDigit = true) :
    mantissa? (whole ++ '.' :: fraction) =
      some ⟨Nat.ofDigitChars 10 (whole ++ fraction) 0, -(fraction.length : Int)⟩ := by
  have hpoint : '.'.isDigit = false := by decide
  have htake : (whole ++ '.' :: fraction).takeWhile Char.isDigit = whole := by
    rw [List.takeWhile_append_of_pos hwhole, List.takeWhile_cons, hpoint]
    exact List.append_nil whole
  have hdrop : (whole ++ '.' :: fraction).dropWhile Char.isDigit = '.' :: fraction := by
    rw [List.dropWhile_append_of_pos hwhole, List.dropWhile_cons, hpoint]
    rfl
  have hdigits := natural?_eq (List.append_ne_nil_of_left_ne_nil hne fraction)
    (List.forall_mem_append.mpr ⟨hwhole, hfraction⟩)
  simp only [mantissa?, htake, hdrop, List.all_eq_true.mpr hfraction, if_true, hdigits,
    Option.map_some]

def value? (s : String) : Option ℚ :=
  let (negative, body) := sign s.toList
  (mantissa? body).map fun d => if negative then -d.value else d.value

/-- Digits do not begin with a sign. -/
theorem sign_of_mantissa? {cs : List Char} {d : Decimal} (h : mantissa? cs = some d) :
    sign cs = (false, cs) := by
  unfold sign
  split
  · cases h
  · cases h
  · rfl

theorem value?_ofList {cs : List Char} {d : Decimal} (h : mantissa? cs = some d) :
    value? (String.ofList cs) = some d.value := by
  rw [value?, String.toList_ofList, sign_of_mantissa? h]
  simp only [h, Option.map_some, Bool.false_eq_true, if_false]

theorem value?_minus {cs : List Char} {d : Decimal} (h : mantissa? cs = some d) :
    value? (String.ofList ('-' :: cs)) = some (-d.value) := by
  rw [value?, String.toList_ofList]
  simp only [sign, h, Option.map_some, if_true]

/-- What begins with neither a digit nor a point is no number. -/
theorem mantissa?_cons_eq_none {c : Char} (hdigit : c.isDigit = false) (hpoint : c ≠ '.')
    (rest : List Char) : mantissa? (c :: rest) = none := by
  unfold mantissa?
  rw [List.dropWhile_cons, hdigit]
  dsimp only
  split
  · rename_i heq
    cases heq
  · rename_i heq
    cases heq
    exact absurd rfl hpoint
  · rfl

/-- A text with a value begins with a sign, a digit or a point. -/
theorem isBlankText_of_value? {s : String} {x : ℚ} (h : value? s = some x) :
    Text.isBlankText s = false := by
  cases hs : s.toList with
  | nil =>
    rw [value?, hs] at h
    cases h
  | cons c rest =>
    have hblank : Text.isBlank c = false := by
      rw [Bool.eq_false_iff]
      intro hblank
      have hne {d : Char} (hd : Text.isBlank d = false) : c ≠ d := by
        rintro rfl
        exact absurd (hblank.symm.trans hd) (by decide)
      have hsign : sign (c :: rest) = (false, c :: rest) := by
        unfold sign
        split
        · rename_i heq
          exact absurd (List.cons.inj heq).1 (hne (by decide))
        · rename_i heq
          exact absurd (List.cons.inj heq).1 (hne (by decide))
        · rfl
      rw [value?, hs, hsign] at h
      dsimp only at h
      rw [mantissa?_cons_eq_none (Text.isDigit_of_isBlank hblank) (hne (by decide))] at h
      cases h
    simp [Text.isBlankText, hs, hblank]

end Literal

/-! ## Positional digits -/

namespace Decimal

theorem isDigit_of_mem_digitText {n : Nat} : ∀ c ∈ digitText n, c.isDigit = true :=
  fun _ hc => Nat.isDigit_of_mem_toDigits (by decide) (by decide) hc

theorem isDigit_of_mem_zeros {n : Nat} : ∀ c ∈ List.replicate n '0', c.isDigit = true := by
  intro c hc
  rw [List.eq_of_mem_replicate hc]
  decide

/-- Positional digits are read with the value of the decimal. -/
theorem exists_mantissa?_positional (d : Decimal) :
    ∃ read, Literal.mantissa? (d.positional []) = some read ∧ read.value = d.value := by
  have hne : digitText d.digits ≠ [] := Nat.toDigits_ne_nil
  have hdigits := isDigit_of_mem_digitText (n := d.digits)
  have hnumber : Nat.ofDigitChars 10 (digitText d.digits) 0 = d.digits :=
    Nat.ofDigitChars_ten_toDigits
  unfold positional
  dsimp only
  split
  · -- zeros stand behind the digits
    rename_i hexponent
    rw [List.append_nil]
    refine ⟨_, Literal.mantissa?_whole (List.append_ne_nil_of_left_ne_nil hne _)
      (List.forall_mem_append.mpr ⟨hdigits, isDigit_of_mem_zeros⟩), ?_⟩
    rw [Nat.ofDigitChars_append, hnumber, Nat.ofDigitChars_replicate_zero, value, value, zpow_zero,
      mul_one, Nat.cast_mul, Nat.cast_pow, mul_comm, ← zpow_natCast, Int.toNat_of_nonneg hexponent]
    rfl
  · rename_i hexponent
    split
    · -- zeros stand in front of them, behind the point
      rename_i hplaces
      let zeros := List.replicate ((-d.exponent).toNat - (digitText d.digits).length) '0'
      have hlength : (zeros ++ digitText d.digits).length = (-d.exponent).toNat := by
        rw [List.length_append, List.length_replicate]
        omega
      refine ⟨_, Literal.mantissa?_point (List.cons_ne_nil '0' [])
        (List.forall_mem_singleton.mpr (by decide))
        (List.forall_mem_append.mpr ⟨isDigit_of_mem_zeros, hdigits⟩), ?_⟩
      have hvalue : Nat.ofDigitChars 10 (['0'] ++ (zeros ++ digitText d.digits)) 0 = d.digits := by
        rw [Nat.ofDigitChars_append, Nat.ofDigitChars_append, Nat.ofDigitChars_replicate_zero]
        exact hnumber
      rw [hvalue, hlength, value, value]
      dsimp only
      congr 2
      omega
    · -- the point stands among the digits
      rename_i hplaces
      let front := (digitText d.digits).length - (-d.exponent).toNat
      have hfront : (digitText d.digits).take front ≠ [] := by
        rw [ne_eq, List.take_eq_nil_iff, not_or]
        exact ⟨by omega, hne⟩
      have hlength : ((digitText d.digits).drop front).length = (-d.exponent).toNat := by
        rw [List.length_drop]
        omega
      refine ⟨_, Literal.mantissa?_point hfront (fun c hc => hdigits c (List.mem_of_mem_take hc))
        (fun c hc => hdigits c (List.mem_of_mem_drop hc)), ?_⟩
      rw [List.take_append_drop, hnumber, hlength, value, value]
      dsimp only
      congr 2
      omega

end Decimal

/-! ## Texts of numbers -/

namespace Binary

variable {w : Width}

def shown (x : Binary w) : ℚ :=
  if x.negative then -(x.shortest .up).value else (x.shortest .up).value

/-- The text of a finite number has the value of its digits. -/
theorem value?_displayText {x : Binary w} (h : x.isFinite = true) :
    Literal.value? x.displayText = some x.shown := by
  have hnumber : x.isNaN = false := by
    simp only [isFinite, decide_eq_true_eq] at h
    simp only [isNaN, decide_eq_false_iff_not]
    omega
  obtain ⟨read, hread, hvalue⟩ := (x.shortest .up).exists_mantissa?_positional
  rw [displayText, hnumber, h, signed, shown, ← hvalue]
  cases x.negative with
  | false => exact Literal.value?_ofList hread
  | true => exact Literal.value?_minus hread

end Binary

/-- The text of an integer has the integer for its value. -/
theorem Literal.value?_toString (i : Int) : value? (toString i) = some (i : ℚ) := by
  have hnatural (n : Nat) : mantissa? (Nat.toDigits 10 n) = some ⟨n, 0⟩ := by
    rw [mantissa?_whole Nat.toDigits_ne_nil Decimal.isDigit_of_mem_digitText,
      Nat.ofDigitChars_ten_toDigits]
  have hvalue (n : Nat) : Decimal.value ⟨n, 0⟩ = n := by
    rw [Decimal.value, zpow_zero, mul_one]
  rw [← String.ofList_toList (s := toString i)]
  cases i with
  | ofNat n =>
    rw [Json.toList_ofNat, value?_ofList (hnatural n), hvalue]
    rfl
  | negSucc n =>
    rw [Json.toList_negSucc, value?_minus (hnatural (n + 1)), hvalue, Int.cast_negSucc]

end Ontograph
