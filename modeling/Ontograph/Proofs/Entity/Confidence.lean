/-
Ontograph.Proofs.Entity.Confidence — confidences lie between zero and one.

Clamping is done on the places of numbers on the number line, which are their
codes with a sign. That a place lies between those of zero and one says that
the number does: it is finite, it is not negative unless it is zero, and its
magnitude is a quotient of at most one (`InUnit`).

A confidence is stored as a double. Up to one, a number is widened without loss
(`widens_convert`), so the double has the value of the clamped confidence
(`Stands`).
-/
import Ontograph.Entity.Basic
import Ontograph.Proofs.Number.Fraction

namespace Ontograph.Confidence

/-- A number lies between zero and one. -/
structure InUnit (x : Single) : Prop where
  finite : x.isFinite = true
  nonneg : x.negative = true → x.isZero = true
  le_one : x.ratio.1 ≤ x.ratio.2

def one : Int := 1065353216

/-- A number is moved to the nearest place between zero and one. -/
theorem position_clamp_of_number {x : Single} (h : x.isNaN = false) :
    (clamp x).position = max 0 (min x.position one) := by
  have hzero : (Binary.zero : Single).isNaN = false ∧ (Binary.zero : Single).position = 0 := by
    decide
  have hone : certain.isNaN = false ∧ certain.position = one := by decide
  have hlow : x.less .zero = decide (x.position < 0) := by simp [Binary.less, h, hzero]
  have hhigh : certain.less x = decide (one < x.position) := by simp [Binary.less, h, hone]
  rw [clamp, if_neg (by simp [h]), Binary.clamp, hlow, hhigh]
  by_cases hneg : x.position < 0
  · rw [if_pos (decide_eq_true hneg), hzero.2]
    omega
  · by_cases hbig : one < x.position
    · rw [if_neg (by simpa using hneg), if_pos (decide_eq_true hbig), hone.2]
      unfold one at *
      omega
    · rw [if_neg (by simpa using hneg), if_neg (by simpa using hbig)]
      omega

theorem position_clamp (x : Single) : 0 ≤ (clamp x).position ∧ (clamp x).position ≤ one := by
  cases hnan : x.isNaN with
  | true =>
    rw [clamp, if_pos hnan]
    decide
  | false =>
    rw [position_clamp_of_number hnan]
    unfold one
    omega

/-- A code up to that of one has an exponent field of at most 127, and no fraction with that. -/
theorem significand_le {code : Nat} (h : code ≤ 1065353216) {m : Nat} {q : Int}
    (hparts : Width.single.significand code = (m, q)) :
    q.toNat = 0 ∧ m ≤ Nat.pow 2 (-q).toNat := by
  have hwidth : Nat.pow 2 Width.single.fractionBits = 8388608 := by decide
  have hleast : Width.single.leastPower = -149 := by decide
  simp only [Width.significand, hwidth, hleast] at hparts
  split at hparts
  · obtain ⟨rfl, rfl⟩ := Prod.mk.inj hparts
    refine ⟨rfl, ?_⟩
    calc code % 8388608 ≤ Nat.pow 2 23 := Nat.le_of_lt (Nat.mod_lt code (by decide))
      _ ≤ Nat.pow 2 149 := Nat.pow_le_pow_right (by decide) (by decide)
  · obtain ⟨rfl, rfl⟩ := Prod.mk.inj hparts
    refine ⟨by omega, ?_⟩
    have hpower : (-(-149 + ((code / 8388608 - 1 : Nat) : Int))).toNat = 150 - code / 8388608 := by
      omega
    rw [hpower]
    by_cases hone : code / 8388608 = 127
    · have hfraction : code % 8388608 = 0 := by omega
      have hleading : Nat.pow 2 (150 - code / 8388608) = 8388608 := by rw [hone]
      rw [hleading]
      omega
    · calc 8388608 + code % 8388608 ≤ Nat.pow 2 24 := by
            have := Nat.mod_lt code (show 0 < 8388608 by decide)
            show _ ≤ 16777216
            omega
        _ ≤ Nat.pow 2 (150 - code / 8388608) := Nat.pow_le_pow_right (by decide) (by omega)

theorem ratio_le_one {x : Single} (h : x.code ≤ 1065353216) : x.ratio.1 ≤ x.ratio.2 := by
  obtain ⟨m, q, hparts⟩ : ∃ m q, Width.single.significand x.code = (m, q) := ⟨_, _, rfl⟩
  obtain ⟨hwhole, hle⟩ := significand_le h hparts
  simp only [Binary.ratio, hparts, hwhole]
  rwa [show Nat.pow 2 0 = 1 from rfl, Nat.mul_one]

theorem code_le_of_position {x : Single} (h : 0 ≤ x.position ∧ x.position ≤ one) :
    x.code ≤ 1065353216 := by
  simp only [Binary.position, one] at h
  split at h <;> omega

/-- What lies between the places of zero and one is a confidence. -/
theorem inUnit_of_position {x : Single} (h : 0 ≤ x.position ∧ x.position ≤ one) : InUnit x := by
  have hcode := code_le_of_position h
  refine ⟨?_, fun hnegative => ?_, ratio_le_one hcode⟩
  · have hinfinity : Width.infinity .single = 2139095040 := by decide
    rw [Binary.isFinite, hinfinity, decide_eq_true_eq]
    omega
  · rw [Binary.position, if_pos hnegative] at h
    rw [Binary.isZero, decide_eq_true_eq]
    omega

/-- A confidence lies between zero and one, whatever it was before. -/
theorem inUnit_clamp (x : Single) : InUnit (clamp x) := inUnit_of_position (position_clamp x)

theorem inUnit_unknown : InUnit unknown := inUnit_of_position (by decide)

/-! ## Widened -/

/-- A double is a single, with the same sign and the same value. -/
structure Widens (x : Single) (y : Double) : Prop where
  finite : y.isFinite = true
  sign : y.negative = x.negative
  value : y.ratio.1 * x.ratio.2 = x.ratio.1 * y.ratio.2

/-- The significand of a single has twenty-four bits, and its power of two is `-149` at least. -/
theorem significand_fits {code : Nat} {m : Nat} {q : Int}
    (hparts : Width.single.significand code = (m, q)) : m < 2 ^ 24 ∧ -149 ≤ q := by
  have hwidth : Nat.pow 2 Width.single.fractionBits = 8388608 := by decide
  have hleast : Width.single.leastPower = -149 := by decide
  simp only [Width.significand, hwidth, hleast] at hparts
  split at hparts
  · obtain ⟨rfl, rfl⟩ := Prod.mk.inj hparts
    omega
  · obtain ⟨rfl, rfl⟩ := Prod.mk.inj hparts
    omega

/-- Nothing is lost when a number up to one is widened. -/
theorem widens_convert {x : Single} (h : 0 ≤ x.position ∧ x.position ≤ one) :
    Widens x x.convert := by
  have hfinite : x.isFinite = true := (inUnit_of_position h).finite
  have hnan : x.isNaN = false := by
    rw [Binary.isFinite, decide_eq_true_eq] at hfinite
    exact decide_eq_false (by omega)
  obtain ⟨m, q, hparts⟩ : ∃ m q, Width.single.significand x.code = (m, q) := ⟨_, _, rfl⟩
  obtain ⟨hwhole, hle⟩ := significand_le (code_le_of_position h) hparts
  obtain ⟨hbits, hleast⟩ := significand_fits hparts
  have hratio : x.ratio = (m, 2 ^ (-q).toNat) := by
    simp only [Binary.ratio, hparts, hwhole]
    exact congrArg (·, _) (Nat.mul_one m)
  have hconvert : (x.convert : Double) = .ofRatio x.negative m (2 ^ (-q).toNat) := by
    rw [Binary.convert, hnan, hfinite, hratio]
    rfl
  obtain ⟨hdouble, hvalue⟩ := Binary.ofRatio_fraction x.negative hbits hle (by omega)
  rw [hconvert]
  refine ⟨hdouble, rfl, ?_⟩
  rw [hratio]
  exact hvalue

/-- A double stands for a confidence: it has the value of the nearest number between zero and one,
or of one half if the confidence is no number. -/
structure Stands (c : Single) (x : Double) : Prop where
  unit : InUnit (clamp c)
  unknown : c.isNaN = true → clamp c = unknown
  nearest : c.isNaN = false → (clamp c).position = max 0 (min c.position one)
  widens : Widens (clamp c) x

/-- Every confidence is stored as a double that stands for it. -/
theorem exists_stands (c : Single) :
    ∃ x, Json.ofDouble (clamp c).convert = .double x ∧ Stands c x := by
  have hwidens := widens_convert (position_clamp c)
  refine ⟨(clamp c).convert, if_pos hwidens.finite, inUnit_clamp c, fun hnan => ?_,
    position_clamp_of_number, hwidens⟩
  rw [clamp, if_pos hnan]

end Ontograph.Confidence
