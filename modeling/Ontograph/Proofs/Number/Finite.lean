/-
Ontograph.Proofs.Number.Finite — quotients that are rounded to finite numbers.

Below `2^1023` rounding reaches no infinity: the leading bit of such a quotient
is one of the first 1023, and the code of what it is rounded to lies at most two
binades above the power it is rounded at (`nearestCode_lt_infinity`). So an
integer of sixty-four bits is a finite double, and so is half of any finite
double and all that is less (`isFinite_div`).
-/
import Ontograph.Proofs.Number.WideInteger

namespace Ontograph

namespace Width

/-- Comparing naturals scaled by a power of two is comparing rationals. -/
theorem scaled_lt_iff (num den : Nat) (i : Int) :
    num * 2 ^ (-i).toNat < den * 2 ^ i.toNat ↔ (num : ℚ) < den * (2 : ℚ) ^ i := by
  have hden : (den : ℚ) * (2 : ℚ) ^ i * (2 : ℚ) ^ (-i).toNat =
      ((den * 2 ^ i.toNat : Nat) : ℚ) := by
    push_cast
    rw [mul_assoc, Decimal.zpow_mul_pow_toNat two_ne_zero]
  have hnum : (num : ℚ) * (2 : ℚ) ^ (-i).toNat = ((num * 2 ^ (-i).toNat : Nat) : ℚ) := by
    push_cast
    rfl
  have hpos : (0 : ℚ) < (2 : ℚ) ^ (-i).toNat := by positivity
  rw [← mul_lt_mul_iff_left₀ hpos, hden, hnum, Nat.cast_lt]

def leading (num den : Nat) : Int :=
  let estimate : Int := (num.log2 : Int) - den.log2
  if num * Nat.pow 2 (-estimate).toNat < den * Nat.pow 2 estimate.toNat then estimate - 1
  else estimate

theorem zpow_log2_le {n : Nat} (h : n ≠ 0) : (2 : ℚ) ^ (n.log2 : Int) ≤ n := by
  rw [zpow_natCast]
  exact_mod_cast Nat.log2_self_le h

theorem lt_zpow_log2 (n : Nat) : (n : ℚ) < (2 : ℚ) ^ ((n.log2 : Int) + 1) := by
  rw [← Nat.cast_succ, zpow_natCast]
  exact_mod_cast Nat.lt_log2_self

/-- A quotient is less than twice its leading bit. -/
theorem lt_leading {num den : Nat} (hden : den ≠ 0) :
    (num : ℚ) < den * (2 : ℚ) ^ (leading num den + 1) := by
  unfold leading
  dsimp only
  split
  · rename_i hless
    rw [Int.sub_add_cancel]
    exact (scaled_lt_iff num den _).mp hless
  · calc (num : ℚ) < (2 : ℚ) ^ ((num.log2 : Int) + 1) := lt_zpow_log2 num
      _ = (2 : ℚ) ^ (den.log2 : Int) * (2 : ℚ) ^ ((num.log2 : Int) - den.log2 + 1) := by
          rw [← zpow_add₀ two_ne_zero]
          congr 1
          omega
      _ ≤ den * (2 : ℚ) ^ ((num.log2 : Int) - den.log2 + 1) :=
          mul_le_mul_of_nonneg_right (zpow_log2_le hden) (by positivity)

/-- The leading bit of a quotient below a power of two is below that power. -/
theorem leading_lt {num den : Nat} (hnum : num ≠ 0) (hden : den ≠ 0) {k : Int}
    (h : (num : ℚ) < den * (2 : ℚ) ^ k) : leading num den < k := by
  unfold leading
  dsimp only
  split
  · have hpowers : (2 : ℚ) ^ (num.log2 : Int) < (2 : ℚ) ^ ((den.log2 : Int) + 1 + k) := by
      calc (2 : ℚ) ^ (num.log2 : Int) ≤ num := zpow_log2_le hnum
        _ < den * (2 : ℚ) ^ k := h
        _ < (2 : ℚ) ^ ((den.log2 : Int) + 1) * (2 : ℚ) ^ k :=
            mul_lt_mul_of_pos_right (lt_zpow_log2 den) (by positivity)
        _ = (2 : ℚ) ^ ((den.log2 : Int) + 1 + k) := (zpow_add₀ two_ne_zero _ _).symm
    have hlogs := (zpow_lt_zpow_iff_right₀ one_lt_two).mp hpowers
    omega
  · rename_i hnot
    have hle := not_lt.mp fun hless => hnot ((scaled_lt_iff num den _).mpr hless)
    have hpos : (0 : ℚ) < den := by exact_mod_cast Nat.pos_of_ne_zero hden
    exact (zpow_lt_zpow_iff_right₀ one_lt_two).mp ((mul_lt_mul_iff_right₀ hpos).mp (hle.trans_lt h))

/-- Below `2^1023` a quotient is rounded to a finite double. -/
theorem nearestCode_lt_infinity {num den : Nat} (hden : den ≠ 0)
    (h : (num : ℚ) < den * (2 : ℚ) ^ (1023 : Int)) :
    double.nearestCode num den < double.infinity := by
  have hinfinity : double.infinity = 2047 * 2 ^ 52 := by decide
  by_cases hnum : num = 0
  · rw [nearestCode, if_pos hnum, hinfinity]
    decide
  have hleast : double.leastPower = -1074 := by decide
  have hbits : (double.fractionBits : Int) = 52 := rfl
  have hlead := leading_lt hnum hden h
  obtain ⟨power, hpower⟩ : ∃ power, power =
      max (leading num den - double.fractionBits) double.leastPower := ⟨_, rfl⟩
  have hscaled : num * 2 ^ (-power).toNat < 2 ^ 53 * (den * 2 ^ power.toNat) := by
    have hless : (num : ℚ) < (2 ^ 53 * den : Nat) * (2 : ℚ) ^ power := by
      calc (num : ℚ) < den * (2 : ℚ) ^ (leading num den + 1) := lt_leading hden
        _ ≤ den * (2 : ℚ) ^ (53 + power) :=
            mul_le_mul_of_nonneg_left (zpow_le_zpow_right₀ one_le_two (by omega)) (by positivity)
        _ = (2 ^ 53 * den : Nat) * (2 : ℚ) ^ power := by
            rw [zpow_add₀ two_ne_zero]
            push_cast
            ring
    rw [← Nat.mul_assoc]
    exact (scaled_lt_iff _ _ _).mpr hless
  have hrounded : roundHalfEven (num * 2 ^ (-power).toNat) (den * 2 ^ power.toNat) ≤ 2 ^ 53 :=
    (roundHalfEven_mem _ _).2.trans (Nat.div_lt_of_lt_mul (by rwa [Nat.mul_comm (_ * _)]))
  have hcode : double.nearestCode num den =
      min ((power - double.leastPower).toNat * 2 ^ 52 +
        roundHalfEven (num * 2 ^ (-power).toNat) (den * 2 ^ power.toNat)) double.infinity := by
    rw [hpower, nearestCode, if_neg hnum]
    rfl
  rw [hcode, hinfinity]
  refine (Nat.min_le_left _ _).trans_lt ?_
  omega

end Width

namespace Binary

/-- A quotient below `2^1023` is rounded to a finite double. -/
theorem isFinite_ofRatio (negative : Bool) {num den : Nat} (hden : den ≠ 0)
    (h : (num : ℚ) < den * (2 : ℚ) ^ (1023 : Int)) :
    (ofRatio negative num den : Double).isFinite = true :=
  decide_eq_true (Width.nearestCode_lt_infinity hden h)

/-- A natural number of sixty-four bits is a finite double. -/
theorem isFinite_ofNat {n : Nat} (h : n < 2 ^ 64) : (ofInt n : Double).isFinite = true := by
  refine isFinite_ofRatio _ one_ne_zero ?_
  rw [Int.natAbs_natCast, Nat.cast_one, one_mul]
  calc (n : ℚ) < 2 ^ 64 := by exact_mod_cast h
    _ = (2 : ℚ) ^ (64 : Int) := by norm_num
    _ ≤ (2 : ℚ) ^ (1023 : Int) := zpow_le_zpow_right₀ one_le_two (by decide)

theorem ratio_snd_pos {w : Width} (x : Binary w) : 0 < x.ratio.2 := Nat.two_pow_pos _

/-- A finite double has fifty-three bits and a power of two up to 971. -/
theorem significand_lt {code : Nat} (h : code < Width.double.infinity) {m : Nat} {q : Int}
    (hparts : Width.double.significand code = (m, q)) : m < 2 ^ 53 ∧ q ≤ 971 := by
  have hinfinity : Width.double.infinity = 2047 * 2 ^ 52 := by decide
  have hwidth : Nat.pow 2 Width.double.fractionBits = 2 ^ 52 := rfl
  have hleast : Width.double.leastPower = -1074 := by decide
  rw [hinfinity] at h
  simp only [Width.significand, hwidth, hleast] at hparts
  split at hparts
  · obtain ⟨rfl, rfl⟩ := Prod.mk.inj hparts
    omega
  · obtain ⟨rfl, rfl⟩ := Prod.mk.inj hparts
    omega

/-- A finite double is below `2^1024`. -/
theorem ratio_lt {x : Double} (h : x.isFinite = true) :
    (x.ratio.1 : ℚ) < x.ratio.2 * (2 : ℚ) ^ (1024 : Int) := by
  obtain ⟨m, q, hparts⟩ : ∃ m q, Width.double.significand x.code = (m, q) := ⟨_, _, rfl⟩
  obtain ⟨hm, hq⟩ := significand_lt (of_decide_eq_true h) hparts
  have hratio : x.ratio = (m * 2 ^ q.toNat, 2 ^ (-q).toNat) := by
    rw [ratio, hparts]
    rfl
  have hvalue : (m : ℚ) * (2 : ℚ) ^ q < (2 : ℚ) ^ (1024 : Int) := by
    calc (m : ℚ) * (2 : ℚ) ^ q < (2 : ℚ) ^ (53 : Int) * (2 : ℚ) ^ q :=
          mul_lt_mul_of_pos_right (by exact_mod_cast hm) (by positivity)
      _ = (2 : ℚ) ^ (53 + q) := (zpow_add₀ two_ne_zero _ _).symm
      _ ≤ (2 : ℚ) ^ (1024 : Int) := zpow_le_zpow_right₀ one_le_two (by omega)
  rw [hratio]
  simp only [Nat.cast_mul, Nat.cast_pow, Nat.cast_ofNat]
  calc (m : ℚ) * 2 ^ q.toNat = 2 ^ (-q).toNat * (m * (2 : ℚ) ^ q) := by
        rw [← Decimal.zpow_mul_pow_toNat two_ne_zero q]
        ring
    _ < 2 ^ (-q).toNat * (2 : ℚ) ^ (1024 : Int) := mul_lt_mul_of_pos_left hvalue (by positivity)

/-- A number is two at least. -/
def AtLeastTwo (x : Double) : Prop := x.isFinite = true ∧ 2 * x.ratio.2 ≤ x.ratio.1

instance (x : Double) : Decidable (AtLeastTwo x) :=
  inferInstanceAs (Decidable (x.isFinite = true ∧ 2 * x.ratio.2 ≤ x.ratio.1))

/-- A finite double divided by two or more is finite. -/
theorem isFinite_div {x y : Double} (hx : x.isFinite = true) (hy : AtLeastTwo y) :
    (x.div y).isFinite = true := by
  obtain ⟨hfinite, htwo⟩ := hy
  have hx2 := x.ratio_snd_pos
  have hy2 := y.ratio_snd_pos
  have hzero : y.isZero = false := by
    refine decide_eq_false fun hcode => ?_
    have hnone : y.ratio.1 = 0 := by simp [ratio, Width.significand, hcode]
    omega
  rw [div, hx, hfinite, hzero]
  refine isFinite_ofRatio _ (Nat.mul_pos hx2 (by omega)).ne' ?_
  rw [Nat.cast_mul, Nat.cast_mul]
  have htwo' : (2 : ℚ) * y.ratio.2 ≤ y.ratio.1 := by exact_mod_cast htwo
  calc (x.ratio.1 : ℚ) * y.ratio.2
      < x.ratio.2 * (2 : ℚ) ^ (1024 : Int) * y.ratio.2 :=
        mul_lt_mul_of_pos_right (ratio_lt hx) (by exact_mod_cast hy2)
    _ = x.ratio.2 * (2 * y.ratio.2) * (2 : ℚ) ^ (1023 : Int) := by
        rw [show (1024 : Int) = 1023 + 1 by rfl, zpow_add_one₀ two_ne_zero]
        ring
    _ ≤ x.ratio.2 * y.ratio.1 * (2 : ℚ) ^ (1023 : Int) := by gcongr

end Binary

end Ontograph
