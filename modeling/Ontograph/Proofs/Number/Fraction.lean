/-
Ontograph.Proofs.Number.Fraction — fractions that are doubles.

A fraction of at most one that is some bits over a power of two, few of them,
is a double and not only near to one. Its bits are moved up until they fill the
significand (`moved_mem`), and the exponent field says how far they were moved
(`nearestCode_fraction`). So the significand of that double are the moved bits,
and its value is the fraction (`ofRatio_fraction`).
-/
import Mathlib.Tactic.Ring
import Ontograph.Proofs.Number.Shortest

namespace Ontograph

namespace Width

theorem roundHalfEven_mul {d : Nat} (n : Nat) (h : 0 < d) : roundHalfEven (n * d) d = n := by
  have hrest : compare (2 * (n * d % d)) d = .lt := by
    rw [Nat.mul_mod_left, Nat.mul_zero]
    exact Nat.compare_eq_lt.mpr h
  simp only [roundHalfEven, hrest, Nat.mul_div_cancel n h]

/-- Moved up until the first of them is the fifty-third, some bits fill a significand. -/
theorem moved_mem {m : Nat} (hm : m ≠ 0) (hbits : m < 2 ^ 24) :
    2 ^ 52 ≤ m * 2 ^ (52 - m.log2) ∧ m * 2 ^ (52 - m.log2) < 2 ^ 53 := by
  have hfew : m.log2 < 24 := (Nat.log2_lt hm).mpr hbits
  constructor
  · calc 2 ^ 52 = 2 ^ m.log2 * 2 ^ (52 - m.log2) := by rw [← Nat.pow_add]; congr 1; omega
      _ ≤ m * 2 ^ (52 - m.log2) := Nat.mul_le_mul_right _ (Nat.log2_self_le hm)
  · calc m * 2 ^ (52 - m.log2) < 2 ^ (m.log2 + 1) * 2 ^ (52 - m.log2) :=
          Nat.mul_lt_mul_of_pos_right Nat.lt_log2_self (Nat.two_pow_pos _)
      _ = 2 ^ 53 := by rw [← Nat.pow_add]; congr 1; omega

theorem log2_le_of_le_pow {m k : Nat} (hm : m ≠ 0) (hle : m ≤ 2 ^ k) : m.log2 ≤ k :=
  (Nat.pow_le_pow_iff_right (by decide)).mp ((Nat.log2_self_le hm).trans hle)

/-- A fraction of at most one, of twenty-four bits over a power of two, is a double. -/
theorem nearestCode_fraction {m k : Nat} (hm : m ≠ 0) (hbits : m < 2 ^ 24) (hle : m ≤ 2 ^ k)
    (hk : k ≤ 149) :
    double.nearestCode m (2 ^ k) = (1022 + m.log2 - k) * 2 ^ 52 + m * 2 ^ (52 - m.log2) := by
  have hlog := log2_le_of_le_pow hm hle
  have hfew : m.log2 < 24 := (Nat.log2_lt hm).mpr hbits
  have hlow : 2 ^ m.log2 ≤ m := Nat.log2_self_le hm
  obtain ⟨-, hmoved⟩ := moved_mem hm hbits
  generalize hl : m.log2 = l at hlow hlog hfew hmoved
  have hup : (-((l : Int) - k)).toNat = k - l := by omega
  have hdown : ((l : Int) - k).toNat = 0 := by omega
  have hleading : ¬ m * Nat.pow 2 (k - l) < 2 ^ k * Nat.pow 2 0 := by
    refine Nat.not_lt.mpr ?_
    calc 2 ^ k * 2 ^ 0 = 2 ^ l * 2 ^ (k - l) := by
          rw [← Nat.pow_add, ← Nat.pow_add, Nat.add_zero, Nat.add_sub_cancel' hlog]
      _ ≤ m * 2 ^ (k - l) := Nat.mul_le_mul_right _ hlow
  have hleast : double.leastPower = -1074 := by decide
  have hpower : max ((l : Int) - k - double.fractionBits) double.leastPower = l - k - 52 := by
    have hbits : (double.fractionBits : Int) = 52 := rfl
    omega
  have hshift : (-((l : Int) - k - 52)).toNat = 52 - l + k := by omega
  have hwhole : ((l : Int) - k - 52).toNat = 0 := by omega
  have hrounded : roundHalfEven (m * Nat.pow 2 (52 - l + k)) (2 ^ k * Nat.pow 2 0) =
      m * 2 ^ (52 - l) := by
    have hfront : m * Nat.pow 2 (52 - l + k) = m * 2 ^ (52 - l) * (2 ^ k * Nat.pow 2 0) := by
      show m * 2 ^ (52 - l + k) = m * 2 ^ (52 - l) * (2 ^ k * 2 ^ 0)
      ring
    rw [hfront]
    exact roundHalfEven_mul _ (Nat.mul_pos (Nat.two_pow_pos k) Nat.one_pos)
  have hfield : ((l : Int) - k - 52 - double.leastPower).toNat = 1022 + l - k := by omega
  have hinfinity : double.infinity = 2047 * 2 ^ 52 := by decide
  have hfraction : Nat.pow 2 double.fractionBits = 2 ^ 52 := rfl
  have hden : (2 ^ k).log2 = k := Nat.log2_two_pow
  unfold nearestCode
  rw [if_neg hm, hl, hden]
  simp only [hup, hdown, if_neg hleading, hpower, hshift, hwhole, hrounded, hfield, hfraction,
    hinfinity]
  exact Nat.min_eq_left (by omega)

/-- Its significand are the moved bits. -/
theorem significand_fraction {m k : Nat} (hm : m ≠ 0) (hbits : m < 2 ^ 24) (hle : m ≤ 2 ^ k)
    (hk : k ≤ 149) :
    double.significand (double.nearestCode m (2 ^ k)) =
      (m * 2 ^ (52 - m.log2), -((52 - m.log2 + k : Nat) : Int)) := by
  have hlog := log2_le_of_le_pow hm hle
  have hfew : m.log2 < 24 := (Nat.log2_lt hm).mpr hbits
  obtain ⟨hfirst, hlast⟩ := moved_mem hm hbits
  have hbinade : double.binade = 2 ^ 52 := rfl
  have hsplit : double.nearestCode m (2 ^ k) =
      double.binade * (1023 + m.log2 - k) + (m * 2 ^ (52 - m.log2) - 2 ^ 52) := by
    rw [nearestCode_fraction hm hbits hle hk, hbinade]
    omega
  have hfraction : m * 2 ^ (52 - m.log2) - 2 ^ 52 < double.binade := by omega
  have hleast : double.leastPower = -1074 := by decide
  rw [hsplit, double.significand_eq hfraction, if_neg (by omega), hbinade, hleast,
    Nat.add_sub_cancel' hfirst]
  congr 1
  omega

end Width

namespace Binary

/-- A fraction of at most one is rounded to a double of its value. -/
theorem ofRatio_fraction (negative : Bool) {m k : Nat} (hbits : m < 2 ^ 24) (hle : m ≤ 2 ^ k)
    (hk : k ≤ 149) :
    (ofRatio negative m (2 ^ k) : Double).isFinite = true ∧
      (ofRatio negative m (2 ^ k) : Double).ratio.1 * 2 ^ k =
        m * (ofRatio negative m (2 ^ k) : Double).ratio.2 := by
  rcases Nat.eq_zero_or_pos m with rfl | hpos
  · have hnone : (ofRatio negative 0 (2 ^ k) : Double) = ⟨negative, 0⟩ := rfl
    have hratio : (⟨negative, 0⟩ : Double).ratio.1 = 0 := by simp [ratio, Width.significand]
    rw [hnone, hratio, Nat.zero_mul, Nat.zero_mul]
    exact ⟨rfl, rfl⟩
  · have hm := hpos.ne'
    constructor
    · have hinfinity : Width.double.infinity = 2047 * 2 ^ 52 := by decide
      have hlog := Width.log2_le_of_le_pow hm hle
      obtain ⟨-, hmoved⟩ := Width.moved_mem hm hbits
      rw [isFinite, decide_eq_true_eq, hinfinity, ofRatio,
        Width.nearestCode_fraction hm hbits hle hk]
      show (1022 + m.log2 - k) * 2 ^ 52 + m * 2 ^ (52 - m.log2) < 2047 * 2 ^ 52
      omega
    · have hwhole : (-((52 - m.log2 + k : Nat) : Int)).toNat = 0 := by omega
      simp only [ratio, ofRatio, Width.significand_fraction hm hbits hle hk, Int.neg_neg,
        Int.toNat_natCast, hwhole]
      show m * 2 ^ (52 - m.log2) * 2 ^ 0 * 2 ^ k = m * 2 ^ (52 - m.log2 + k)
      ring

end Binary

end Ontograph
