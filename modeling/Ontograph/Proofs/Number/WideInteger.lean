/-
Ontograph.Proofs.Number.WideInteger — integers of sixty-four bits as doubles.

A double has fifty-three significant bits, so an integer that needs sixty-four
is rounded to a multiple of 2048 (`ofInt_wide`). Integers that are rounded to
one multiple are one double. Others have texts of different values
(`shown_ofInt_eq_iff`), all of them beyond the integers that fit sixty-four bits
with a sign (`le_shown_ofInt`).
-/
import Ontograph.Proofs.Number.Display

namespace Ontograph

/-! ## Rounding -/

namespace Width

/-- Rounding goes to one of the two neighbours. -/
theorem roundHalfEven_mem (num den : Nat) :
    num / den ≤ roundHalfEven num den ∧ roundHalfEven num den ≤ num / den + 1 := by
  unfold roundHalfEven
  dsimp only
  split
  · omega
  · omega
  · split <;> omega

/-- With sixty-four bits, the eleven last ones are rounded off. -/
theorem nearestCode_wide {n : Nat} (hlow : 2 ^ 63 ≤ n) (hhigh : n < 2 ^ 64) :
    double.nearestCode n 1 = 1085 * 2 ^ 52 + roundHalfEven n 2048 := by
  have hzero : n ≠ 0 := by omega
  have hlog : n.log2 = 63 := (Nat.log2_eq_iff hzero).mpr ⟨hlow, hhigh⟩
  have hestimate : ((63 : Nat) : Int) - (Nat.log2 1 : Nat) = 63 := by decide
  have hleading : ¬ n * Nat.pow 2 (-63 : Int).toNat < 1 * Nat.pow 2 (63 : Int).toNat := by
    have hone : Nat.pow 2 (-63 : Int).toNat = 1 := by decide
    have hpower : Nat.pow 2 (63 : Int).toNat = 2 ^ 63 := by decide
    rw [hone, hpower]
    omega
  have hpower : max ((63 : Int) - double.fractionBits) double.leastPower = 11 := by decide
  have hfraction : n * Nat.pow 2 (-11 : Int).toNat = n := Nat.mul_one n
  have hunit : 1 * Nat.pow 2 (11 : Int).toNat = 2048 := by decide
  have hbinades : ((11 : Int) - double.leastPower).toNat * Nat.pow 2 double.fractionBits =
      1085 * 2 ^ 52 := by decide
  have hinfinity : double.infinity = 2047 * 2 ^ 52 := by decide
  obtain ⟨-, hrounded⟩ := roundHalfEven_mem n 2048
  unfold nearestCode
  rw [if_neg hzero, hlog]
  simp only [hestimate, if_neg hleading, hpower, hfraction, hunit, hbinades, hinfinity]
  exact Nat.min_eq_left (by omega)

end Width

/-! ## Wide integers -/

/-- An integer of sixty-four bits without a sign that does not fit into as many with one. -/
structure Wide (i : Int) : Prop where
  low : 2 ^ 63 ≤ i
  high : i < 2 ^ 64

/-- The multiple of 2048 nearest to a wide integer, by its number; a half goes to the even one. -/
def nearestMultiple (i : Int) : Nat := Width.roundHalfEven i.toNat 2048

/-- Two integers that do not fit sixty-four bits with a sign are rounded to one multiple. -/
def Merged (m n : Int) : Prop := 2 ^ 63 ≤ m ∧ 2 ^ 63 ≤ n ∧ nearestMultiple m = nearestMultiple n

instance (m n : Int) : Decidable (Merged m n) :=
  inferInstanceAs (Decidable (2 ^ 63 ≤ m ∧ 2 ^ 63 ≤ n ∧ nearestMultiple m = nearestMultiple n))

/-- The multiple nearest to a wide integer has a number from `2^52` to `2^53`. -/
theorem Wide.nearestMultiple_mem {i : Int} (h : Wide i) :
    2 ^ 52 ≤ nearestMultiple i ∧ nearestMultiple i ≤ 2 ^ 53 := by
  obtain ⟨hlow, hhigh⟩ := h
  obtain ⟨hfloor, hceil⟩ := Width.roundHalfEven_mem i.toNat 2048
  unfold nearestMultiple
  omega

namespace Binary

/-- A wide integer is rounded to a multiple of 2048. -/
theorem ofInt_wide {i : Int} (h : Wide i) :
    (ofInt i : Double) = ⟨false, 1085 * 2 ^ 52 + nearestMultiple i⟩ := by
  obtain ⟨hlow, hhigh⟩ := h
  have hsign : decide (i < 0) = false := decide_eq_false (by omega)
  have hmagnitude : i.natAbs = i.toNat := by omega
  rw [ofInt, ofRatio, hsign, hmagnitude, Width.nearestCode_wide (by omega) (by omega),
    nearestMultiple]

theorem isFinite_ofInt {i : Int} (h : Wide i) : (ofInt i : Double).isFinite = true := by
  have hinfinity : Width.double.infinity = 2047 * 2 ^ 52 := by decide
  obtain ⟨-, hmultiple⟩ := h.nearestMultiple_mem
  rw [ofInt_wide h, isFinite, decide_eq_true_eq, hinfinity]
  show 1085 * 2 ^ 52 + nearestMultiple i < 2047 * 2 ^ 52
  omega

def leastWide : Nat := 1086 * 2 ^ 52

/-- The least wide integer is shown in sixteen digits and rounded up. -/
theorem shortest_leastWide :
    (⟨false, leastWide⟩ : Double).shortest .up = ⟨9223372036854776, 3⟩ := by decide +kernel

theorem high_leastWide : Width.double.high leastWide = 2 ^ 63 + 1024 := by
  have hquarters : Width.double.highQuarters leastWide = 2 ^ 54 + 2 := by decide
  have hpower : (Width.double.significand leastWide).2 - 2 = 9 := by decide
  rw [Width.high, hquarters, Width.quarter, hpower]
  norm_num

/-- The text of a wide integer as a double has a value beyond sixty-four bits with a sign. -/
theorem le_shown_ofInt {i : Int} (h : Wide i) : (2 : ℚ) ^ 63 ≤ (ofInt i : Double).shown := by
  obtain ⟨hmultiple, -⟩ := h.nearestMultiple_mem
  rw [ofInt_wide h, shown]
  show (2 : ℚ) ^ 63 ≤ (shortest .up (⟨false, 1085 * 2 ^ 52 + nearestMultiple i⟩ : Double)).value
  have hleast : leastWide ≤ 1085 * 2 ^ 52 + nearestMultiple i := by
    unfold leastWide
    omega
  rcases Nat.eq_or_lt_of_le hleast with heq | hlt
  · rw [← heq, shortest_leastWide, Decimal.value]
    norm_num
  · have hcode : 1085 * 2 ^ 52 + nearestMultiple i ≠ 0 := by omega
    calc (2 : ℚ) ^ 63
        ≤ Width.double.high leastWide := by rw [high_leastWide]; norm_num
      _ ≤ Width.double.low (1085 * 2 ^ 52 + nearestMultiple i) := Width.high_le_low hlt
      _ ≤ _ := (roundsTo_shortest .up (x := ⟨false, _⟩) hcode).low_le

/-- Doubles of wide integers have texts of one value only if they are one double. -/
theorem shown_ofInt_eq_iff {m n : Int} (hm : Wide m) (hn : Wide n) :
    (ofInt m : Double).shown = (ofInt n : Double).shown ↔
      nearestMultiple m = nearestMultiple n := by
  rw [ofInt_wide hm, ofInt_wide hn]
  constructor
  · intro hshown
    have hpos (k : Nat) : 1085 * 2 ^ 52 + k ≠ 0 := by omega
    have hcode := code_eq_of_value_shortest (x := (⟨false, _⟩ : Double))
      (y := (⟨false, _⟩ : Double)) (hpos (nearestMultiple m)) (hpos (nearestMultiple n)) hshown
    exact Nat.add_left_cancel hcode
  · intro hmultiple
    rw [hmultiple]

end Binary

end Ontograph
