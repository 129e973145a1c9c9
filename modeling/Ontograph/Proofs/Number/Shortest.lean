/-
Ontograph.Proofs.Number.Shortest — which numbers the fewest digits stand for.

The reals that round to a code are an interval around its magnitude. Where the
interval of one code ends, that of the next one begins (`high_eq_low`), and the
end belongs to the even one of the two. So no real rounds to two codes
(`RoundsTo.unique`), and since the digits that are selected for a number round
to it (`roundsTo_shortest`), numbers with different codes get digits of
different values. All comparisons of the selection are comparisons of rational
numbers (`compareScaled_eq`).
-/
import Mathlib.Algebra.Order.Field.Power
import Mathlib.Data.Rat.Cast.Order
import Mathlib.Order.Compare
import Mathlib.Tactic.Linarith
import Mathlib.Tactic.NormNum
import Mathlib.Tactic.Positivity
import Mathlib.Tactic.Ring
import Ontograph.Number.Decimal

namespace Ontograph

/-! ## Values of decimals -/

namespace Decimal

def value (d : Decimal) : ℚ := d.digits * (10 : ℚ) ^ d.exponent

/-- Moving zeros into the exponent does not change the value. -/
theorem value_strip (count : Nat) (d : Decimal) : (strip count d).value = d.value := by
  induction count generalizing d with
  | zero => rfl
  | succ count ih =>
    unfold strip
    split
    · rename_i h
      rw [ih]
      have hdigits : d.digits = 10 * (d.digits / 10) := by omega
      have hcast : (d.digits : ℚ) = 10 * ((d.digits / 10 : Nat) : ℚ) := by exact_mod_cast hdigits
      rw [value, value, hcast, zpow_add₀ (by norm_num), zpow_one]
      ring
    · rfl

theorem zpow_mul_pow_toNat {b : ℚ} (hb : b ≠ 0) (i : Int) :
    b ^ i * b ^ (-i).toNat = b ^ i.toNat := by
  rw [← zpow_natCast, ← zpow_natCast, ← zpow_add₀ hb]
  congr 1
  omega

/-- A decimal and a multiple of a power of two are compared by their values. -/
theorem compareScaled_eq (a : Nat) (i : Int) (n : Nat) (j : Int) :
    compareScaled a i n j = compare ((a : ℚ) * (10 : ℚ) ^ i) ((n : ℚ) * (2 : ℚ) ^ j) := by
  have hscale : (0 : ℚ) < (10 : ℚ) ^ (-i).toNat * (2 : ℚ) ^ (-j).toNat := by positivity
  have hleft : (a : ℚ) * (10 : ℚ) ^ i * ((10 : ℚ) ^ (-i).toNat * (2 : ℚ) ^ (-j).toNat) =
      ((a * 10 ^ i.toNat * 2 ^ (-j).toNat : Nat) : ℚ) := by
    push_cast
    rw [← zpow_mul_pow_toNat (by norm_num) i]
    ring
  have hright : (n : ℚ) * (2 : ℚ) ^ j * ((10 : ℚ) ^ (-i).toNat * (2 : ℚ) ^ (-j).toNat) =
      ((n * 2 ^ j.toNat * 10 ^ (-i).toNat : Nat) : ℚ) := by
    push_cast
    rw [← zpow_mul_pow_toNat (by norm_num) j]
    ring
  calc compareScaled a i n j
      = cmp (a * 10 ^ i.toNat * 2 ^ (-j).toNat) (n * 2 ^ j.toNat * 10 ^ (-i).toNat) :=
        (cmp_eq_compare _ _).symm
    _ = cmp ((a * 10 ^ i.toNat * 2 ^ (-j).toNat : Nat) : ℚ)
          ((n * 2 ^ j.toNat * 10 ^ (-i).toNat : Nat) : ℚ) :=
        (Nat.strictMono_cast.cmp_map_eq _ _).symm
    _ = cmp ((a : ℚ) * (10 : ℚ) ^ i) ((n : ℚ) * (2 : ℚ) ^ j) := by
        rw [← hleft, ← hright, cmp_mul_pos_right hscale]
    _ = _ := cmp_eq_compare _ _

end Decimal

/-! ## The reals that round to a code -/

namespace Width

variable (w : Width)

/-- How many codes share an exponent field. -/
def binade : Nat := 2 ^ w.fractionBits

theorem binade_pos : 0 < w.binade := Nat.two_pow_pos _

/-- A code is its exponent field and its fraction field, with a leading bit unless the first is
zero. -/
theorem significand_eq {field fraction : Nat} (h : fraction < w.binade) :
    w.significand (w.binade * field + fraction) =
      if field = 0 then (fraction, w.leastPower)
      else (w.binade + fraction, w.leastPower + (field - 1 : Nat)) := by
  have hfield : (w.binade * field + fraction) / w.binade = field := by
    rw [Nat.mul_add_div w.binade_pos, Nat.div_eq_of_lt h, Nat.add_zero]
  have hfraction : (w.binade * field + fraction) % w.binade = fraction := by
    rw [Nat.mul_add_mod, Nat.mod_eq_of_lt h]
  have hbinade : Nat.pow 2 w.fractionBits = w.binade := rfl
  simp only [significand, hbinade, hfield, hfraction]

/-- Whether the code below has a smaller power of two. -/
def Narrow (code : Nat) : Prop := code % w.binade = 0 ∧ w.binade < code

instance (code : Nat) : Decidable (w.Narrow code) :=
  inferInstanceAs (Decidable (code % w.binade = 0 ∧ w.binade < code))

/-- Where the reals that round to a code begin, in quarters of the unit of its significand. -/
def lowQuarters (code : Nat) : Nat :=
  if w.Narrow code then 4 * (w.significand code).1 - 1 else 4 * (w.significand code).1 - 2

/-- Where they end. -/
def highQuarters (code : Nat) : Nat := 4 * (w.significand code).1 + 2

def quarter (code : Nat) : ℚ := (2 : ℚ) ^ ((w.significand code).2 - 2)

def low (code : Nat) : ℚ := w.lowQuarters code * w.quarter code

def high (code : Nat) : ℚ := w.highQuarters code * w.quarter code

/-- A real rounds to a code. The ends belong to even codes. -/
structure RoundsTo (code : Nat) (x : ℚ) : Prop where
  low : w.low code < x ∨ code % 2 = 0 ∧ x = w.low code
  high : x < w.high code ∨ code % 2 = 0 ∧ x = w.high code

variable {w}

theorem quarter_pos (code : Nat) : 0 < w.quarter code := zpow_pos (by norm_num) _

/-- Every code has reals that round to it. -/
theorem low_lt_high (code : Nat) : w.low code < w.high code := by
  refine mul_lt_mul_of_pos_right ?_ (quarter_pos code)
  have hquarters : w.lowQuarters code < w.highQuarters code := by
    unfold lowQuarters highQuarters
    split <;> omega
  exact_mod_cast hquarters

/-- The reals that round to a code end where those that round to the next one begin. -/
theorem high_eq_low (code : Nat) : w.high code = w.low (code + 1) := by
  have hpos := w.binade_pos
  obtain ⟨field, fraction, hfraction, rfl⟩ :
      ∃ field fraction, fraction < w.binade ∧ code = w.binade * field + fraction :=
    ⟨code / w.binade, code % w.binade, Nat.mod_lt _ hpos, (Nat.div_add_mod _ _).symm⟩
  unfold high low highQuarters lowQuarters quarter
  by_cases hlast : fraction + 1 = w.binade
  · -- the next code has another exponent field and no fraction
    have hnext : w.binade * field + fraction + 1 = w.binade * (field + 1) + 0 := by
      rw [Nat.add_assoc, hlast, Nat.mul_succ, Nat.add_zero]
    rw [hnext, w.significand_eq hfraction, w.significand_eq hpos, if_neg (Nat.succ_ne_zero field),
      Nat.add_sub_cancel]
    rcases Nat.eq_zero_or_pos field with rfl | hfield
    · have hwide : ¬ w.Narrow (w.binade * (0 + 1) + 0) := fun h => absurd h.2 (by omega)
      have hends : 4 * fraction + 2 = 4 * (w.binade + 0) - 2 := by omega
      rw [if_pos rfl, if_neg hwide]
      simp only [hends, Nat.cast_zero, add_zero]
    · have hnarrow : w.Narrow (w.binade * (field + 1) + 0) := by
        constructor
        · rw [Nat.add_zero, Nat.mul_mod_right]
        · rw [Nat.add_zero, Nat.mul_succ]
          exact Nat.lt_add_of_pos_left (Nat.mul_pos hpos hfield)
      have hends : 4 * (w.binade + fraction) + 2 = 2 * (4 * (w.binade + 0) - 1) := by omega
      have hpower : w.leastPower + (field : Int) - 2 =
          w.leastPower + ((field - 1 : Nat) : Int) - 2 + 1 := by omega
      rw [if_neg hfield.ne', if_pos hnarrow]
      simp only [hends, hpower, zpow_add_one₀ (two_ne_zero (α := ℚ)), Nat.cast_mul, Nat.cast_ofNat]
      ring
  · -- the next code has the same exponent field, and so does not begin a binade
    have hnext : fraction + 1 < w.binade := by omega
    have hwide : ¬ w.Narrow (w.binade * field + (fraction + 1)) := by
      intro h
      have hzero := h.1
      rw [Nat.mul_add_mod, Nat.mod_eq_of_lt hnext] at hzero
      exact Nat.succ_ne_zero fraction hzero
    rw [Nat.add_assoc, w.significand_eq hfraction, w.significand_eq hnext, if_neg hwide]
    split
    · have hends : 4 * fraction + 2 = 4 * (fraction + 1) - 2 := by omega
      simp only [hends]
    · have hends : 4 * (w.binade + fraction) + 2 = 4 * (w.binade + (fraction + 1)) - 2 := by omega
      simp only [hends]

/-- The reals of a code lie below those of a larger one. -/
theorem high_le_low {code other : Nat} (h : code < other) : w.high code ≤ w.low other := by
  induction other, h using Nat.le_induction with
  | base => exact (high_eq_low code).le
  | succ other _ ih => exact ih.trans ((low_lt_high other).le.trans (high_eq_low other).le)

theorem high_lt_low {code other : Nat} (h : code + 1 < other) : w.high code < w.low other :=
  calc w.high code
      = w.low (code + 1) := high_eq_low code
    _ < w.high (code + 1) := low_lt_high _
    _ ≤ w.low other := high_le_low h

theorem RoundsTo.low_le {code : Nat} {x : ℚ} (h : w.RoundsTo code x) : w.low code ≤ x := by
  rcases h.low with hlow | ⟨-, rfl⟩
  · exact hlow.le
  · exact le_rfl

theorem RoundsTo.le_high {code : Nat} {x : ℚ} (h : w.RoundsTo code x) : x ≤ w.high code := by
  rcases h.high with hhigh | ⟨-, rfl⟩
  · exact hhigh.le
  · exact le_rfl

/-- Nothing rounds to a code and to a greater one. -/
theorem RoundsTo.not_above {code other : Nat} {x : ℚ} (h : w.RoundsTo code x)
    (h' : w.RoundsTo other x) : ¬ code < other := by
  intro hlt
  have hmeet : w.high code = w.low other :=
    le_antisymm (high_le_low hlt) (h'.low_le.trans h.le_high)
  have hnext : other = code + 1 := by
    by_contra hne
    exact (high_lt_low (by omega)).ne hmeet
  -- the point where the two meet belongs to both, so both are even
  have hx : x = w.low other := le_antisymm (h.le_high.trans hmeet.le) h'.low_le
  have heven : code % 2 = 0 := by
    rcases h.high with hhigh | ⟨heven, -⟩
    · exact absurd (hx.trans hmeet.symm) hhigh.ne
    · exact heven
  have heven' : other % 2 = 0 := by
    rcases h'.low with hlow | ⟨heven', -⟩
    · exact absurd hx hlow.ne'
    · exact heven'
  omega

/-- No real rounds to two codes. -/
theorem RoundsTo.unique {code other : Nat} {x : ℚ} (h : w.RoundsTo code x)
    (h' : w.RoundsTo other x) : code = other :=
  Nat.le_antisymm (Nat.not_lt.mp (h'.not_above h)) (Nat.not_lt.mp (h.not_above h'))

theorem significand_pos {code : Nat} (h : code ≠ 0) : 0 < (w.significand code).1 := by
  have hpos := w.binade_pos
  have hcode := Nat.div_add_mod code w.binade
  have hfraction := Nat.mod_lt code hpos
  rw [← hcode, w.significand_eq hfraction]
  split
  · rename_i hfield
    rw [hfield, Nat.mul_zero, Nat.zero_add] at hcode
    show 0 < code % w.binade
    omega
  · exact Nat.add_pos_left hpos _

/-- The magnitude of a code that is not zero rounds to it. -/
theorem roundsTo_magnitude {code : Nat} (h : code ≠ 0) :
    w.RoundsTo code ((w.significand code).1 * (2 : ℚ) ^ (w.significand code).2) := by
  have hpos := significand_pos (w := w) h
  have hmagnitude : ((w.significand code).1 : ℚ) * (2 : ℚ) ^ (w.significand code).2 =
      ((4 * (w.significand code).1 : Nat) : ℚ) * w.quarter code := by
    rw [quarter, zpow_sub₀ (two_ne_zero (α := ℚ))]
    push_cast
    ring
  have hlow : w.lowQuarters code < 4 * (w.significand code).1 := by
    unfold lowQuarters
    split <;> omega
  have hhigh : 4 * (w.significand code).1 < w.highQuarters code :=
    Nat.lt_add_of_pos_right (by decide)
  rw [hmagnitude]
  constructor
  · exact .inl (mul_lt_mul_of_pos_right (by exact_mod_cast hlow) (quarter_pos code))
  · exact .inl (mul_lt_mul_of_pos_right (by exact_mod_cast hhigh) (quarter_pos code))

end Width

/-! ## The digits that are selected -/

namespace Binary

variable {w : Width}

/-- The test on decimals is exact. -/
theorem roundsTo_iff (code : Nat) (d : Decimal) :
    roundsTo w code d = true ↔ w.RoundsTo code d.value := by
  have hlow : Decimal.compareScaled d.digits d.exponent (w.lowQuarters code)
      ((w.significand code).2 - 2) = compare d.value (w.low code) :=
    Decimal.compareScaled_eq _ _ _ _
  have hhigh : Decimal.compareScaled d.digits d.exponent (w.highQuarters code)
      ((w.significand code).2 - 2) = compare d.value (w.high code) :=
    Decimal.compareScaled_eq _ _ _ _
  have hdecided : roundsTo w code d =
      ((compare d.value (w.low code) == .gt ||
          code % 2 == 0 && compare d.value (w.low code) == .eq) &&
        (compare d.value (w.high code) == .lt ||
          code % 2 == 0 && compare d.value (w.high code) == .eq)) := by
    rw [← hlow, ← hhigh]
    rfl
  rw [hdecided]
  simp only [Bool.and_eq_true, Bool.or_eq_true, beq_iff_eq, compare_gt_iff_gt, compare_lt_iff_lt,
    compare_eq_iff_eq]
  constructor
  · rintro ⟨hlow, hhigh⟩
    exact ⟨hlow, hhigh⟩
  · rintro ⟨hlow, hhigh⟩
    exact ⟨hlow, hhigh⟩

/-- What is selected on a grid rounds to the code. -/
theorem roundsTo_of_onGrid? {tie : TieRule} {code : Nat} {grid : Int} {d : Decimal}
    (h : onGrid? w tie code grid = some d) : w.RoundsTo code d.value := by
  rw [← roundsTo_iff]
  unfold onGrid? at h
  dsimp only at h
  split at h
  · rename_i hlower _
    cases h
    exact hlower
  · rename_i _ hupper
    cases h
    exact hupper
  · cases h
  · rename_i hlower hupper
    split at h
    · cases h
      exact hlower
    · cases h
      exact hupper
    · split at h
      · cases h
        exact hlower
      · cases h
        exact hupper
    · cases h
      exact hupper

/-- The exact digits of a magnitude. -/
theorem value_exact (m : Nat) (q : Int) :
    (⟨m * Nat.pow 2 q.toNat * Nat.pow 5 (-q).toNat, min q 0⟩ : Decimal).value =
      m * (2 : ℚ) ^ q := by
  unfold Decimal.value
  simp only [Nat.pow_eq]
  push_cast
  rcases le_total 0 q with hq | hq
  · have hneg : (-q).toNat = 0 := by omega
    have hpower : (2 : ℚ) ^ q = (2 : ℚ) ^ q.toNat := by
      rw [← zpow_natCast]
      congr 1
      omega
    rw [min_eq_right hq, hneg, hpower, pow_zero, zpow_zero, mul_one, mul_one]
  · have hzero : q.toNat = 0 := by omega
    have hfive : (5 : ℚ) ^ (-q).toNat * (5 : ℚ) ^ q = 1 := by
      rw [← zpow_natCast, ← zpow_add₀ (by norm_num)]
      have hsum : ((-q).toNat : Int) + q = 0 := by omega
      rw [hsum, zpow_zero]
    have hten : (10 : ℚ) ^ q = (2 : ℚ) ^ q * (5 : ℚ) ^ q := by
      rw [← mul_zpow]
      norm_num
    rw [min_eq_left hq, hzero, pow_zero, mul_one, hten]
    calc (m : ℚ) * 5 ^ (-q).toNat * (2 ^ q * 5 ^ q)
        = m * 2 ^ q * (5 ^ (-q).toNat * 5 ^ q) := by ring
      _ = m * 2 ^ q := by rw [hfive, mul_one]

/-- The digits that are selected for a number round to it. -/
theorem roundsTo_shortest (tie : TieRule) {x : Binary w} (h : x.code ≠ 0) :
    w.RoundsTo x.code (x.shortest tie).value := by
  unfold shortest
  rw [if_neg h]
  dsimp only
  rw [Decimal.value_strip]
  cases hhit : (List.range 17).findSome? fun n =>
      onGrid? w tie x.code (magnitudeExponent w x.code - (n + 1 : Nat)) with
  | none =>
    show w.RoundsTo x.code (Decimal.value ⟨_, _⟩)
    rw [value_exact]
    exact Width.roundsTo_magnitude h
  | some d =>
    obtain ⟨n, -, hgrid⟩ := List.exists_of_findSome?_eq_some hhit
    exact roundsTo_of_onGrid? hgrid

/-- Digits of one value are selected for numbers of one code. -/
theorem code_eq_of_value_shortest {tie : TieRule} {x y : Binary w} (hx : x.code ≠ 0)
    (hy : y.code ≠ 0) (h : (x.shortest tie).value = (y.shortest tie).value) : x.code = y.code :=
  (roundsTo_shortest tie hx).unique (h ▸ roundsTo_shortest tie hy)

end Binary

end Ontograph
