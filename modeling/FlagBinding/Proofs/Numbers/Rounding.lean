import FlagBinding.Number.Shortest
import Mathlib.Data.Int.Log
import Mathlib.Data.Rat.Floor
import Mathlib.Tactic.FieldSimp
import Mathlib.Tactic.MkIffOfInductiveProp
import Mathlib.Tactic.Linarith
import Mathlib.Tactic.NormNum
import Mathlib.Tactic.Positivity
import Mathlib.Tactic.Ring

/-!
# Rounding to binary numbers

The numbers of a format are finitely many points of the rational line, and around each of them is an
interval of all that rounds to it. Quotients and decimals are rounded in natural numbers; here it is
proved that they are rounded to the number in whose interval they lie.

## Main definitions

* `IsCanonical`: the one form in which a format has a number.
* `RoundsTo`: the interval around a number.
* `FloatFormat.IsStandard`: what is asked of a format.

## Main statements

* `ofRatio_of_roundsTo`, `ofDecimal_of_roundsTo`: quotients and decimals in the interval of a number
  are rounded to it.
-/

namespace FlagBinding.Number

/-- A significand and an exponent in the one form in which a format has them. -/
@[mk_iff] structure IsCanonical (format : FloatFormat) (m : Nat) (q : Int) : Prop where
  fits : m < 2 ^ format.precision
  least : format.leastExponent ≤ q
  greatest : q ≤ format.greatestExponent
  /-- The significand has all its bits, unless the number is among the smallest ones. -/
  full : 2 ^ (format.precision - 1) ≤ m ∨ q = format.leastExponent

instance (format : FloatFormat) (m : Nat) (q : Int) : Decidable (IsCanonical format m q) :=
  decidable_of_iff' _ (isCanonical_iff format m q)

/-- How far the interval around `m * 2 ^ q` reaches down, in quarters of `2 ^ q`. -/
def reachBelow (format : FloatFormat) (m : Nat) (q : Int) : Nat :=
  if m = 2 ^ (format.precision - 1) ∧ format.leastExponent < q then 1 else 2

/-- A quotient lies in the interval of what rounds to `m * 2 ^ q`. The ends, halfway to the
neighbours, belong to the number with an even significand. -/
@[mk_iff] structure RoundsTo (format : FloatFormat) (m : Nat) (q : Int) (x : ℚ) : Prop where
  low : (4 * m - reachBelow format m q : ℚ) ≤ x / 2 ^ (q - 2)
  high : x / 2 ^ (q - 2) ≤ (4 * m + 2 : ℚ)
  inside : m % 2 = 1 →
    (4 * m - reachBelow format m q : ℚ) < x / 2 ^ (q - 2) ∧ x / 2 ^ (q - 2) < (4 * m + 2 : ℚ)

/-- A format whose numbers have at least two and at most 55 bits and lie between `10 ^ -400` and
`10 ^ 400`. -/
structure FloatFormat.IsStandard (format : FloatFormat) : Prop where
  wide : 2 ≤ format.precision
  narrow : format.precision ≤ 55
  lower : -1326 ≤ format.leastExponent
  upper : format.greatestExponent + format.precision ≤ 1328

theorem isStandard_single : FloatFormat.single.IsStandard := by
  constructor <;> decide

theorem isStandard_double : FloatFormat.double.IsStandard := by
  constructor <;> decide

/-! ## Powers -/

theorem two_zpow_pos (q : Int) : (0 : ℚ) < 2 ^ q := zpow_pos (by norm_num) q

theorem ten_zpow_pos (q : Int) : (0 : ℚ) < 10 ^ q := zpow_pos (by norm_num) q

theorem two_zpow_add (a b : Int) : (2 : ℚ) ^ (a + b) = 2 ^ a * 2 ^ b := zpow_add₀ (by norm_num) a b

theorem ten_zpow_add (a b : Int) : (10 : ℚ) ^ (a + b) = 10 ^ a * 10 ^ b :=
    zpow_add₀ (by norm_num) a b

theorem zpow_eq_div_toNat (base : ℚ) (q : Int) :
    base ^ q = base ^ q.toNat / base ^ (-q).toNat := by
  rcases Int.le_total 0 q with up | down
  · obtain ⟨n, rfl⟩ := Int.eq_ofNat_of_zero_le up
    simp
  · obtain ⟨n, rfl⟩ := Int.exists_eq_neg_ofNat down
    simp

theorem powerOfTwo_eq (q : Int) : ((powerOfTwo q).1 : ℚ) / (powerOfTwo q).2 = 2 ^ q := by
  rw [zpow_eq_div_toNat, powerOfTwo]
  push_cast
  rfl

theorem powerOfTwo_pos (q : Int) : 0 < (powerOfTwo q).1 ∧ 0 < (powerOfTwo q).2 :=
  ⟨Nat.pow_pos (by decide), Nat.pow_pos (by decide)⟩

/-! ## Quotients -/

theorem eq_whole_add_rest (num : Nat) {den : Nat} (positive : 0 < den) :
    (num / den : ℚ) = (num / den : ℕ) + (num % den : ℕ) / den := by
  have split : (num : ℚ) = den * (num / den : ℕ) + (num % den : ℕ) := by
    exact_mod_cast (Nat.div_add_mod num den).symm
  have nonzero : (den : ℚ) ≠ 0 := by exact_mod_cast positive.ne'
  field_simp
  exact split

theorem rest_lt_one (num : Nat) {den : Nat} (positive : 0 < den) :
    ((num % den : ℕ) / den : ℚ) < 1 := by
  rw [div_lt_one (by exact_mod_cast positive)]
  exact_mod_cast Nat.mod_lt num positive

/-- What is nearer to a natural number than a half, or a half away from an even one, is rounded to
it. -/
theorem roundDiv_eq {num den n : Nat} (positive : 0 < den) (low : (2 * n - 1 : ℚ) ≤ 2 * (num / den))
    (high : 2 * (num / den) ≤ (2 * n + 1 : ℚ))
    (inside : n % 2 = 1 → (2 * n - 1 : ℚ) < 2 * (num / den) ∧ 2 * (num / den) < (2 * n + 1 : ℚ)) :
    roundDiv num den = n := by
  have positive' : (0 : ℚ) < den := by exact_mod_cast positive
  have proper := rest_lt_one num positive
  have rest : (0 : ℚ) ≤ (num % den : ℕ) / den := by positivity
  have below : 2 * (num % den) < den ↔ 2 * (((num % den : ℕ) : ℚ) / den) < 1 := by
    rw [← mul_div_assoc, div_lt_one positive']
    exact_mod_cast Iff.rfl
  have above : den < 2 * (num % den) ↔ 1 < 2 * (((num % den : ℕ) : ℚ) / den) := by
    rw [← mul_div_assoc, one_lt_div positive']
    exact_mod_cast Iff.rfl
  rw [eq_whole_add_rest num positive] at low high inside
  simp only [roundDiv, below, above]
  generalize num / den = whole at *
  generalize ((num % den : ℕ) : ℚ) / den = r at *
  -- The number is the whole part or the one after it.
  obtain rfl | rfl : n = whole ∨ n = whole + 1 := by
    have least : (whole : ℚ) < n + 1 := by linarith
    have most : (n : ℚ) < whole + 2 := by linarith
    have least : whole < n + 1 := by exact_mod_cast least
    have most : n < whole + 2 := by exact_mod_cast most
    omega
  case inl =>
    split
    · rfl
    · rw [if_neg (by linarith), if_pos]
      by_contra odd
      have := (inside (by omega)).2
      linarith
  case inr =>
    push_cast at low high inside
    rw [if_neg (by linarith)]
    split
    · rfl
    · refine if_neg fun even => ?_
      have := (inside (by omega)).1
      linarith

/-- A quotient lies between the powers that its parts have. -/
theorem zpow_lt_div {base : ℚ} (large : 1 < base) {num den : ℚ} {k l : Int} (below : base ^ k ≤ num)
    (positive : 0 < den) (above : den < base ^ (l + 1)) : base ^ (k - l - 1) < num / den := by
  have base_pos : 0 < base := by linarith
  rw [lt_div_iff₀ positive]
  calc base ^ (k - l - 1) * den < base ^ (k - l - 1) * base ^ (l + 1) := by
        exact mul_lt_mul_of_pos_left above (zpow_pos base_pos _)
    _ = base ^ k := by rw [← zpow_add₀ base_pos.ne']; congr 1; omega
    _ ≤ num := below

theorem div_lt_zpow {base : ℚ} (large : 1 < base) {num den : ℚ} {k l : Int}
    (above : num < base ^ (k + 1)) (below : base ^ l ≤ den) : num / den < base ^ (k - l + 1) := by
  have base_pos : 0 < base := by linarith
  have power : 0 < base ^ l := zpow_pos base_pos l
  rw [div_lt_iff₀ (power.trans_le below)]
  calc num < base ^ (k + 1) := above
    _ = base ^ (k - l + 1) * base ^ l := by rw [← zpow_add₀ base_pos.ne']; congr 1; omega
    _ ≤ base ^ (k - l + 1) * den := mul_le_mul_of_nonneg_left below (zpow_pos base_pos _).le

theorem log2_spec {n : Nat} (nonzero : 0 < n) :
    (2 : ℚ) ^ (Nat.log2 n : Int) ≤ n ∧ (n : ℚ) < 2 ^ ((Nat.log2 n : Int) + 1) := by
  have below : 2 ^ Nat.log2 n ≤ n := Nat.log2_self_le nonzero.ne'
  have above : n < 2 ^ (Nat.log2 n + 1) := Nat.lt_log2_self
  constructor
  · rw [zpow_natCast]
    exact_mod_cast below
  · rw [← Int.natCast_succ, zpow_natCast]
    exact_mod_cast above

/-- The binary order of a quotient is the exponent of the power of two below it. -/
theorem binaryOrder_spec {num den : Nat} (nonzero : 0 < num) (positive : 0 < den) :
    (2 : ℚ) ^ binaryOrder num den ≤ num / den ∧
    (num / den : ℚ) < 2 ^ (binaryOrder num den + 1) := by
  have positive' : (0 : ℚ) < den := by exact_mod_cast positive
  have ⟨numLow, numHigh⟩ := log2_spec nonzero
  have ⟨denLow, denHigh⟩ := log2_spec positive
  have low := zpow_lt_div (by norm_num) numLow positive' denHigh
  have high := div_lt_zpow (by norm_num) numHigh denLow
  unfold binaryOrder
  generalize (Nat.log2 num : Int) - Nat.log2 den = e at low high
  have reaches : den * (powerOfTwo e).1 ≤ num * (powerOfTwo e).2 ↔ (2 : ℚ) ^ e ≤ num / den := by
    have down : (0 : ℚ) < (powerOfTwo e).2 := by exact_mod_cast (powerOfTwo_pos e).2
    rw [← powerOfTwo_eq, div_le_div_iff₀ down positive', mul_comm ((powerOfTwo e).1 : ℚ)]
    exact_mod_cast Iff.rfl
  simp only [reaches]
  split
  case isTrue here => exact ⟨here, high⟩
  case isFalse beyond => exact ⟨low.le, by simpa using beyond⟩

/-- Rounding to the grid of a power of two. -/
theorem roundDiv_powerOfTwo {num den n : Nat} {e : Int} (positive : 0 < den)
    (low : (2 * n - 1 : ℚ) ≤ 2 * (num / den / 2 ^ e))
    (high : 2 * (num / den / 2 ^ e) ≤ (2 * n + 1 : ℚ))
    (inside : n % 2 = 1 →
      (2 * n - 1 : ℚ) < 2 * (num / den / 2 ^ e) ∧ 2 * (num / den / 2 ^ e) < (2 * n + 1 : ℚ)) :
    roundDiv (num * (powerOfTwo e).2) (den * (powerOfTwo e).1) = n := by
  have ⟨up, down⟩ := powerOfTwo_pos e
  have same : ((num * (powerOfTwo e).2 : ℕ) : ℚ) / ((den * (powerOfTwo e).1 : ℕ) : ℚ) =
      num / den / 2 ^ e := by
    rw [← powerOfTwo_eq]
    push_cast
    field_simp
  rw [← same] at low high inside
  exact roundDiv_eq (Nat.mul_pos positive up) low high inside

variable {format : FloatFormat} {m : Nat} {q : Int} {x : ℚ}

theorem reachBelow_le_two (format : FloatFormat) (m : Nat) (q : Int) :
    (reachBelow format m q : ℚ) ≤ 2 := by
  unfold reachBelow
  split <;> norm_num

theorem div_two_zpow (x : ℚ) (q : Int) : x / 2 ^ q = x / 2 ^ (q - 2) / 4 := by
  rw [div_div, show q = q - 2 + 2 by omega, two_zpow_add, Int.add_sub_cancel]
  norm_num

theorem div_two_zpow_sub_one (x : ℚ) (q : Int) : x / 2 ^ (q - 1) = x / 2 ^ (q - 2) / 2 := by
  rw [div_div, show q - 1 = q - 2 + 1 by omega, two_zpow_add]
  norm_num

/-- A power of two above the numbers of a binade, in quarters of their last place. -/
theorem lt_zpow_iff (bits : Nat) : x < 2 ^ (q + bits) ↔ x / 2 ^ (q - 2) < 4 * 2 ^ bits := by
  have split : (2 : ℚ) ^ (q + bits) = 4 * 2 ^ bits * 2 ^ (q - 2) := by
    rw [← zpow_natCast, show q + (bits : Int) = 2 + bits + (q - 2) by omega,
      two_zpow_add, two_zpow_add]
    norm_num
  rw [split, div_lt_iff₀ (two_zpow_pos _)]

/-- All that rounds to a number lies below the power of two above it. -/
theorem RoundsTo.lt_zpow (h : RoundsTo format m q x) (fits : m < 2 ^ format.precision) :
    x < 2 ^ (q + format.precision) := by
  have bound : (m : ℚ) + 1 ≤ 2 ^ format.precision := by exact_mod_cast fits
  rw [lt_zpow_iff]
  have := h.high
  linarith

/-- What rounds to a number but lies in the binade below rounds to the least number of its
binade. -/
theorem RoundsTo.of_lt_zpow (h : RoundsTo format m q x) (above : format.leastExponent < q)
    (full : 2 ^ (format.precision - 1) ≤ m) (early : x < 2 ^ (q + (format.precision - 1 : ℕ))) :
    m = 2 ^ (format.precision - 1) ∧ (4 * m - 1 : ℚ) ≤ x / 2 ^ (q - 2) := by
  rw [lt_zpow_iff] at early
  have low := h.low
  have least : m = 2 ^ (format.precision - 1) := by
    by_contra other
    have reach : reachBelow format m q = 2 := if_neg fun edge => other edge.1
    have next : (2 : ℚ) ^ (format.precision - 1) + 1 ≤ m := by
      exact_mod_cast Nat.lt_of_le_of_ne full (Ne.symm other)
    rw [reach] at low
    push_cast at low
    linarith
  have reach : reachBelow format m q = 1 := if_pos ⟨least, above⟩
  exact ⟨least, by simpa [reach] using low⟩

theorem binaryOrder_lt {num den : Nat} {k : Int} (nonzero : 0 < num) (positive : 0 < den)
    (below : (num / den : ℚ) < 2 ^ k) : binaryOrder num den < k :=
  (zpow_lt_zpow_iff_right₀ (by norm_num)).1 ((binaryOrder_spec nonzero positive).1.trans_lt below)

theorem le_binaryOrder {num den : Nat} {k : Int} (nonzero : 0 < num) (positive : 0 < den)
    (above : 2 ^ k ≤ (num / den : ℚ)) : k ≤ binaryOrder num den :=
  Int.lt_add_one_iff.1 ((zpow_lt_zpow_iff_right₀ (by norm_num)).1
    (above.trans_lt (binaryOrder_spec nonzero positive).2))

section Quotients

variable {num den : Nat} (standard : format.IsStandard) (canonical : IsCanonical format m q)
  (nonzero : 0 < num) (positive : 0 < den) (h : RoundsTo format m q (num / den)) (negative : Bool)
include standard canonical nonzero positive h

/-- A quotient in the binade below is rounded up to the end of that binade. -/
theorem ofRatio_of_early (above : format.leastExponent < q)
    (early : (num / den : ℚ) < 2 ^ (q + (format.precision - 1 : ℕ))) :
    (Floating.ofRatio negative num den : Floating format) = .finite negative m q := by
  have wide := standard.wide
  have power : 2 ^ format.precision = 2 * 2 ^ (format.precision - 1) := by
    rw [← Nat.pow_succ', Nat.succ_eq_add_one, Nat.sub_add_cancel (by omega)]
  obtain ⟨least, near⟩ := h.of_lt_zpow above (canonical.full.resolve_right above.ne') early
  have place : max format.leastExponent (binaryOrder num den + 1 - format.precision) = q - 1 := by
    have late : (2 : ℚ) ^ (q + (format.precision - 2 : ℕ)) ≤ num / den := by
      by_contra earlier
      rw [not_le, lt_zpow_iff] at earlier
      have half : m = 2 * 2 ^ (format.precision - 2) := by
        rw [least, ← Nat.pow_succ', Nat.succ_eq_add_one]
        congr 1
        omega
      have half : (m : ℚ) = 2 * 2 ^ (format.precision - 2) := by exact_mod_cast half
      have positive : (1 : ℚ) ≤ 2 ^ (format.precision - 2) := one_le_pow₀ (by norm_num)
      linarith
    have := binaryOrder_lt nonzero positive early
    have := le_binaryOrder nonzero positive late
    omega
  have rounded : roundDiv (num * (powerOfTwo (q - 1)).2) (den * (powerOfTwo (q - 1)).1) =
      2 ^ format.precision := by
    have whole : ((2 ^ format.precision : ℕ) : ℚ) = 2 * m := by rw [power, least]; push_cast; rfl
    rw [lt_zpow_iff] at early
    have edge : (m : ℚ) = 2 ^ (format.precision - 1) := by rw [least]; push_cast; rfl
    apply roundDiv_powerOfTwo positive
    all_goals rw [div_two_zpow_sub_one, whole]
    · linarith
    · linarith
    · omega
  simp only [Floating.ofRatio, if_neg nonzero.ne', place, rounded, if_true, Int.sub_add_cancel,
    if_neg (Int.not_lt.2 canonical.greatest)]
  rw [power, Nat.mul_div_cancel_left _ (by decide), least]

/-- A quotient in the binade of the number, or among the smallest ones, is rounded in the last
place. -/
theorem ofRatio_of_late (late : format.leastExponent < q →
      2 ^ (q + (format.precision - 1 : ℕ)) ≤ (num / den : ℚ)) :
    (Floating.ofRatio negative num den : Floating format) = .finite negative m q := by
  have wide := standard.wide
  have place : max format.leastExponent (binaryOrder num den + 1 - format.precision) = q := by
    have := canonical.least
    have := binaryOrder_lt nonzero positive (h.lt_zpow canonical.fits)
    by_cases above : format.leastExponent < q
    · have := le_binaryOrder nonzero positive (late above)
      omega
    · omega
  have rounded : roundDiv (num * (powerOfTwo q).2) (den * (powerOfTwo q).1) = m := by
    have reach := reachBelow_le_two format m q
    have low := h.low
    have high := h.high
    apply roundDiv_powerOfTwo positive
    all_goals rw [div_two_zpow]
    · linarith
    · linarith
    · intro odd
      have ⟨low, high⟩ := h.inside odd
      constructor <;> linarith
  have proper : m ≠ 2 ^ format.precision := canonical.fits.ne
  simp only [Floating.ofRatio, if_neg nonzero.ne', place, rounded, if_neg proper,
    if_neg (Int.not_lt.2 canonical.greatest)]

/-- A quotient that lies in the interval of a number is rounded to it. -/
theorem ofRatio_of_roundsTo :
    (Floating.ofRatio negative num den : Floating format) = .finite negative m q := by
  by_cases early : format.leastExponent < q ∧ (num / den : ℚ) < 2 ^ (q + (format.precision - 1 : ℕ))
  · exact ofRatio_of_early standard canonical nonzero positive h negative early.1 early.2
  · exact ofRatio_of_late standard canonical nonzero positive h negative
      fun above => not_lt.1 fun early' => early ⟨above, early'⟩

end Quotients

/-! ## Decimals -/

def Decimal.value (d : Decimal) : ℚ :=
  d.digits * 10 ^ d.exponent

theorem length_toDigits_spec {n : Nat} (nonzero : 0 < n) :
    (10 : ℚ) ^ (((Nat.toDigits 10 n).length : Int) - 1) ≤ n ∧
      (n : ℚ) < 10 ^ ((Nat.toDigits 10 n).length : Int) := by
  have positive : 0 < (Nat.toDigits 10 n).length := List.length_pos_iff.2 Nat.toDigits_ne_nil
  have above : n < 10 ^ (Nat.toDigits 10 n).length :=
    (Nat.length_toDigits_le_iff (by decide) positive).1 (Nat.le_refl _)
  have below : 10 ^ ((Nat.toDigits 10 n).length - 1) ≤ n := by
    by_contra less
    by_cases single : (Nat.toDigits 10 n).length - 1 = 0
    · rw [single] at less
      omega
    · have := (Nat.length_toDigits_le_iff (by decide) (Nat.pos_of_ne_zero single)).2 (not_le.1 less)
      omega
  constructor
  · rw [← Nat.cast_one, ← Int.natCast_sub positive, zpow_natCast]
    exact_mod_cast below
  · rw [zpow_natCast]
    exact_mod_cast above

theorem RoundsTo.zpow_le (h : RoundsTo format m q x) (nonzero : 0 < m) : 2 ^ (q - 1) ≤ x := by
  have reach := reachBelow_le_two format m q
  have one : (1 : ℚ) ≤ m := by exact_mod_cast nonzero
  have low := h.low
  rw [show q - 1 = 1 + (q - 2) by omega, two_zpow_add, ← le_div_iff₀ (two_zpow_pos _), zpow_one]
  linarith

theorem two_zpow_lt : (2 : ℚ) ^ (1328 : Int) < 10 ^ (400 : Int) := by
  have root : (2 : ℚ) ^ 166 < 10 ^ 50 := by norm_num
  calc (2 : ℚ) ^ (1328 : Int) = (2 ^ 166) ^ 8 := by rw [← pow_mul]; exact zpow_natCast 2 (166 * 8)
    _ < (10 ^ 50) ^ 8 := pow_lt_pow_left₀ root (by norm_num) (by decide)
    _ = 10 ^ (400 : Int) := by rw [← pow_mul]; exact (zpow_natCast 10 (50 * 8)).symm

theorem lt_two_zpow : (10 : ℚ) ^ (-400 : Int) < 2 ^ (-1328 : Int) := by
  rw [zpow_neg, zpow_neg]
  exact inv_strictAnti₀ (two_zpow_pos _) two_zpow_lt

/-- A decimal that lies in the interval of a number is rounded to it: the bounds for its order of
magnitude let it pass. -/
theorem ofDecimal_of_roundsTo (standard : format.IsStandard) (canonical : IsCanonical format m q)
    (nonzero : 0 < m) {d : Decimal} (h : RoundsTo format m q d.value) (negative : Bool) :
    (Floating.ofDecimal negative d.digits d.exponent : Floating format) = .finite negative m q := by
  have low : (2 : ℚ) ^ (-1328 : Int) ≤ d.value := by
    have := canonical.least
    have := standard.lower
    exact (zpow_le_zpow_right₀ (by norm_num) (by omega)).trans (h.zpow_le nonzero)
  have high : d.value < 2 ^ (1328 : Int) := by
    have := canonical.greatest
    have := standard.upper
    exact (h.lt_zpow canonical.fits).trans_le (zpow_le_zpow_right₀ (by norm_num) (by omega))
  have positive : 0 < d.digits := by
    refine Nat.pos_of_ne_zero fun zero => ?_
    have := (two_zpow_pos (-1328)).trans_le low
    simp [Decimal.value, zero] at this
  have ⟨least, most⟩ := length_toDigits_spec positive
  have magnitude := ten_zpow_pos d.exponent
  have notSmall : ¬ d.exponent + (Nat.toDigits 10 d.digits).length < -400 := by
    intro small
    have : d.value < 10 ^ (-400 : Int) := calc
      d.value < 10 ^ ((Nat.toDigits 10 d.digits).length : Int) * 10 ^ d.exponent :=
        mul_lt_mul_of_pos_right most magnitude
      _ = 10 ^ (((Nat.toDigits 10 d.digits).length : Int) + d.exponent) := (ten_zpow_add _ _).symm
      _ ≤ 10 ^ (-400 : Int) := zpow_le_zpow_right₀ (by norm_num) (by omega)
    exact lt_irrefl _ (this.trans (lt_two_zpow.trans_le low))
  have notLarge : ¬ 400 < d.exponent + (Nat.toDigits 10 d.digits).length := by
    intro large
    have : (10 : ℚ) ^ (400 : Int) ≤ d.value := calc
      (10 : ℚ) ^ (400 : Int) ≤ 10 ^ (((Nat.toDigits 10 d.digits).length : Int) - 1 + d.exponent) :=
        zpow_le_zpow_right₀ (by norm_num) (by omega)
      _ = 10 ^ (((Nat.toDigits 10 d.digits).length : Int) - 1) * 10 ^ d.exponent := ten_zpow_add _ _
      _ ≤ d.value := mul_le_mul_of_nonneg_right least magnitude.le
    exact lt_irrefl _ (this.trans_lt (high.trans two_zpow_lt))
  have scaled :
      ((d.digits * 10 ^ d.exponent.toNat : ℕ) : ℚ) / ((10 ^ (-d.exponent).toNat : ℕ) : ℚ) =
      d.value := by
    rw [Decimal.value, zpow_eq_div_toNat]
    push_cast
    ring
  simp only [Floating.ofDecimal, if_neg positive.ne', if_neg notSmall, if_neg notLarge]
  refine ofRatio_of_roundsTo standard canonical ?_ (Nat.pow_pos (by decide)) (scaled ▸ h) negative
  exact Nat.mul_pos positive (Nat.pow_pos (by decide))

end FlagBinding.Number
