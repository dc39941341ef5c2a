import FlagBinding.Proofs.Numbers.Rounding

/-!
# The digits that are written

A number is written with the first decimal that a search from coarse to fine grids finds in its
interval. The search ends in time: on the last grid the neighbour above the number is closer than
the end of the interval.

## Main statements

* `holds_iff`: the test of a decimal is whether it rounds to the number.
* `shortest_roundsTo`: the digits that are written round to the number.
-/

namespace FlagBinding.Number

variable {format : FloatFormat} {m : Nat} {q : Int}

/-! ## The interval -/

/-- A decimal in places of `2 ^ q`, as a quotient. -/
theorem value_div_two_zpow (d : Decimal) (q : Int) : d.value / 2 ^ q =
    ((d.digits * 10 ^ d.exponent.toNat * (powerOfTwo q).2 : ℕ) : ℚ) /
      ((powerOfTwo q).1 * 10 ^ (-d.exponent).toNat : ℕ) := by
  rw [Decimal.value, zpow_eq_div_toNat, ← powerOfTwo_eq]
  push_cast
  field_simp

theorem places_pos (d : Decimal) (q : Int) :
    (0 : ℚ) < ((powerOfTwo q).1 * 10 ^ (-d.exponent).toNat : ℕ) := by
  exact_mod_cast Nat.mul_pos (powerOfTwo_pos q).1 (Nat.pow_pos (by decide))

theorem le_value_iff (d : Decimal) (q : Int) (n : Nat) : (n : ℚ) ≤ d.value / 2 ^ q ↔
    n * (powerOfTwo q).1 * 10 ^ (-d.exponent).toNat ≤
      d.digits * 10 ^ d.exponent.toNat * (powerOfTwo q).2 := by
  rw [value_div_two_zpow, le_div_iff₀ (places_pos d q), Nat.mul_assoc n]
  exact_mod_cast Iff.rfl

theorem value_le_iff (d : Decimal) (q : Int) (n : Nat) : d.value / 2 ^ q ≤ n ↔
    d.digits * 10 ^ d.exponent.toNat * (powerOfTwo q).2 ≤
      n * (powerOfTwo q).1 * 10 ^ (-d.exponent).toNat := by
  rw [value_div_two_zpow, div_le_iff₀ (places_pos d q), Nat.mul_assoc n]
  exact_mod_cast Iff.rfl

theorem holds_iff_of_ends (i : RoundingInterval) (d : Decimal) : i.holds d ↔
    i.low * 10 ^ (-d.exponent).toNat ≤ d.digits * 10 ^ d.exponent.toNat * i.denominator ∧
      d.digits * 10 ^ d.exponent.toNat * i.denominator ≤ i.high * 10 ^ (-d.exponent).toNat ∧
      (i.closed = false →
        i.low * 10 ^ (-d.exponent).toNat < d.digits * 10 ^ d.exponent.toNat * i.denominator ∧
        d.digits * 10 ^ d.exponent.toNat * i.denominator < i.high * 10 ^ (-d.exponent).toNat) := by
  unfold RoundingInterval.holds
  cases i.closed
  · simp only [Bool.false_eq_true, if_false, Bool.and_eq_true, decide_eq_true_eq, true_implies]
    omega
  · simp only [if_true, Bool.and_eq_true, decide_eq_true_eq, Bool.true_eq_false, false_implies,
      and_true]

/-- The test of a decimal is whether it lies in the interval of the number. -/
theorem holds_iff (nonzero : 0 < m) {d : Decimal} :
    (RoundingInterval.of format m q).holds d ↔ RoundsTo format m q d.value := by
  have reach : reachBelow format m q ≤ 4 * m := by
    unfold reachBelow
    split <;> omega
  have low : ((4 * m - reachBelow format m q : ℕ) : ℚ) = 4 * m - reachBelow format m q := by
    push_cast [reach]
    rfl
  have high : ((4 * m + 2 : ℕ) : ℚ) = 4 * m + 2 := by push_cast; rfl
  have odd : (m % 2 == 0) = false ↔ m % 2 = 1 := by simp
  rw [roundsTo_iff, holds_iff_of_ends, ← low, ← high, ← not_le (b := d.value / _),
    ← not_le (a := d.value / _), le_value_iff, value_le_iff, le_value_iff,
      value_le_iff, not_le, not_le]
  exact and_congr_right' (and_congr_right' (imp_congr_left odd))

/-! ## The search -/

variable {i : RoundingInterval} {tie : Tie} {e : Int}

theorem holds_of_onGrid? {d : Decimal} (found : i.onGrid? tie e = some d) : i.holds d := by
  simp only [RoundingInterval.onGrid?] at found
  split at found
  case h_1 => contradiction
  case h_2 down _ => exact Option.some.inj found ▸ down
  case h_3 _ up => exact Option.some.inj found ▸ up
  case h_4 down up =>
    split at found
    · exact Option.some.inj found ▸ down
    split at found
    · exact Option.some.inj found ▸ up
    split at found
    · exact Option.some.inj found ▸ down
    · exact Option.some.inj found ▸ up

/-- On a grid whose neighbour above the value lies in the interval, the search ends. -/
theorem isSome_onGrid? (tie : Tie)
    (up : i.holds ⟨i.value * 10 ^ (-e).toNat / (i.denominator * 10 ^ e.toNat) + 1, e⟩) :
    (i.onGrid? tie e).isSome := by
  simp only [RoundingInterval.onGrid?, up]
  split
  case h_1 off => contradiction
  case h_4 =>
    split
    · rfl
    split
    · rfl
    split <;> rfl
  all_goals rfl

/-- What is found in the interval of a number, if one of the grids has something in it. -/
theorem holds_search (i : RoundingInterval) (tie : Tie) {grids : Nat} {e : Int} {k : Nat}
    (tried : k < grids) (there : (i.onGrid? tie (e - k)).isSome) :
    i.holds (i.search tie e grids) := by
  induction grids generalizing e k with
  | zero => omega
  | succ grids ih =>
    unfold RoundingInterval.search
    split
    case h_1 d found => exact holds_of_onGrid? found
    case h_2 empty =>
      cases k with
      | zero => simp [empty] at there
      | succ k =>
        refine ih (Nat.lt_of_succ_lt_succ tried) ?_
        rwa [Int.natCast_succ, Int.add_comm, ← Int.sub_sub] at there

theorem value_normalize (d : Decimal) (fuel : Nat) : (d.normalize fuel).value = d.value := by
  induction fuel generalizing d with
  | zero => rfl
  | succ fuel ih =>
    unfold Decimal.normalize
    split
    case isTrue trailing =>
      have split : d.digits = 10 * (d.digits / 10) := by omega
      rw [ih, Decimal.value, Decimal.value, ten_zpow_add]
      conv_rhs => rw [split]
      push_cast
      ring
    case isFalse => rfl

theorem zpow_decimalOrder_le {num den : Nat} (nonzero : 0 < num) (positive : 0 < den) :
    (10 : ℚ) ^ decimalOrder num den ≤ num / den := by
  have positive' : (0 : ℚ) < den := by exact_mod_cast positive
  have low := zpow_lt_div (by norm_num) (length_toDigits_spec nonzero).1 positive'
    (l := (Nat.toDigits 10 den).length - 1) (by
      rw [Int.sub_add_cancel]
      exact (length_toDigits_spec positive).2)
  rw [show ∀ a b : Int, a - 1 - (b - 1) - 1 = a - b - 1 by omega] at low
  unfold decimalOrder
  generalize ((Nat.toDigits 10 num).length : Int) - (Nat.toDigits 10 den).length = e at low
  have reaches : den * 10 ^ e.toNat ≤ num * 10 ^ (-e).toNat ↔ (10 : ℚ) ^ e ≤ num / den := by
    have scale : (0 : ℚ) < 10 ^ (-e).toNat := by positivity
    rw [zpow_eq_div_toNat, div_le_div_iff₀ scale positive', mul_comm ((10 : ℚ) ^ e.toNat)]
    exact_mod_cast Iff.rfl
  simp only [reaches]
  split
  case isTrue here => exact here
  case isFalse => exact low.le

/-- The next decimal of a grid above a quotient. -/
theorem next_on_grid (num : Nat) {den : Nat} (positive : 0 < den) (e : Int) :
    let above : Decimal := ⟨num * 10 ^ (-e).toNat / (den * 10 ^ e.toNat) + 1, e⟩
    (num / den : ℚ) < above.value ∧ above.value ≤ num / den + 10 ^ e := by
  intro above
  have grid := ten_zpow_pos e
  have positive' : 0 < den * 10 ^ e.toNat := Nat.mul_pos positive (Nat.pow_pos (by decide))
  have places : (num / den : ℚ) =
      ((num * 10 ^ (-e).toNat : ℕ) / (den * 10 ^ e.toNat : ℕ) : ℚ) * 10 ^ e := by
    rw [zpow_eq_div_toNat]
    push_cast
    field_simp
  have digits : (above.digits : ℚ) =
      (num * 10 ^ (-e).toNat / (den * 10 ^ e.toNat) : ℕ) + 1 := Nat.cast_succ _
  have whole := eq_whole_add_rest (num * 10 ^ (-e).toNat) positive'
  have proper := rest_lt_one (num * 10 ^ (-e).toNat) positive'
  have rest : (0 : ℚ) ≤ (num * 10 ^ (-e).toNat % (den * 10 ^ e.toNat) : ℕ) /
      (den * 10 ^ e.toNat : ℕ) := div_nonneg (Nat.cast_nonneg _) (Nat.cast_nonneg _)
  rw [places, whole, ← add_one_mul, Decimal.value, digits]
  exact ⟨mul_lt_mul_of_pos_right (by linarith) grid,
    mul_le_mul_of_nonneg_right (by linarith) grid.le⟩

theorem value_interval (format : FloatFormat) (m : Nat) (q : Int) :
    ((RoundingInterval.of format m q).value / (RoundingInterval.of format m q).denominator : ℚ) =
      4 * m * 2 ^ (q - 2) := by
  rw [← powerOfTwo_eq]
  simp only [RoundingInterval.of]
  push_cast
  ring

/-- On a grid that is fine enough, the next decimal above a number rounds to it. -/
theorem roundsTo_next (fine : (10 : ℚ) ^ e < 2 * 2 ^ (q - 2)) {i : RoundingInterval}
    (interval : RoundingInterval.of format m q = i) : RoundsTo format m q
      (Decimal.mk (i.value * 10 ^ (-e).toNat / (i.denominator * 10 ^ e.toNat) + 1) e).value := by
  have unit := two_zpow_pos (q - 2)
  have down : 0 < i.denominator := interval ▸ (powerOfTwo_pos (q - 2)).2
  have ⟨above, close⟩ := next_on_grid i.value down e
  have value := value_interval format m q
  rw [interval] at value
  rw [value] at above close
  have low := (lt_div_iff₀ unit).2 above
  have high := (div_lt_iff₀ unit).2 ((close.trans_lt (add_lt_add_right fine _)).trans_eq
    (add_mul (4 * m : ℚ) 2 _).symm)
  have reach : (0 : ℚ) ≤ reachBelow format m q := Nat.cast_nonneg _
  exact ⟨by linarith, high.le, fun _ => ⟨by linarith, high⟩⟩

/-- The digits that are written for a number round to it. -/
theorem shortest_roundsTo (standard : format.IsStandard) (canonical : IsCanonical format m q)
    (nonzero : 0 < m) (tie : Tie) : RoundsTo format m q (shortest format tie m q).value := by
  have unit := two_zpow_pos (q - 2)
  rw [shortest, value_normalize, ← holds_iff nonzero]
  -- On the last grid, seventeen places below the first digit, the next decimal is close enough.
  refine holds_search _ tie (k := 17) (by decide) (isSome_onGrid? tie ?_)
  rw [holds_iff nonzero]
  refine roundsTo_next ?_ rfl
  have positive : 0 < 4 * m * (powerOfTwo (q - 2)).1 :=
    Nat.mul_pos (Nat.mul_pos (by decide) nonzero) (powerOfTwo_pos (q - 2)).1
  have order := (zpow_decimalOrder_le positive (powerOfTwo_pos (q - 2)).2).trans_eq
    (value_interval format m q)
  have bits : (m : ℚ) < 2 ^ 55 := by
    have := canonical.fits.trans_le (Nat.pow_le_pow_right (by decide) standard.narrow)
    exact_mod_cast this
  rw [sub_eq_add_neg, ten_zpow_add]
  calc _ ≤ 4 * m * 2 ^ (q - 2) * (10 : ℚ) ^ (-17 : Int) :=
        mul_le_mul_of_nonneg_right order (ten_zpow_pos _).le
    _ < 4 * 2 ^ 55 * 2 ^ (q - 2) * (10 : ℚ) ^ (-17 : Int) := by gcongr
    _ ≤ 2 * 2 ^ (q - 2) := by
        have : (4 : ℚ) * 2 ^ 55 * 10 ^ (-17 : Int) ≤ 2 := by norm_num
        calc _ = 4 * 2 ^ 55 * (10 : ℚ) ^ (-17 : Int) * 2 ^ (q - 2) := by ring
          _ ≤ _ := mul_le_mul_of_nonneg_right this unit.le

end FlagBinding.Number
