import FlagBinding.Proofs.Durations.Canonical
import FlagBinding.Proofs.Durations.Texts
import Mathlib.Algebra.Order.Floor.Semifield
import Mathlib.Data.Rat.Floor
import Mathlib.Tactic.NormNum

/-!
# What is lost of a fraction

The digits behind the point of a component are counted one by one, each in whole nanoseconds. That
is exact as long as the place of a digit is worth a whole number of nanoseconds: for all digits of a
nanosecond up to a second, for ten digits of a minute and eleven of an hour. What the digits past
those are worth together may be more than is counted of them one by one: up to five nanoseconds of a
minute and eight of an hour.

## Main definitions

* `TimeUnit.places`, `TimeUnit.grain`: the places of a unit that are exact, and what the last one is
  worth.
* `Component.exactNanos`: the exact length of a component.
* `Component.lost`: the whole nanoseconds that are not counted.

## Main statements

* `floor_exactNanos`: what is counted and what is lost make up the exact length, rounded down.
* `lost_le`: the greatest loss.
* `parseTotal_eq_floor_sub_lost`: the number that a text is read as.
-/

namespace FlagBinding.Time

open Number

namespace TimeUnit

/-- The places behind the point of a unit that are worth whole numbers of nanoseconds. -/
def places : TimeUnit → Nat
  | .nanosecond => 0
  | .microsecond => 3
  | .millisecond => 6
  | .second => 9
  | .minute => 10
  | .hour => 11

/-- What the last of these places is worth, in nanoseconds. -/
def grain : TimeUnit → Nat
  | .minute => 6
  | .hour => 36
  | _ => 1

/-- The most that may be lost of a fraction, in nanoseconds. -/
def greatestLoss : TimeUnit → Nat
  | .minute => 5
  | .hour => 8
  | _ => 0

theorem nanos_eq_grain_mul (u : TimeUnit) : u.nanos = u.grain * 10 ^ u.places := by
  cases u <;> decide

theorem grain_pos (u : TimeUnit) : 0 < u.grain := by
  cases u <;> decide

end TimeUnit

namespace Duration

variable {c : Component} {cs : List Component} {ds : List Char}

def Component.number (c : Component) : ℚ :=
  Nat.ofDigitChars 10 (c.whole ++ c.fraction) 0 / 10 ^ c.fraction.length

/-- The exact length of a component, in nanoseconds. -/
def Component.exactNanos (c : Component) : ℚ :=
  c.number * c.unit.nanos

def Component.past (c : Component) : List Char :=
  c.fraction.drop c.unit.places

/-- The whole nanoseconds of these digits together, as far as they are not counted one by one. -/
def Component.lost (c : Component) : Nat :=
  Nat.ofDigitChars 10 c.past 0 * c.unit.grain / 10 ^ c.past.length -
    fractionNanos c.unit.grain c.past

/-! ## Fractions -/

/-- As long as places are worth whole numbers of nanoseconds, what is counted is exact. -/
theorem fractionNanos_add {grain : Nat} (positive : 0 < grain) (places : Nat) (ds : List Char) :
    fractionNanos (grain * 10 ^ places) ds +
        Nat.ofDigitChars 10 (ds.drop places) 0 * grain / 10 ^ (ds.drop places).length =
      Nat.ofDigitChars 10 ds 0 * (grain * 10 ^ places) / 10 ^ ds.length +
        fractionNanos grain (ds.drop places) := by
  induction places generalizing ds with
  | zero => simp [Nat.add_comm]
  | succ places ih =>
    cases ds with
    | nil => simp [fractionNanos]
    | cons d ds =>
      have worth : grain * 10 ^ (places + 1) / 10 = grain * 10 ^ places := by
        rw [Nat.pow_succ, ← Nat.mul_assoc, Nat.mul_div_cancel _ (by decide)]
      have some : grain * 10 ^ places ≠ 0 :=
        Nat.pos_iff_ne_zero.1 (Nat.mul_pos positive (Nat.pow_pos (by decide)))
      have first :
          Nat.ofDigitChars 10 (d :: ds) 0 * (grain * 10 ^ (places + 1)) / 10 ^ (ds.length + 1) =
          (d.toNat - '0'.toNat) * (grain * 10 ^ places) +
            Nat.ofDigitChars 10 ds 0 * (grain * 10 ^ places) / 10 ^ ds.length := by
        rw [ofDigitChars_cons_zero, Nat.pow_succ, Nat.pow_succ, ← Nat.mul_assoc grain,
          ← Nat.mul_assoc, Nat.mul_div_mul_right _ _ (by decide), Nat.add_mul, Nat.mul_assoc,
          Nat.mul_add_div (Nat.pow_pos (by decide))]
      rw [fractionNanos, worth, List.drop_succ_cons, List.length_cons, first]
      simp only [some, if_false]
      rw [Nat.add_assoc, Nat.add_assoc, ih]

/-- The exact length, rounded down: the whole units and the fraction of one. -/
theorem floor_exactNanos_eq (c : Component) : ⌊c.exactNanos⌋₊ =
    Nat.ofDigitChars 10 c.whole 0 * c.unit.nanos +
      Nat.ofDigitChars 10 c.fraction 0 * c.unit.nanos / 10 ^ c.fraction.length := by
  have quotient : c.exactNanos =
      (((10 ^ c.fraction.length * Nat.ofDigitChars 10 c.whole 0 +
          Nat.ofDigitChars 10 c.fraction 0) * c.unit.nanos : Nat) : ℚ) /
        (10 ^ c.fraction.length : Nat) := by
    rw [Component.exactNanos, Component.number, Nat.ofDigitChars_append,
      Nat.ofDigitChars_eq_ofDigitChars_zero]
    push_cast
    ring
  rw [quotient, Nat.floor_div_eq_div, Nat.add_mul, Nat.mul_assoc,
    Nat.mul_add_div (Nat.pow_pos (by decide))]

/-- What is counted of a component and what is lost make up its exact length, rounded down. -/
theorem floor_exactNanos (c : Component) : ⌊c.exactNanos⌋₊ = c.nanos + c.lost := by
  have counted := fractionNanos_mul_le c.unit.grain c.past
  rw [← Nat.le_div_iff_mul_le (Nat.pow_pos (by decide))] at counted
  have exact := fractionNanos_add (TimeUnit.grain_pos c.unit) c.unit.places c.fraction
  rw [← TimeUnit.nanos_eq_grain_mul] at exact
  rw [floor_exactNanos_eq, nanos_eq, Component.lost]
  unfold Component.past at counted ⊢
  omega

/-! ## What is lost -/

/-- Of the digits past the exact places of an hour only the first counts, and that for three
nanoseconds instead of three and six tenths. -/
theorem fractionNanos_hour (d : Char) (ds : List Char) :
    fractionNanos 36 (d :: ds) = (d.toNat - '0'.toNat) * 3 := by
  cases ds <;> simp [fractionNanos]

theorem digits_past (digits : ∀ d ∈ c.fraction, isDigit d) : ∀ d ∈ c.past, isDigit d :=
  fun d mem => digits d (List.mem_of_mem_drop mem)

/-- The digits past the exact places are worth less than the last of these places. -/
theorem past_lt (digits : ∀ d ∈ c.fraction, isDigit d) :
    Nat.ofDigitChars 10 c.past 0 * c.unit.grain / 10 ^ c.past.length < c.unit.grain :=
  Nat.div_lt_of_lt_mul
    (Nat.mul_lt_mul_of_pos_right (ofDigitChars_lt (digits_past digits)) (TimeUnit.grain_pos c.unit))

theorem lost_eq_zero (short : c.fraction.length ≤ c.unit.places) : c.lost = 0 := by
  simp [Component.lost, Component.past, List.drop_eq_nil_of_le short]

/-- Of an hour, three of the nanoseconds of the first digit past the exact places are counted. -/
theorem lost_hour_le {whole fraction : List Char} (digits : ∀ d ∈ fraction, isDigit d) :
    (Component.mk whole fraction .hour).lost ≤ 8 := by
  have digits := digits_past (c := ⟨whole, fraction, .hour⟩) digits
  have grain : (Component.mk whole fraction .hour).unit.grain = 36 := rfl
  rw [Component.lost, grain]
  generalize (Component.mk whole fraction .hour).past = past at digits ⊢
  cases past with
  | nil => simp
  | cons d ds =>
    obtain ⟨digit, digits⟩ := List.forall_mem_cons.1 digits
    have first := toNat_sub_le_of_isDigit digit
    have others := ofDigitChars_lt digits
    rw [fractionNanos_hour, ofDigitChars_cons_zero, List.length_cons]
    generalize d.toNat - '0'.toNat = v at first ⊢
    suffices less : (10 ^ ds.length * v + Nat.ofDigitChars 10 ds 0) * 36 / 10 ^ (ds.length + 1) <
        v * 3 + 9 by omega
    refine Nat.div_lt_of_lt_mul ?_
    calc
      (10 ^ ds.length * v + Nat.ofDigitChars 10 ds 0) * 36
        < (10 ^ ds.length * v + 10 ^ ds.length) * 36 := by omega
      _ = 10 ^ ds.length * (v * 36 + 36) := by ring
      _ ≤ 10 ^ ds.length * (10 * (v * 3 + 9)) := Nat.mul_le_mul_left _ (by omega)
      _ = 10 ^ (ds.length + 1) * (v * 3 + 9) := by ring

/-- Nothing is lost of the exact places, and past them at most a few nanoseconds. -/
theorem lost_le (digits : ∀ d ∈ c.fraction, isDigit d) :
    c.lost ≤ if c.fraction.length ≤ c.unit.places then 0 else c.unit.greatestLoss := by
  split
  case isTrue short => exact Nat.le_of_eq (lost_eq_zero short)
  case isFalse =>
    have less : c.lost < c.unit.grain := Nat.lt_of_le_of_lt (Nat.sub_le ..) (past_lt digits)
    obtain ⟨whole, fraction, u⟩ := c
    cases u
    case hour => exact lost_hour_le digits
    all_goals
      simp only [TimeUnit.grain] at less
      simp only [TimeUnit.greatestLoss]
      omega

/-! ## Reading a text -/

theorem SpellsAll.digits {text : List Char} (spells : SpellsAll cs text) :
    ∀ c ∈ cs, ∀ d ∈ c.fraction, isDigit d := by
  induction spells with
  | nil => exact nofun
  | cons spells filled rest ih => exact List.forall_mem_cons.2 ⟨spells.digits.2, ih⟩

theorem Denotes.digits {sign : Sign} {text : List Char} (denotes : Denotes sign cs text) :
    ∀ c ∈ cs, ∀ d ∈ c.fraction, isDigit d := by
  cases denotes with
  | zero => exact nofun
  | sum some spells => exact spells.digits

theorem Sign.apply_inj {sign : Sign} {m n : Nat} : sign.apply m = sign.apply n ↔ m = n := by
  cases sign <;> simp [Sign.apply]

/-- A text that is read has components, and is read as their exact lengths, each rounded down, less
what is lost of each. -/
theorem parseTotal_eq_floor_sub_lost {s : String} {n : Int} (read : parseTotal s = .ok n) :
    (∃ sign cs, Denotes sign cs s.toList) ∧
    ∀ sign cs, Denotes sign cs s.toList →
      n = sign.apply (cs.map fun c => ⌊c.exactNanos⌋₊ - c.lost).sum ∧
      (∀ c ∈ cs, c.lost ≤ if c.fraction.length ≤ c.unit.places then 0 else c.unit.greatestLoss) ∧
      (n = sign.apply (cs.map fun c => ⌊c.exactNanos⌋₊).sum ↔ ∀ c ∈ cs, c.lost = 0) := by
  refine ⟨exists_denotes_of_parseChars read, fun sign cs denotes => ?_⟩
  have value : n = sign.apply (sum cs) := by
    have read : parseChars s.toList = .ok n := read
    rw [parseChars_of_denotes denotes] at read
    split at read
    case isTrue => exact (Except.ok.inj read).symm
    case isFalse => cases read
  have counted : (cs.map fun c => ⌊c.exactNanos⌋₊ - c.lost) = cs.map Component.nanos :=
    List.map_congr_left fun c _ => by rw [floor_exactNanos, Nat.add_sub_cancel]
  have exact : (cs.map fun c => ⌊c.exactNanos⌋₊).sum = sum cs + (cs.map Component.lost).sum := by
    simp only [floor_exactNanos, sum, List.sum_map_add]
  refine ⟨by rw [counted]; exact value, fun c mem => lost_le (denotes.digits c mem), ?_⟩
  rw [value, exact, Sign.apply_inj, Nat.left_eq_add, List.sum_eq_zero_iff_forall_eq_nat]
  simp

/-- Nine at the first place of a minute that is not exact. -/
def nineOfMinute : Component := ⟨['0'], "00000000009".toList, .minute⟩

/-- Nine at the first place of an hour that is not exact. -/
def nineOfHour : Component := ⟨['0'], "000000000009".toList, .hour⟩

theorem spells_nineOfMinute : Spells nineOfMinute "0.00000000009m".toList :=
  .pointed (List.all_eq_true.1 rfl) (List.all_eq_true.1 rfl) (by decide)

theorem spells_nineOfHour : Spells nineOfHour "0.000000000009h".toList :=
  .pointed (List.all_eq_true.1 rfl) (List.all_eq_true.1 rfl) (by decide)

theorem denotes_nineOfHour : Denotes .none [nineOfHour] "0.000000000009h".toList :=
  .sum .none (by decide) (.cons spells_nineOfHour (.inl (by decide)) .nil)

/-- Five nanoseconds are lost of the minute and five of the hour. -/
theorem parseTotal_eq_floor_sub_lost_nines :
    parseTotal "-0.00000000009m0.000000000009h" = .ok (-27) ∧
      Denotes .minus [nineOfMinute, nineOfHour] "-0.00000000009m0.000000000009h".toList ∧
      (-27 : Int) =
        Sign.minus.apply (([nineOfMinute, nineOfHour].map fun c => ⌊c.exactNanos⌋₊ - c.lost).sum) ∧
      nineOfMinute.lost = 5 ∧ nineOfHour.lost = 5 := by
  have spells : SpellsAll [nineOfMinute, nineOfHour] "0.00000000009m0.000000000009h".toList :=
    .cons spells_nineOfMinute (.inl (by decide)) (.cons spells_nineOfHour (.inl (by decide)) .nil)
  have denotes :
      Denotes .minus [nineOfMinute, nineOfHour] "-0.00000000009m0.000000000009h".toList :=
    .sum .minus (by decide) spells
  have read : parseTotal "-0.00000000009m0.000000000009h" = .ok (-27) := by
    rw [parseTotal, parseChars_of_denotes denotes, if_pos (by decide)]
    decide
  exact ⟨read, denotes, ((parseTotal_eq_floor_sub_lost read).2 _ _ denotes).1, by decide, by decide⟩

/-- Nine at the twelfth place of an hour is worth more than thirty-two nanoseconds and read as
twenty-seven. -/
theorem not_parseTotal_eq_floor : ¬ ∀ (s : String) (n : Int) (sign : Sign) (cs : List Component),
    parseTotal s = .ok n → Denotes sign cs s.toList →
      n = sign.apply (cs.map fun c => ⌊c.exactNanos⌋₊).sum := by
  intro always
  have read : parseTotal "0.000000000009h" = .ok 27 := by
    rw [parseTotal, parseChars_of_denotes denotes_nineOfHour, if_pos (by decide)]
    decide
  have exact := always _ _ _ _ read denotes_nineOfHour
  simp only [List.map_cons, List.map_nil, floor_exactNanos] at exact
  revert exact
  decide

end Duration

end FlagBinding.Time
