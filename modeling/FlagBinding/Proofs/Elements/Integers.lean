import FlagBinding.Element.Scalar
import FlagBinding.Proofs.Emission.Numerals

/-!
# Integers are read back

An integer is written as decimal digits, perhaps after a minus sign, and the reader computes it from
them again as long as it lies between the bounds. No text of an integer beyond the bounds is read.

## Main definitions

* `SpellsInteger`: the texts of an integer.

## Main statements

* `readInt_decimal`: the decimal text of an integer between the bounds is read as the integer.
* `range_of_readIntChars`: only integers between the bounds are read.
* `Codec.int32_exact` and its like: the four codecs of integers read their own texts back.
* `Codec.integer_refuses`: a text of an integer beyond the bounds is refused.
-/

namespace FlagBinding

namespace Number

theorem digitValue?_of_isDigit {c : Char} (digit : c.isDigit) :
    digitValue? c = some (c.toNat - '0'.toNat) := by
  rw [Char.isDigit, Bool.and_eq_true, decide_eq_true_eq, decide_eq_true_eq] at digit
  exact if_pos digit

theorem le_ofDigitChars (ds : List Char) (acc : Nat) : acc ≤ Nat.ofDigitChars 10 ds acc := by
  rw [Nat.ofDigitChars_eq_ofDigitChars_zero]
  have : 0 < 10 ^ ds.length := Nat.pow_pos (by decide)
  exact Nat.le_add_right_of_le (Nat.le_mul_of_pos_left acc this)

/-- Digits are read as the number that they denote, if it does not pass the limit. -/
theorem readDigits_of_isDigit (overflow : IntFault) {limit acc : Nat} {ds : List Char}
    (all : ∀ c ∈ ds, c.isDigit) (fits : Nat.ofDigitChars 10 ds acc ≤ limit) :
    readDigits overflow limit acc ds = .ok (Nat.ofDigitChars 10 ds acc) := by
  induction ds generalizing acc with
  | nil => simp [readDigits]
  | cons c ds ih =>
    obtain ⟨digit, all⟩ := List.forall_mem_cons.1 all
    rw [Nat.ofDigitChars_cons, Nat.mul_comm 10] at fits ⊢
    -- the number only grows, so no digit before the last passes the limit
    have step : acc * 10 + (c.toNat - '0'.toNat) ≤ limit := Nat.le_trans (le_ofDigitChars ds _) fits
    rw [readDigits, digitValue?_of_isDigit digit]
    exact (if_neg (Nat.not_lt.2 step)).trans (ih all fits)

theorem readDigits_digits (overflow : IntFault) {limit n : Nat} (fits : n ≤ limit) :
    readDigits overflow limit 0 (digits n) = .ok n := by
  have value : Nat.ofDigitChars 10 (digits n) 0 = n := Nat.ofDigitChars_ten_toDigits
  rw [readDigits_of_isDigit overflow (isDigits_digits n).2 (value.symm ▸ fits), value]

/-- Characters that start with a digit are read as a number without a sign. -/
theorem readIntChars_of_isDigit {lowest greatest : Nat} {c : Char} {rest : List Char}
    (digit : c.isDigit) : readIntChars lowest greatest (c :: rest) =
      Int.ofNat <$> readDigits .tooLarge greatest 0 (c :: rest) := by
  unfold readIntChars
  split
  case h_1 nothing => contradiction
  case h_2 shape =>
    obtain ⟨rfl, -⟩ := List.cons.inj shape
    exact absurd digit (by decide)
  case h_3 shape =>
    obtain ⟨rfl, -⟩ := List.cons.inj shape
    exact absurd digit (by decide)
  case h_4 => rfl

/-- The text of an integer between the bounds is read as the integer. -/
theorem readInt_decimal {lowest greatest : Nat} {n : Int} (least : -(lowest : Int) ≤ n)
    (most : n ≤ greatest) : readInt lowest greatest (decimal n) = .ok n := by
  cases n with
  | ofNat n =>
    obtain ⟨c, rest, shape⟩ := List.exists_cons_of_ne_nil (isDigits_digits n).1
    have digit : c.isDigit := (isDigits_digits n).2 c (by simp [shape])
    have read := readDigits_digits .tooLarge (Int.ofNat_le.1 most)
    rw [decimal, readInt, decimalNat, String.toList_ofList, shape, readIntChars_of_isDigit digit,
      ← shape, read]
    rfl
  | negSucc n =>
    have fits : n + 1 ≤ lowest := by omega
    have read := readDigits_digits .tooSmall fits
    have signed : lowest ≠ 0 := by omega
    rw [decimal, readInt, String.toList_ofList, readIntChars, if_neg signed, readSomeDigits,
      List.isEmpty_eq_false_iff.2 (isDigits_digits _).1, if_neg Bool.false_ne_true, read]
    rfl

/-! ## Integers beyond the bounds -/

/-- The texts of an integer: digits, perhaps after a sign. -/
inductive SpellsInteger : Int → List Char → Prop
  | plain {ds : List Char} (digits : IsDigits ds) :
    SpellsInteger (Nat.ofDigitChars 10 ds 0 : Nat) ds
  | plus {ds : List Char} (digits : IsDigits ds) :
    SpellsInteger (Nat.ofDigitChars 10 ds 0 : Nat) ('+' :: ds)
  | minus {ds : List Char} (digits : IsDigits ds) :
    SpellsInteger (-(Nat.ofDigitChars 10 ds 0 : Nat)) ('-' :: ds)

theorem le_of_readDigits {overflow : IntFault} {limit acc n : Nat} {ds : List Char}
    (all : ∀ c ∈ ds, c.isDigit) (within : acc ≤ limit)
    (read : readDigits overflow limit acc ds = .ok n) :
    n = Nat.ofDigitChars 10 ds acc ∧ n ≤ limit := by
  induction ds generalizing acc with
  | nil =>
    obtain rfl : acc = n := Except.ok.inj read
    exact ⟨rfl, within⟩
  | cons c ds ih =>
    obtain ⟨digit, all⟩ := List.forall_mem_cons.1 all
    rw [readDigits, digitValue?_of_isDigit digit] at read
    dsimp only at read
    split at read
    case isTrue => cases read
    case isFalse fits =>
      rw [Nat.ofDigitChars_cons, Nat.mul_comm 10]
      exact ih all (Nat.not_lt.1 fits) read

theorem le_of_map_readDigits {overflow : IntFault} {limit : Nat} {ds : List Char} {f : Nat → Int}
    {m : Int} (digits : IsDigits ds) (read : f <$> readDigits overflow limit 0 ds = .ok m) :
    m = f (Nat.ofDigitChars 10 ds 0) ∧ Nat.ofDigitChars 10 ds 0 ≤ limit := by
  cases value : readDigits overflow limit 0 ds with
  | error fault =>
    rw [value] at read
    cases read
  | ok k =>
    rw [value] at read
    obtain ⟨rfl, fits⟩ := le_of_readDigits digits.2 (Nat.zero_le _) value
    exact ⟨(Except.ok.inj read).symm, fits⟩

theorem readSomeDigits_of_isDigits (overflow : IntFault) (limit : Nat) {ds : List Char}
    (digits : IsDigits ds) : readSomeDigits overflow limit ds = readDigits overflow limit 0 ds := by
  rw [readSomeDigits, List.isEmpty_eq_false_iff.2 digits.1, if_neg Bool.false_ne_true]

/-- A text of an integer is read as that integer, and only if it lies between the bounds. -/
theorem range_of_readIntChars {lowest greatest : Nat} {n m : Int} {cs : List Char}
    (spells : SpellsInteger n cs) (read : readIntChars lowest greatest cs = .ok m) :
    m = n ∧ -(lowest : Int) ≤ n ∧ n ≤ greatest := by
  cases spells with
  | plain digits =>
    obtain ⟨c, rest, shape⟩ := List.exists_cons_of_ne_nil digits.1
    rw [shape, readIntChars_of_isDigit (digits.2 c (by simp [shape])), ← shape] at read
    obtain ⟨value, fits⟩ := le_of_map_readDigits digits read
    exact ⟨value, by omega, by omega⟩
  | plus digits =>
    rw [readIntChars, readSomeDigits_of_isDigits _ _ digits] at read
    obtain ⟨value, fits⟩ := le_of_map_readDigits digits read
    exact ⟨value, by omega, by omega⟩
  | minus digits =>
    rw [readIntChars] at read
    split at read
    case isTrue => cases read
    case isFalse =>
      have negated (x : Except IntFault Nat) :
          ((fun n : Int => -n) <$> do let k ← x; pure (k : Int)) =
            (fun k : Nat => -(k : Int)) <$> x := by
        cases x <;> rfl
      rw [readSomeDigits_of_isDigits _ _ digits, negated] at read
      obtain ⟨value, fits⟩ := le_of_map_readDigits digits read
      exact ⟨value, by omega, by omega⟩

end Number

namespace Codec

open Number

theorem integer_exact {α : Type} {kind : String} {lowest greatest : Nat} {ofInt : Int → α}
    {toInt : α → Int} {x : α} (back : ofInt (toInt x) = x) (least : -(lowest : Int) ≤ toInt x)
    (most : toInt x ≤ greatest) : (integer kind lowest greatest ofInt toInt).Exact x := by
  simp only [Exact, integer, readInt_decimal least most, back]

/-- A text of an integer beyond the bounds is refused. -/
theorem integer_refuses {α : Type} {kind input : String} {lowest greatest : Nat} {ofInt : Int → α}
    {toInt : α → Int} {n : Int} (spells : SpellsInteger n input.toList)
    (beyond : n < -(lowest : Int) ∨ greatest < n) :
    ∃ fault, (integer kind lowest greatest ofInt toInt).decode input =
      .error (.invalid kind input (.integer fault)) := by
  cases read : readInt lowest greatest input with
  | error fault => exact ⟨fault, by simp only [integer, read]⟩
  | ok m =>
    obtain ⟨-, least, most⟩ := range_of_readIntChars spells read
    omega

theorem int32_exact (x : Int32) : int32.Exact x :=
  integer_exact (Int32.ofInt_toInt x) (Int32.le_toInt x) (Int32.toInt_le x)

theorem int64_exact (x : Int64) : int64.Exact x :=
  integer_exact (Int64.ofInt_toInt x) (Int64.le_toInt x) (Int64.toInt_le x)

theorem uint32_exact (x : UInt32) : uint32.Exact x :=
  integer_exact (by simp) (by simp) (by have := x.toNat_lt; omega)

theorem uint64_exact (x : UInt64) : uint64.Exact x :=
  integer_exact (by simp) (by simp) (by have := x.toNat_lt; omega)

end Codec

end FlagBinding
