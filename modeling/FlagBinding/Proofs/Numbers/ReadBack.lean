import FlagBinding.Number.FloatText
import FlagBinding.Proofs.Elements.Integers
import FlagBinding.Proofs.Emission.Numerals
import FlagBinding.Proofs.Numbers.Shortest
import Mathlib.Data.List.TakeDrop

/-!
# Reading numbers back

However the digits of a decimal are laid out, they are read as a decimal of the same value. The
digits that are written for a number round to it, so it is read back from its text.

## Main definitions

* `Floating.IsCanonical`: a number in the form that its format has for it.

## Main statements

* `FloatStyle.readDecimal?_magnitude`: the text of a magnitude is read as a decimal that rounds to
  it.
* `readFloat_render`: a number is read back from its text, in every style.
-/

namespace FlagBinding.Number

variable {format : FloatFormat} {m : Nat} {q : Int}

/-! ## Texts -/

theorem natOfDigits_eq (ds : List Char) : natOfDigits ds = Nat.ofDigitChars 10 ds 0 := by
  have order : (fun n (c : Char) => n * 10 + (c.toNat - '0'.toNat)) =
      fun n c => 10 * n + (c.toNat - '0'.toNat) := by
    funext n c
    rw [Nat.mul_comm]
  rw [natOfDigits, order, Nat.ofDigitChars_eq_foldl]

@[simp] theorem natOfDigits_digits (n : Nat) : natOfDigits (digits n) = n := by
  rw [natOfDigits_eq, digits, Nat.ofDigitChars_ten_toDigits]

theorem natOfDigits_zeros_append (k : Nat) (ds : List Char) :
    natOfDigits (List.replicate k '0' ++ ds) = natOfDigits ds := by
  rw [natOfDigits_eq, natOfDigits_eq, Nat.ofDigitChars_append, Nat.ofDigitChars_replicate_zero,
    Nat.mul_zero]

theorem natOfDigits_append_zeros (k : Nat) (ds : List Char) :
    natOfDigits (ds ++ List.replicate k '0') = natOfDigits ds * 10 ^ k := by
  rw [natOfDigits_eq, natOfDigits_eq, Nat.ofDigitChars_append, Nat.ofDigitChars_replicate_zero,
    Nat.mul_comm]

/-- A text that does not go on with a digit. -/
def EndsDigits (cs : List Char) : Prop :=
  ∀ c ∈ cs.head?, digitValue? c = none

theorem spanDigits_append {ds rest : List Char} (all : ∀ c ∈ ds, c.isDigit)
    (ends : EndsDigits rest) : spanDigits (ds ++ rest) = (ds, rest) := by
  have digit : ∀ c ∈ ds, (digitValue? c).isSome := fun c mem => by
    rw [digitValue?_of_isDigit (all c mem)]
    rfl
  rw [spanDigits, List.span_eq_takeWhile_dropWhile, List.takeWhile_append_of_pos digit,
    List.dropWhile_append_of_pos digit]
  cases rest with
  | nil => simp
  | cons c rest => simp [ends c rfl]

/-- The text of an exponent, which has none at all if it is zero and need not be written. -/
def IsExponent (cs : List Char) (e : Int) : Prop :=
  (cs = [] ∧ e = 0) ∨ ∃ ds, cs = 'e' :: ds ∧ readExponent? ds = some e

theorem IsExponent.endsDigits {cs : List Char} {e : Int} (h : IsExponent cs e) : EndsDigits cs := by
  obtain ⟨rfl, -⟩ | ⟨ds, rfl, -⟩ := h
  · simp [EndsDigits]
  · rintro c ⟨⟩
    decide

theorem readDecimal?_whole {whole tail : List Char} {e : Int} (digits : IsDigits whole)
    (exponent : IsExponent tail e) :
    readDecimal? (whole ++ tail) = some ⟨natOfDigits whole, e⟩ := by
  have nonempty : whole.isEmpty = false := List.isEmpty_eq_false_iff.2 digits.1
  rw [readDecimal?, spanDigits_append digits.2 exponent.endsDigits]
  obtain ⟨rfl, rfl⟩ | ⟨ds, rfl, read⟩ := exponent
  · simp [nonempty]
  · simp [nonempty, read]

theorem readDecimal?_fraction {whole fraction tail : List Char} {e : Int} (digits : IsDigits whole)
    (more : ∀ c ∈ fraction, c.isDigit) (exponent : IsExponent tail e) :
    readDecimal? (whole ++ '.' :: (fraction ++ tail)) =
      some ⟨natOfDigits (whole ++ fraction), e - fraction.length⟩ := by
  have nonempty : whole.isEmpty = false := List.isEmpty_eq_false_iff.2 digits.1
  have point : EndsDigits ('.' :: (fraction ++ tail)) := by
    rintro c ⟨⟩
    decide
  rw [readDecimal?, spanDigits_append digits.2 point]
  simp only [spanDigits_append more exponent.endsDigits]
  obtain ⟨rfl, rfl⟩ | ⟨ds, rfl, read⟩ := exponent
  · simp [nonempty]
  · simp [nonempty, read]

theorem spanDigits_of_isDigits {ds : List Char} (digits : IsDigits ds) :
    spanDigits ds = (ds, []) := by
  have ends : EndsDigits [] := by simp [EndsDigits]
  simpa using spanDigits_append digits.2 ends

theorem readExponent?_of_isDigits {ds : List Char} (digits : IsDigits ds) :
    readExponent? ds = some (natOfDigits ds : Int) := by
  have span := spanDigits_of_isDigits digits
  obtain ⟨c, more, rfl⟩ := List.exists_cons_of_ne_nil digits.1
  have digit : c.isDigit := digits.2 c (by simp)
  unfold readExponent?
  split
  next negative rest form =>
    split at form
    case h_1 shape =>
      obtain ⟨rfl, -⟩ := List.cons.inj shape
      exact absurd digit (by decide)
    case h_2 shape =>
      obtain ⟨rfl, -⟩ := List.cons.inj shape
      exact absurd digit (by decide)
    case h_3 =>
      obtain ⟨rfl, rfl⟩ := Prod.mk.inj form
      simp [span]

theorem readExponent?_minus {ds : List Char} (digits : IsDigits ds) :
    readExponent? ('-' :: ds) = some (-natOfDigits ds : Int) := by
  obtain ⟨c, more, rfl⟩ := List.exists_cons_of_ne_nil digits.1
  simp [readExponent?, spanDigits_of_isDigits digits]

theorem readExponent?_plus {ds : List Char} (digits : IsDigits ds) :
    readExponent? ('+' :: ds) = some (natOfDigits ds : Int) := by
  obtain ⟨c, more, rfl⟩ := List.exists_cons_of_ne_nil digits.1
  simp [readExponent?, spanDigits_of_isDigits digits]

theorem readExponent?_decimal (e : Int) : readExponent? (decimal e).toList = some e := by
  cases e with
  | ofNat n =>
    rw [decimal, decimalNat, String.toList_ofList, readExponent?_of_isDigits (isDigits_digits n),
      natOfDigits_digits]
    rfl
  | negSucc n =>
    rw [decimal, String.toList_ofList, readExponent?_minus (isDigits_digits _), natOfDigits_digits]
    rfl

theorem readExponent?_plus_decimal {e : Int} (positive : 0 ≤ e) :
    readExponent? ('+' :: (decimal e).toList) = some e := by
  obtain ⟨n, rfl⟩ := Int.eq_ofNat_of_zero_le positive
  have text : (decimal (n : Int)).toList = digits n := String.toList_ofList
  rw [text, readExponent?_plus (isDigits_digits n), natOfDigits_digits]

theorem value_mul_pow (n k : Nat) (e : Int) : (Decimal.mk (n * 10 ^ k) e).value =
    (Decimal.mk n (e + k)).value := by
  rw [Decimal.value, Decimal.value, ten_zpow_add, zpow_natCast]
  push_cast
  ring

/-- Zeros behind the point and before the digits. -/
theorem exists_readDecimal?_small (n k : Nat) : ∃ d,
    readDecimal? (['0', '.'] ++ List.replicate k '0' ++ digits n) = some d ∧
      d.value = (Decimal.mk n (-(k + (digits n).length : Nat))).value := by
  have all := isDigits_digits n
  have more : ∀ c ∈ List.replicate k '0' ++ digits n, c.isDigit :=
    fun c mem => (List.mem_append.1 mem).elim (isDigits_zeros _ c) (all.2 c)
  have read := readDecimal?_fraction isDigits_zero more (.inl ⟨rfl, rfl⟩)
  have blank : ['0'] ++ (List.replicate k '0' ++ digits n) =
      List.replicate (k + 1) '0' ++ digits n := by simp [List.replicate_succ]
  rw [blank, natOfDigits_zeros_append, natOfDigits_digits, List.length_append,
    List.length_replicate, Int.zero_sub] at read
  exact ⟨_, by simpa using read, rfl⟩

/-- Zeros behind the digits, and perhaps one more behind a point. -/
theorem exists_readDecimal?_large (n k : Nat) (point : Bool) : ∃ d,
    readDecimal? (digits n ++ List.replicate k '0' ++ (if point then ['.', '0'] else [])) = some d ∧
      d.value = (Decimal.mk n k).value := by
  have more : IsDigits (digits n ++ List.replicate k '0') :=
    isDigits_append (isDigits_digits n) (isDigits_zeros k)
  cases point with
  | false =>
    have read := readDecimal?_whole more (.inl ⟨rfl, rfl⟩)
    rw [natOfDigits_append_zeros, natOfDigits_digits] at read
    exact ⟨_, by simpa using read, by rw [value_mul_pow, Int.zero_add]⟩
  | true =>
    have read := readDecimal?_fraction more isDigits_zero.2 (.inl ⟨rfl, rfl⟩)
    have blank : digits n ++ List.replicate k '0' ++ ['0'] =
        digits n ++ List.replicate (k + 1) '0' := by simp [List.replicate_succ']
    rw [blank, natOfDigits_append_zeros, natOfDigits_digits] at read
    refine ⟨_, by simpa using read, ?_⟩
    rw [value_mul_pow]
    congr 2
    simp

/-- A point among the digits. -/
theorem exists_readDecimal?_inside (n : Nat) {k : Nat} (positive : 0 < k)
    (inside : k < (digits n).length) :
    ∃ d, readDecimal? ((digits n).take k ++ ['.'] ++ (digits n).drop k) = some d ∧
      d.value = (Decimal.mk n (k - (digits n).length)).value := by
  have all := isDigits_digits n
  have first : IsDigits ((digits n).take k) := by
    refine ⟨?_, fun c mem => all.2 c (List.mem_of_mem_take mem)⟩
    rw [ne_eq, List.take_eq_nil_iff]
    rintro (zero | empty)
    · omega
    · exact all.1 empty
  have rest : ∀ c ∈ (digits n).drop k, c.isDigit := fun c mem => all.2 c (List.mem_of_mem_drop mem)
  have read := readDecimal?_fraction first rest (.inl ⟨rfl, rfl⟩)
  have place : (0 : Int) - ((digits n).drop k).length = k - (digits n).length := by
    rw [List.length_drop]
    omega
  rw [List.take_append_drop, natOfDigits_digits, place] at read
  exact ⟨_, by simpa using read, rfl⟩

namespace FloatStyle

variable (style : FloatStyle)

/-- Around the point, digits are read as the decimal with the point in its place. -/
theorem exists_readDecimal?_around (n : Nat) (e : Int) : ∃ d,
    readDecimal? (style.around (digits n) (e + (digits n).length)) = some d ∧
      d.value = (Decimal.mk n e).value := by
  unfold around
  split
  case isTrue small =>
    have place : -(((-(e + (digits n).length)).toNat + (digits n).length : Nat) : Int) = e := by
      omega
    have read := exists_readDecimal?_small n (-(e + (digits n).length)).toNat
    rwa [place] at read
  case isFalse large =>
    split
    case isTrue whole =>
      have place : (((e + (digits n).length).toNat - (digits n).length : Nat) : Int) = e := by omega
      have read := exists_readDecimal?_large n ((e + (digits n).length).toNat - (digits n).length)
        style.keepsPoint
      rwa [place] at read
    case isFalse inside =>
      have place : ((e + (digits n).length).toNat : Int) - (digits n).length = e := by omega
      have read := exists_readDecimal?_inside n (by omega) (not_le.1 inside)
      rwa [place] at read

/-- With an exponent, digits are read as the decimal that they are written for. -/
theorem exists_readDecimal?_scientific (n : Nat) (e : Int) : ∃ d,
    readDecimal? (style.scientific (digits n) (e + (digits n).length)) = some d ∧
      d.value = (Decimal.mk n e).value := by
  have all := isDigits_digits n
  have written (x : Int) : IsExponent
      ('e' :: ((if style.signsExponent && 0 ≤ x then ['+'] else []) ++ (decimal x).toList)) x := by
    refine .inr ⟨_, rfl, ?_⟩
    split
    case isTrue signed => exact readExponent?_plus_decimal (by simp at signed; exact signed.2)
    case isFalse => exact readExponent?_decimal x
  obtain ⟨c, more, shape⟩ := List.exists_cons_of_ne_nil all.1
  have value : natOfDigits (c :: more) = n := by rw [← shape, natOfDigits_digits]
  rw [shape] at all ⊢
  have first : IsDigits [c] := ⟨by simp, by simpa using all.2 c (by simp)⟩
  cases more with
  | nil =>
    have read := readDecimal?_whole first (written (e + 1 - 1))
    rw [value, Int.add_sub_cancel] at read
    exact ⟨_, by simpa [scientific] using read, rfl⟩
  | cons d more =>
    have rest : ∀ x ∈ d :: more, x.isDigit := fun x mem => all.2 x (by simp [mem])
    have read := readDecimal?_fraction first rest (written (e + (c :: d :: more).length - 1))
    have place : e + (c :: d :: more).length - 1 - (d :: more).length = e := by
      simp only [List.length_cons]
      omega
    rw [List.singleton_append, List.singleton_append, value, place] at read
    exact ⟨_, by simpa [scientific] using read, rfl⟩

/-- The digits of a number are read from its text. -/
theorem exists_readDecimal?_magnitude (nonzero : m ≠ 0) : ∃ d,
    readDecimal? (style.magnitude format m q) = some d ∧
      d.value = (shortest format style.tie m q).value := by
  simp only [magnitude, if_neg nonzero]
  split
  · exact style.exists_readDecimal?_around _ _
  · exact style.exists_readDecimal?_scientific _ _

/-- The text of a magnitude is read as a decimal that is rounded to it. -/
theorem readDecimal?_magnitude (standard : format.IsStandard) (canonical : IsCanonical format m q) :
    ∃ d, readDecimal? (style.magnitude format m q) = some d ∧ ∀ negative,
      (Floating.ofDecimal negative d.digits d.exponent : Floating format) =
        .finite negative m q := by
  rcases Nat.eq_zero_or_pos m with rfl | positive
  · have least : q = format.leastExponent := by
      refine canonical.full.resolve_left fun full => ?_
      have : 0 < 2 ^ (format.precision - 1) := Nat.pow_pos (by decide)
      omega
    have zero (e : Int) (negative : Bool) :
        (Floating.ofDecimal negative 0 e : Floating format) = .finite negative 0 q := by
      rw [least]
      rfl
    simp only [magnitude, if_true]
    cases style.keepsPoint
    · exact ⟨⟨0, 0⟩, by decide, zero 0⟩
    · exact ⟨⟨0, -1⟩, by decide, zero (-1)⟩
  · obtain ⟨d, read, value⟩ := style.exists_readDecimal?_magnitude positive.ne'
    have rounds : RoundsTo format m q d.value :=
      value ▸ shortest_roundsTo standard canonical positive style.tie
    exact ⟨d, read, ofDecimal_of_roundsTo standard canonical positive rounds⟩

end FloatStyle

/-- A number in the form that its format has for it. -/
def Floating.IsCanonical : Floating format → Prop
  | .finite _ m q => Number.IsCanonical format m q
  | _ => True

instance : (x : Floating format) → Decidable x.IsCanonical
  | .finite _ m q => inferInstanceAs (Decidable (Number.IsCanonical format m q))
  | .nan => instDecidableTrue
  | .infinite _ => instDecidableTrue

theorem readMagnitude?_magnitude (standard : format.IsStandard) (style : FloatStyle)
    (canonical : IsCanonical format m q) (negative : Bool) :
    readMagnitude? format negative (style.magnitude format m q) = some (.finite negative m q) := by
  obtain ⟨d, read, rounds⟩ := style.readDecimal?_magnitude standard canonical
  rw [readMagnitude?, read]
  simp only [rounds]

theorem readDecimal?_sign {c : Char} (sign : c ∈ ['-', '+']) (rest : List Char) :
    readDecimal? (c :: rest) = none := by
  have ends : EndsDigits (c :: rest) := by
    rintro x ⟨⟩
    rcases List.mem_pair.1 sign with rfl | rfl <;> decide
  have span : spanDigits (c :: rest) = ([], c :: rest) :=
    spanDigits_append (List.forall_mem_nil _) ends
  rcases List.mem_pair.1 sign with rfl | rfl <;> simp [readDecimal?, span]

/-- A text that starts with a decimal has no sign. -/
theorem readFloat_of_readDecimal? {cs : List Char} {d : Decimal}
    (decimal : readDecimal? cs = some d) :
    readFloat format (String.ofList cs) = .ok (.ofDecimal false d.digits d.exponent) := by
  have read : readMagnitude? format false cs = some (.ofDecimal false d.digits d.exponent) := by
    rw [readMagnitude?, decimal]
  rw [readFloat, String.toList_ofList]
  split
  next x found =>
    split at found
    case h_1 => simp [readDecimal?_sign] at decimal
    case h_2 => simp [readDecimal?_sign] at decimal
    case h_3 => rw [Option.some.inj (found.symm.trans read)]
  next refused =>
    split at refused
    case h_1 => simp [readDecimal?_sign] at decimal
    case h_2 => simp [readDecimal?_sign] at decimal
    case h_3 => simp [read] at refused

/-- A number is read back from its text. -/
theorem readFloat_render (standard : format.IsStandard) (style : FloatStyle) {x : Floating format}
    (canonical : x.IsCanonical) : readFloat format (style.render x) = .ok x := by
  cases x with
  | nan =>
    have text : "NaN".toList = ['N', 'a', 'N'] := by decide
    simp only [FloatStyle.render, readFloat, text]
    rfl
  | infinite negative =>
    have text : "inf".toList = ['i', 'n', 'f'] := by decide
    have text' : "-inf".toList = ['-', 'i', 'n', 'f'] := by decide
    cases negative
    · simp only [FloatStyle.render, readFloat, text, Bool.false_eq_true, if_false]
      rfl
    · simp only [FloatStyle.render, readFloat, text', if_true]
      rfl
  | finite negative m q =>
    have read := readMagnitude?_magnitude standard style canonical negative
    cases negative with
    | true => simp [FloatStyle.render, readFloat, read]
    | false =>
      obtain ⟨d, decimal, rounds⟩ := style.readDecimal?_magnitude standard canonical
      exact (readFloat_of_readDecimal? decimal).trans (congrArg _ (rounds false))

end FlagBinding.Number
