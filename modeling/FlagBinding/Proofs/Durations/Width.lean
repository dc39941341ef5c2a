import FlagBinding.Proofs.Durations.Canonical
import FlagBinding.Proofs.Durations.Texts

/-!
# Durations in numbers of 128 bits

The reader computes with numbers of 128 bits with a sign, each of which may be too small for what is
put into it. Here its course is written out with a check of every product, every sum and the
negation at the end, and no text makes a check fail. A component stays far below the limits, as its
number has at most twenty digits, and a total is compared with 64 bits after each component.

## Main definitions

* `room?`: a number for which 128 bits have room.
* `wideChars?`: the nanoseconds of a text, with every number checked.

## Main statements

* `nanos_lt`: a component that is read is less than `2 ^ 126` nanoseconds.
* `wideChars?_eq`: no number on the way is too large.
* `parseTotal_iff_denotes`: the texts that are read, how, and what becomes of them.
-/

namespace FlagBinding.Time

open Number

theorem TimeUnit.nanos_le (u : TimeUnit) : u.nanos ≤ 3600 * nanosPerSecond := by
  cases u <;> decide

theorem TimeUnit.nanos_pos (u : TimeUnit) : 0 < u.nanos := by
  cases u <;> decide

namespace Duration

/-! ## The course of the reader -/

/-- A number, if there is room for it in 128 bits with a sign. -/
def room? (n : Int) : Option Int :=
  if -2 ^ 127 ≤ n ∧ n < 2 ^ 127 then some n else none

/-- The number that digits continue from `n`. -/
def wideWhole? (n : Int) : List Char → Option Int
  | [] => some n
  | d :: ds => do
    let tens ← room? (n * 10)
    let n ← room? (tens + ((d.toNat - '0'.toNat : Nat) : Int))
    wideWhole? n ds

/-- The nanoseconds of the digits behind a point, added to `value`. -/
def wideFraction? (scale value : Int) : List Char → Option Int
  | [] => some value
  | d :: ds =>
    let worth := scale / 10
    if worth = 0 then some value
    else do
      let part ← room? (((d.toNat - '0'.toNat : Nat) : Int) * worth)
      let value ← room? (value + part)
      wideFraction? worth value ds

/-- The nanoseconds of a component. -/
def Component.wideNanos? (c : Component) : Option Int := do
  let whole ← wideWhole? 0 c.whole
  let value ← room? (whole * c.unit.nanos)
  wideFraction? c.unit.nanos value c.fraction

/-- The sum of `total` and the components that take up the text, at most `limit`. -/
def wideSum? (limit total : Int) (text : List Char) : Option (Except Fault Int) :=
  if text.isEmpty then some (.ok total)
  else match h : readComponent? text with
    | none => some (.error .noComponent)
    | some (c, rest) =>
      if c.whole.isEmpty && c.fraction.isEmpty then some (.error .noNumber)
      else if greatestWidth < c.whole.length then some (.error .outOfRange)
      else
        have := readComponent?_length h
        do
          let value ← c.wideNanos?
          let total ← room? (total + value)
          if limit < total then some (.error .outOfRange) else wideSum? limit total rest
termination_by text.length

/-- The nanoseconds of a text without a sign, at most `limit`. -/
def wideMagnitude? (limit : Int) (text : List Char) : Option (Except Fault Int) :=
  if text = ['0'] then some (.ok 0)
  else if text.isEmpty then some (.error .empty)
  else wideSum? limit 0 text

/-- The nanoseconds of a text behind a sign. -/
def wideSigned? (sign : Sign) (text : List Char) : Option (Except Fault Int) :=
  match sign with
  | .minus => do
    let limit ← room? (2 ^ 63 - 1 + 1)
    match ← wideMagnitude? limit text with
    | .ok n => (room? (-n)).map .ok
    | .error fault => some (.error fault)
  | _ => do
    let limit ← room? (2 ^ 63 - 1 + 0)
    wideMagnitude? limit text

/-- The nanoseconds of a text. -/
def wideChars? (text : List Char) : Option (Except Fault Int) :=
  match text with
  | '-' :: rest => wideSigned? .minus rest
  | '+' :: rest => wideSigned? .plus rest
  | _ => wideSigned? .none text

variable {c : Component} {text rest : List Char}

/-! ## The size of a component -/

theorem nanos_lt (spells : Spells c text) (narrow : c.whole.length ≤ greatestWidth) :
    c.nanos < 2 ^ 126 := by
  obtain ⟨whole, fraction⟩ := spells.digits
  have number : Nat.ofDigitChars 10 c.whole 0 < 10 ^ greatestWidth :=
    Nat.lt_of_lt_of_le (ofDigitChars_lt whole) (Nat.pow_le_pow_right (by decide) narrow)
  rw [nanos_eq]
  calc
    Nat.ofDigitChars 10 c.whole 0 * c.unit.nanos + fractionNanos c.unit.nanos c.fraction
      ≤ Nat.ofDigitChars 10 c.whole 0 * c.unit.nanos + c.unit.nanos :=
        Nat.add_le_add_left (fractionNanos_le fraction) _
    _ = (Nat.ofDigitChars 10 c.whole 0 + 1) * c.unit.nanos := (Nat.succ_mul ..).symm
    _ ≤ 10 ^ greatestWidth * (3600 * nanosPerSecond) :=
        Nat.mul_le_mul number (TimeUnit.nanos_le c.unit)
    _ < 2 ^ 126 := by decide

/-! ## No number is too large -/

theorem room?_of_le {n : Int} {limit : Nat} (positive : 0 ≤ n) (least : n ≤ limit)
    (fits : limit < 2 ^ 127) : room? n = some n :=
  if_pos (by omega)

theorem wideWhole?_eq {n : Nat} {ds : List Char} (fits : Nat.ofDigitChars 10 ds n < 2 ^ 127) :
    wideWhole? n ds = some (Nat.ofDigitChars 10 ds n : Int) := by
  induction ds generalizing n with
  | nil => rfl
  | cons d ds ih =>
    rw [Nat.ofDigitChars_cons, Nat.mul_comm] at fits ⊢
    have grown := le_ofDigitChars ds (n * 10 + (d.toNat - '0'.toNat))
    rw [wideWhole?, room?_of_le (by omega) (by omega) fits, Option.bind_eq_bind, Option.bind_some,
      room?_of_le (by omega) (by omega) fits, Option.bind_some]
    exact_mod_cast ih fits

theorem wideFraction?_eq {scale value : Nat} {ds : List Char}
    (fits : value + fractionNanos scale ds < 2 ^ 127) :
    wideFraction? scale value ds = some ((value + fractionNanos scale ds : Nat) : Int) := by
  induction ds generalizing scale value with
  | nil => rfl
  | cons d ds ih =>
    have worth : (scale : Int) / 10 = ((scale / 10 : Nat) : Int) := by omega
    rw [fractionNanos] at fits ⊢
    rw [wideFraction?, worth]
    by_cases tiny : scale / 10 = 0
    · simp [tiny]
    · simp only [tiny, if_false, Int.natCast_eq_zero, ← Int.natCast_mul, ← Nat.add_assoc] at fits ⊢
      generalize (d.toNat - '0'.toNat) * (scale / 10) = part at fits ⊢
      rw [room?_of_le (by omega) (by omega) fits, Option.bind_eq_bind, Option.bind_some,
        room?_of_le (by omega) (by omega) fits, Option.bind_some]
      exact_mod_cast ih fits

theorem Component.wideNanos?_eq (fits : c.nanos < 2 ^ 127) :
    c.wideNanos? = some (c.nanos : Int) := by
  rw [nanos_eq] at fits ⊢
  have number : Nat.ofDigitChars 10 c.whole 0 * 1 ≤ Nat.ofDigitChars 10 c.whole 0 * c.unit.nanos :=
    Nat.mul_le_mul_left _ (TimeUnit.nanos_pos c.unit)
  have whole : wideWhole? 0 c.whole = some (Nat.ofDigitChars 10 c.whole 0 : Int) :=
    wideWhole?_eq (n := 0) (by omega)
  rw [wideNanos?, whole, Option.bind_eq_bind, Option.bind_some, ← Int.natCast_mul]
  rw [room?_of_le (by omega) (by omega) fits, Option.bind_some]
  exact wideFraction?_eq fits

theorem wideSum?_of_read {limit total : Int} (read : readComponent? text = some (c, rest)) :
    wideSum? limit total text =
      if c.whole.isEmpty && c.fraction.isEmpty then some (.error .noNumber)
      else if greatestWidth < c.whole.length then some (.error .outOfRange)
      else c.wideNanos?.bind fun value => (room? (total + value)).bind fun total =>
        if limit < total then some (.error .outOfRange) else wideSum? limit total rest := by
  have nonempty : ¬ text.isEmpty = true := by
    intro empty
    rw [List.isEmpty_iff.1 empty] at read
    cases read
  rw [wideSum?, if_neg nonempty]
  split
  case h_1 none => simp [read] at none
  case h_2 c' rest' found =>
    obtain ⟨rfl, rfl⟩ : c = c' ∧ rest = rest' := by simpa [read] using found
    rfl

/-- A component that is short enough is added without a number that is too large. -/
theorem wideSum?_of_narrow {limit total : Nat} (read : readComponent? text = some (c, rest))
    (number : ¬ (c.whole.isEmpty && c.fraction.isEmpty) = true)
    (narrow : ¬ greatestWidth < c.whole.length) (within : total ≤ limit) (room : limit ≤ 2 ^ 63)
    : wideSum? limit total text =
      if limit < total + c.nanos then some (.error .outOfRange)
      else wideSum? limit (total + c.nanos : Nat) rest := by
  obtain ⟨front, spells, -⟩ := exists_spells_of_readComponent? read
  have small := nanos_lt spells (Nat.not_lt.1 narrow)
  have least : (total : Int) + c.nanos ≤ (total + c.nanos : Nat) := by omega
  rw [wideSum?_of_read read, if_neg number, if_neg narrow, Component.wideNanos?_eq (by omega),
    Option.bind_some, room?_of_le (by omega) least (by omega), Option.bind_some]
  simp only [← Int.natCast_add, Int.ofNat_lt]

/-- The sum of components is computed without a number that is too large, to the end of the text or
to where it is refused. -/
theorem wideSum?_eq {limit total : Nat} (within : total ≤ limit) (room : limit ≤ 2 ^ 63) :
    wideSum? limit total text = some ((sumFrom limit total text).map Int.ofNat) := by
  fun_induction sumFrom limit total text with
  | case1 total text empty =>
    rw [wideSum?, if_pos empty]
    rfl
  | case2 total text some none =>
    rw [wideSum?, if_neg some]
    split
    case h_1 => rfl
    case h_2 found => cases none.symm.trans found
  | case3 total text some c rest read noNumber =>
    rw [wideSum?_of_read read, if_pos noNumber]
    rfl
  | case4 total text some c rest read number wide =>
    rw [wideSum?_of_read read, if_neg number, if_pos wide]
    rfl
  | case5 total text some c rest read number narrow beyond =>
    rw [wideSum?_of_narrow read number narrow within room, if_pos beyond]
    rfl
  | case6 total text some c rest read number narrow fits shorter ih =>
    rw [wideSum?_of_narrow read number narrow within room, if_neg fits]
    exact ih (Nat.not_lt.1 fits)

theorem wideMagnitude?_eq {limit : Nat} (room : limit ≤ 2 ^ 63) (text : List Char) :
    wideMagnitude? limit text = some ((magnitude limit text).map Int.ofNat) := by
  rw [wideMagnitude?, magnitude]
  split
  case isTrue => rfl
  case isFalse =>
    split
    case isTrue => rfl
    case isFalse => exact wideSum?_eq (Nat.zero_le _) room

theorem wideSigned?_eq (sign : Sign) (text : List Char) :
    wideSigned? sign text = some (sign.apply <$> magnitude sign.limit text) := by
  cases sign with
  | minus =>
    have limit : room? (2 ^ 63 - 1 + 1) = some ((2 ^ 63 : Nat) : Int) := by decide
    simp only [wideSigned?, Sign.limit, limit, Option.bind_eq_bind, Option.bind_some,
      wideMagnitude?_eq (Nat.le_refl _)]
    cases found : magnitude (2 ^ 63) text with
    | error fault => rfl
    | ok n =>
      have most := le_of_magnitude found
      have back : room? (-(n : Int)) = some (-(n : Int)) := if_pos (by omega)
      exact congrArg (Option.map Except.ok) back
  | _ =>
    have limit : room? (2 ^ 63 - 1 + 0) = some ((2 ^ 63 - 1 : Nat) : Int) := by decide
    simp only [wideSigned?, Sign.limit, limit, Option.bind_eq_bind, Option.bind_some,
      wideMagnitude?_eq (show 2 ^ 63 - 1 ≤ 2 ^ 63 by decide)]
    rfl

/-- No number on the way to the nanoseconds of a text is too large. -/
theorem wideChars?_eq (text : List Char) : wideChars? text = some (parseChars text) := by
  obtain ⟨sign, rest, rfl, unsigned⟩ := exists_sign text
  have behind : wideChars? (sign.mark ++ rest) = wideSigned? sign rest := by
    cases sign with
    | none =>
      obtain ⟨noMinus, noPlus⟩ := unsigned rfl
      show wideChars? rest = _
      unfold wideChars?
      split
      · exact absurd rfl noMinus
      · exact absurd rfl noPlus
      · rfl
    | _ => rfl
  rw [behind, wideSigned?_eq, parseChars_sign sign unsigned]

/-! ## Reading a duration -/

/-- The texts that are read are the texts of durations, with numbers of at most twenty digits and
with totals that do not pass the limit of the sign. No number on the way is too large, and the parts
of the result are stored as they are, on the same side of zero. -/
theorem parseTotal_iff_denotes (s : String) :
    ((∃ n, parseTotal s = .ok n) ↔ ∃ sign cs, Denotes sign cs s.toList ∧ Narrow cs ∧
      ∀ part, part <+: cs → sum part ≤ sign.limit) ∧
    wideChars? s.toList = some (parseTotal s) ∧
    ∀ n, parseTotal s = .ok n → (-2 ^ 63 ≤ n ∧ n ≤ 2 ^ 63 - 1) ∧
      ∃ d, Codec.duration.decode s = .ok d ∧ d.seconds.toInt = n.tdiv nanosPerSecond ∧
        d.nanos.toInt = n.tmod nanosPerSecond ∧ d.Normal := by
  refine ⟨⟨?reads, ?read⟩, wideChars?_eq s.toList, ?range⟩
  case reads =>
    rintro ⟨n, read⟩
    obtain ⟨sign, cs, denotes, narrow, within, -⟩ := parseChars_eq_ok_iff.1 read
    exact ⟨sign, cs, denotes, narrow, within⟩
  case read =>
    rintro ⟨sign, cs, denotes, narrow, within⟩
    exact ⟨_, parseChars_eq_ok_iff.2 ⟨sign, cs, denotes, narrow, within, rfl⟩⟩
  case range =>
    intro n read
    obtain ⟨least, most⟩ := range_of_parseChars read
    obtain ⟨seconds, nanos⟩ := toInt_ofTotal least most
    exact ⟨⟨least, most⟩, ofTotal n, by simp only [Codec.duration, read], seconds, nanos,
      (ofTotal_spec least most).2⟩

end Duration

end FlagBinding.Time
