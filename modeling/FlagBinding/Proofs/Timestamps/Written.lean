import FlagBinding.Proofs.Durations.Canonical
import FlagBinding.Proofs.Timestamps.Calendar
import FlagBinding.Time.Rfc3339

/-!
# The RFC 3339 text of an instant is read back

In years of at most four digits every part of the text but the fraction has a fixed number of
digits, and the fraction ends before the letter of universal time. So each number is read back as it
was written, and the parts make up the date and the time of day of the instant.

## Main definitions

* `Instant.Printable`: an instant in a year of four digits.
* `Clock.IsTime`: a time of day that clocks show.
* `Rfc3339.Shown`: a date and a time of day whose text has four digits for the year.
* `Rfc3339.text`: the text of a date and a time of day.
* `Rfc3339.writtenParts`: what the text says.

## Main statements

* `Rfc3339.scan?_text`: the parts of a text.
* `Rfc3339.parse?_text`: a date and a time of day are read back from their text.
* `Rfc3339.exists_text`: the text of a printable instant is of that kind.
-/

namespace FlagBinding.Time

open Number
open Duration (length_paddedDigits ofDigitChars_paddedDigits)

/-! ## Digits -/

theorem isDigit_of_mem_paddedDigits {width n : Nat} : ∀ c ∈ paddedDigits width n, c.isDigit := by
  intro c mem
  rw [paddedDigits] at mem
  rcases List.mem_append.1 mem with zero | digit
  · exact isDigits_zeros _ c zero
  · exact (isDigits_digits n).2 c digit

/-- Digits are scanned as the number that they denote, up to the width or to what is no digit. -/
theorem scanDigits?_append {least width count acc : Nat} {ds rest : List Char}
    (all : ∀ c ∈ ds, c.isDigit) (fits : Nat.ofDigitChars 10 ds acc ≤ greatest64)
    (stop : ds.length = width ∨ ds.length ≤ width ∧ least ≤ count + ds.length ∧
      ∃ c more, rest = c :: more ∧ digitValue? c = none) :
    scanDigits? least width count acc (ds ++ rest) =
      some (Nat.ofDigitChars 10 ds acc, count + ds.length, rest) := by
  induction ds generalizing width count acc with
  | nil =>
    cases width with
    | zero => rfl
    | succ width =>
      obtain ⟨-, enough, c, more, rfl, other⟩ := stop.resolve_left (by simp)
      have enough : ¬ count < least := Nat.not_lt.2 enough
      simp [scanDigits?, other, enough]
  | cons c ds ih =>
    obtain ⟨digit, all⟩ := List.forall_mem_cons.1 all
    obtain ⟨w, rfl⟩ : ∃ w, width = w + 1 := ⟨width - 1, by simp at stop; omega⟩
    rw [Nat.ofDigitChars_cons, Nat.mul_comm 10] at fits ⊢
    -- the number only grows, so no digit before the last passes the bound
    have step : ¬ greatest64 < acc * 10 + (c.toNat - '0'.toNat) :=
      Nat.not_lt.2 (Nat.le_trans (le_ofDigitChars ds _) fits)
    have stop : ds.length = w ∨ ds.length ≤ w ∧ least ≤ count + 1 + ds.length ∧
        ∃ c more, rest = c :: more ∧ digitValue? c = none := by
      rcases stop with full | ⟨short, enough, rest⟩
      · exact .inl (by simpa using full)
      · simp only [List.length_cons] at short enough
        exact .inr ⟨by omega, by omega, rest⟩
    rw [List.cons_append, scanDigits?, digitValue?_of_isDigit digit]
    simp only [step, if_false]
    rw [ih all fits stop, List.length_cons, Nat.add_right_comm, Nat.add_assoc]

/-- A number that fills its width is scanned whatever follows it. -/
theorem scanNumber?_paddedDigits {least width n : Nat} (positive : 0 < width)
    (narrow : width ≤ 18) (fits : n < 10 ^ width) (rest : List Char) :
    scanNumber? least width (paddedDigits width n ++ rest) = some (n, rest) := by
  have room : 10 ^ width ≤ 10 ^ 18 := Nat.pow_le_pow_right (by decide) narrow
  have value := ofDigitChars_paddedDigits width n
  have small : Nat.ofDigitChars 10 (paddedDigits width n) 0 ≤ greatest64 := by
    rw [value, greatest64]
    omega
  rw [scanNumber?, scanDigits?_append isDigit_of_mem_paddedDigits small
    (.inl (length_paddedDigits positive fits)), value]
  rfl

/-! ## Fractions of a second -/

namespace Rfc3339

/-- A fraction of a second has three, six or nine digits. -/
theorem formatFraction_eq {nanos : Nat} (some : nanos ≠ 0) (small : nanos < 1000000000) :
    ∃ places n, 0 < places ∧ places ≤ 9 ∧ n < 10 ^ places ∧ n * 10 ^ (9 - places) = nanos ∧
      formatFraction nanos = '.' :: paddedDigits places n := by
  rw [formatFraction, if_neg some]
  split
  case isTrue millis => exact ⟨3, nanos / 1000000, by decide, by decide, by omega, by omega, rfl⟩
  case isFalse =>
    split
    case isTrue micros => exact ⟨6, nanos / 1000, by decide, by decide, by omega, by omega, rfl⟩
    case isFalse => exact ⟨9, nanos, by decide, by decide, by omega, by omega, rfl⟩

/-- A fraction of a second is scanned before the letter of universal time. -/
theorem scanFraction?_paddedDigits {places n : Nat} (positive : 0 < places) (narrow : places ≤ 9)
    (fits : n < 10 ^ places) : scanFraction? (paddedDigits places n ++ ['Z']) =
      some (((n * 10 ^ (9 - places) : Nat) : Int), ['Z']) := by
  have room : 10 ^ places ≤ 10 ^ 9 := Nat.pow_le_pow_right (by decide) narrow
  have value := ofDigitChars_paddedDigits places n
  have length := length_paddedDigits positive fits
  have small : Nat.ofDigitChars 10 (paddedDigits places n) 0 ≤ greatest64 := by
    rw [value, greatest64]
    omega
  rw [scanFraction?, scanDigits?_append isDigit_of_mem_paddedDigits small
    (.inr ⟨by omega, by omega, 'Z', [], rfl, by decide⟩), value, length, Nat.zero_add]
  rfl

end Rfc3339

/-! ## The text of a date and a time -/

/-- A time of day that clocks show, with less than a second of nanoseconds. -/
structure Clock.IsTime (c : Clock) : Prop where
  hour : c.hour < 24
  minute : c.minute < 60
  second : c.second < 60
  nanos : c.nanos < 1000000000

theorem Clock.isTime_ofSecondOfDay {n nanos : Nat} (day : n < secondsPerDay)
    (small : nanos < 1000000000) : (ofSecondOfDay n nanos).IsTime := by
  rw [secondsPerDay] at day
  constructor <;> simp only [ofSecondOfDay] <;> omega

theorem Clock.secondOfDay_ofSecondOfDay (n nanos : Nat) :
    (ofSecondOfDay n nanos).secondOfDay = n := by
  simp only [ofSecondOfDay, secondOfDay]
  omega

namespace Rfc3339

/-- A date and a time of day whose text has four digits for the year. -/
structure Shown (d : Date) (c : Clock) : Prop where
  day : d.IsDay
  year : 0 ≤ d.year ∧ d.year ≤ 9999
  time : c.IsTime

/-- The text of a date in front of `rest`. -/
def dateText (d : Date) (rest : List Char) : List Char :=
  paddedDigits 4 d.year.toNat ++
    '-' :: (paddedDigits 2 d.month ++ '-' :: (paddedDigits 2 d.day ++ rest))

/-- The text of a time of day, without a fraction of a second, in front of `rest`. -/
def clockText (c : Clock) (rest : List Char) : List Char :=
  paddedDigits 2 c.hour ++
    ':' :: (paddedDigits 2 c.minute ++ ':' :: (paddedDigits 2 c.second ++ rest))

def text (d : Date) (c : Clock) : List Char :=
  dateText d ('T' :: clockText c (formatFraction c.nanos ++ ['Z']))

def dateParts (d : Date) : Parts where
  year := some d.year
  month := some d.month
  day := some d.day

/-- What the text says up to the hour. -/
def hourParts (d : Date) (c : Clock) : Parts where
  year := some d.year
  month := some d.month
  day := some d.day
  half := some (c.hour / 12 : Nat)
  hourOfHalf := some (c.hour % 12 : Nat)

/-- What the text says up to the minute. -/
def minuteParts (d : Date) (c : Clock) : Parts :=
  { hourParts d c with minute := some c.minute }

def secondParts (d : Date) (c : Clock) : Parts :=
  { minuteParts d c with second := some c.second }

/-- What the text says up to the offset. -/
def localParts (d : Date) (c : Clock) : Parts :=
  { secondParts d c with nanosecond := if c.nanos = 0 then none else some c.nanos }

/-- What the text of a date and a time of day says. -/
def writtenParts (d : Date) (c : Clock) : Parts :=
  { localParts d c with offset := some 0 }

variable {d : Date} {c : Clock}

theorem formatDateClock_eq (shown : Shown d c) : formatDateClock d c = text d c := by
  have noLeap : c.nanos / 1000000000 = 0 := Nat.div_eq_of_lt shown.time.nanos
  simp only [formatDateClock, formatYear, shown.year, and_self, if_true, noLeap, Nat.add_zero,
    Nat.mod_eq_of_lt shown.time.nanos, text, dateText, clockText, List.append_assoc,
      List.cons_append,
    List.nil_append]

/-! ## Reading the text -/

theorem between?_of_le {lo hi v : Int} (least : lo ≤ v) (most : v ≤ hi) :
    between? lo hi v = some v :=
  if_pos ⟨least, most⟩

/-- A number that fills its width is added to the parts. -/
theorem number?_paddedDigits {p q : Parts} {field : Field} {width n : Nat} (positive : 0 < width)
    (narrow : width ≤ 18) (fits : n < 10 ^ width) (set : p.set? field n = some q)
    (rest : List Char) : number? p field width (paddedDigits width n ++ rest) = some (q, rest) := by
  rw [number?, scanNumber?_paddedDigits positive narrow fits]
  simp [set]

theorem fraction?_formatFraction (p : Parts) {nanos : Nat} (small : nanos < 1000000000) :
    fraction? p (formatFraction nanos ++ ['Z']) =
      if nanos = 0 then some (p, ['Z']) else (p.set? .nanosecond nanos).map fun p =>
        (p, ['Z']) := by
  split
  case isTrue zero =>
    subst zero
    rfl
  case isFalse nonzero =>
    obtain ⟨places, n, positive, narrow, fits, value, form⟩ := formatFraction_eq nonzero small
    rw [form, List.cons_append, fraction?, scanFraction?_paddedDigits positive narrow fits, value]
    cases set : p.set? .nanosecond nanos <;> simp [set]

/-- The year, the month and the day of a date are in the ranges of these parts. -/
theorem set?_date (shown : Shown d c) :
    Parts.set? {} .year d.year = some { year := some d.year } ∧
      Parts.set? { year := some d.year } .month d.month =
        some { year := some d.year, month := some (d.month : Int) } ∧
      Parts.set? { year := some d.year, month := some (d.month : Int) } .day d.day =
        some (dateParts d) := by
  have years := shown.year
  have months := shown.day.month
  have days := shown.day.day
  have longest := shown.day.day_le
  refine ⟨?_, ?_, ?_⟩ <;>
    simp (disch := omega) [Parts.set?, agree?, between?_of_le, greatest32, dateParts]

/-- The hour, the minute and the second of a time of day are in the ranges of these parts. -/
theorem set?_clock (d : Date) (time : c.IsTime) :
    (dateParts d).set? .hour c.hour = some (hourParts d c) ∧
      (hourParts d c).set? .minute c.minute = some (minuteParts d c) ∧
      (minuteParts d c).set? .second c.second = some (secondParts d c) := by
  have hours := time.hour
  have minutes := time.minute
  have seconds := time.second
  refine ⟨?_, ?_, ?_⟩ <;>
    simp (disch := omega) [Parts.set?, Parts.setHour?, agree?, between?_of_le, secondParts,
      minuteParts, hourParts, dateParts]

theorem fraction?_secondParts (d : Date) (time : c.IsTime) :
    fraction? (secondParts d c) (formatFraction c.nanos ++ ['Z']) =
      some (localParts d c, ['Z']) := by
  have nanos := time.nanos
  rw [fraction?_formatFraction _ nanos]
  split
  case isTrue zero => simp [localParts, secondParts, minuteParts, hourParts, zero]
  case isFalse nonzero =>
    simp (disch := omega) [Parts.set?, agree?, between?_of_le, localParts, secondParts, minuteParts,
      hourParts, nonzero]

/-- The text of a date and a time of day is read as its parts. -/
theorem scan?_text (shown : Shown d c) : scan? (text d c) = some (writtenParts d c) := by
  have years : ((d.year.toNat : Nat) : Int) = d.year := Int.toNat_of_nonneg shown.year.1
  have longest := shown.year.2
  have months := shown.day.month
  have days := shown.day.day_le
  have hours := shown.time.hour
  have minutes := shown.time.minute
  have seconds := shown.time.second
  obtain ⟨year, month, monthDay⟩ := set?_date shown
  obtain ⟨hour, minute, second⟩ := set?_clock d shown.time
  rw [← years] at year
  simp only [scan?, text, dateText, clockText, skip?, dateTimeMark, if_true, Option.bind_eq_bind,
    Option.bind_some, number?_paddedDigits (show 0 < 4 by decide) (by decide) (by omega) year,
    years, number?_paddedDigits (show 0 < 2 by decide) (by decide) (by omega) month,
    number?_paddedDigits (show 0 < 2 by decide) (by decide) (by omega) monthDay,
    number?_paddedDigits (show 0 < 2 by decide) (by decide) (by omega) hour,
    number?_paddedDigits (show 0 < 2 by decide) (by decide) (by omega) minute,
    number?_paddedDigits (show 0 < 2 by decide) (by decide) (by omega) second,
    fraction?_secondParts d shown.time]
  rfl

/-! ## The instant of the text -/

theorem date_writtenParts (shown : Shown d c) : (writtenParts d c).date = .ok d := by
  have range := shown.year
  have found : Date.ofParts? d.year d.month d.day = some d :=
    Date.ofParts?_eq_some shown.day (by unfold leastYear; omega) (by unfold greatestYear; omega)
  have candidate : (writtenParts d c).candidate (some d.year) none = .ok (true, d) := by
    show (do
      let d ← Parts.inRange (Date.ofParts? d.year d.month d.day)
      pure ((writtenParts d c).isoFits d && (writtenParts d c).ordinalFits d, d)) = _
    rw [found]
    simp [Parts.inRange, Parts.isoFits, Parts.ordinalFits, Parts.isOr, Parts.centuryFits,
      writtenParts, localParts, secondParts, minuteParts, hourParts]
  show (do
    let found ← (writtenParts d c).candidate (some d.year) none
    if found.1 && Parts.isOr none ((found.2.month + 2) / 3 : Nat) then pure found.2
      else .error .impossible) = _
  rw [candidate]
  exact if_pos (by simp [Parts.isOr])

theorem clock_writtenParts (time : c.IsTime) : (writtenParts d c).clock = .ok c := by
  obtain ⟨hour, minute, second, nanos⟩ := c
  have noLeap : (second : Int) ≠ 60 := by
    have : second < 60 := time.second
    omega
  have hours : ((hour / 12 : Nat) * 12 + (hour % 12 : Nat) : Int).toNat = hour := by omega
  have fraction : ((if nanos = 0 then none else some (nanos : Int)).getD 0).toNat = nanos := by
    split <;> simp_all
  simp only [Parts.clock, writtenParts, localParts, secondParts, minuteParts, hourParts,
    Option.some.injEq, noLeap, if_false, hours]
  simpa using fraction

theorem midnight_ofDateClock (d : Date) (time : c.IsTime) :
    (Instant.ofDateClock d c).seconds / (secondsPerDay : Int) = d.dayNumber := by
  have hours := time.hour
  have minutes := time.minute
  have seconds := time.second
  simp only [Instant.ofDateClock, secondsPerDay, Clock.secondOfDay]
  omega

/-- The text of a date and a time of day is read as its instant. -/
theorem parse?_text (shown : Shown d c) (known : Date.ofDayNumber? d.dayNumber = some d) :
    parse? (String.ofList (text d c)) = some (Instant.ofDateClock d c) := by
  have moment : (writtenParts d c).local? 0 = some (d, c) := by
    rw [Parts.local?, date_writtenParts shown, clock_writtenParts shown.time]
    rfl
  have universal : Parts.atOffset? 0 (d, c) = some (Instant.ofDateClock d c) := by
    simp only [Parts.atOffset?, Int.sub_zero, midnight_ofDateClock d shown.time, known,
      Option.map_some]
  rw [parse?, String.toList_ofList, scan?_text shown, Option.bind_some]
  show ((writtenParts d c).local? 0).bind _ = _
  rw [moment, Option.bind_some]
  exact universal

end Rfc3339

/-! ## Instants -/

/-- An instant that has a text with four digits for the year, from the start of the year 1 on. -/
structure Instant.Printable (i : Instant) : Prop where
  least : (ofDateClock ⟨1, 1, 1⟩ ⟨0, 0, 0, 0⟩).seconds ≤ i.seconds
  most : i.seconds ≤ (ofDateClock ⟨9999, 12, 31⟩ ⟨23, 59, 59, 0⟩).seconds
  nanos : i.nanos < 1000000000

namespace Rfc3339

/-- A printable instant is that of a date and a time of day. -/
theorem exists_shown {i : Instant} (printable : i.Printable) : ∃ d c, Shown d c ∧
    i.dateClock? = some (d, c) ∧ Instant.ofDateClock d c = i ∧
    Date.ofDayNumber? d.dayNumber = some d := by
  obtain ⟨seconds, nanos⟩ := i
  obtain ⟨least, most, small⟩ := printable
  simp only at least most small
  have first : (Instant.ofDateClock ⟨1, 1, 1⟩ ⟨0, 0, 0, 0⟩).seconds =
      Date.dayNumber ⟨1, 1, 1⟩ * 86400 := by decide
  have last : (Instant.ofDateClock ⟨9999, 12, 31⟩ ⟨23, 59, 59, 0⟩).seconds =
      Date.dayNumber ⟨9999, 12, 31⟩ * 86400 + 86399 := by decide
  obtain ⟨day, hday⟩ : ∃ n, n = seconds / (secondsPerDay : Int) := ⟨_, rfl⟩
  obtain ⟨second, hsecond⟩ : ∃ n : Nat, n = (seconds % (secondsPerDay : Int)).toNat := ⟨_, rfl⟩
  have split : day * secondsPerDay + second = seconds ∧ second < secondsPerDay := by
    rw [secondsPerDay] at *
    omega
  have year : 1 ≤ (Date.ofDayNumber day).year ∧ (Date.ofDayNumber day).year ≤ 9999 :=
    Date.year_ofDayNumber (by rw [secondsPerDay] at split; omega)
      (by rw [secondsPerDay] at split; omega)
  have known : Date.ofDayNumber? day = some (Date.ofDayNumber day) :=
    if_pos ⟨by unfold leastYear; omega, by unfold greatestYear; omega⟩
  have shown : Shown (Date.ofDayNumber day) (Clock.ofSecondOfDay second nanos) :=
    ⟨Date.isDay_ofDayNumber day, ⟨by omega, year.2⟩, Clock.isTime_ofSecondOfDay split.2 small⟩
  have instant : Instant.ofDateClock (Date.ofDayNumber day) (Clock.ofSecondOfDay second nanos) =
      ⟨seconds, nanos⟩ := by
    rw [Instant.ofDateClock, Date.dayNumber_ofDayNumber, Clock.secondOfDay_ofSecondOfDay, split.1]
    rfl
  have parts : Instant.dateClock? ⟨seconds, nanos⟩ =
      some (Date.ofDayNumber day, Clock.ofSecondOfDay second nanos) := by
    simp only [Instant.dateClock?, ← hday, ← hsecond, known, Option.bind_eq_bind, Option.bind_some]
    exact if_pos (.inl small)
  exact ⟨_, _, shown, parts, instant, by rw [Date.dayNumber_ofDayNumber, known]⟩

/-- A printable instant is written as the text of a date and a time of day, and read back from
it. -/
theorem exists_text {i : Instant} (printable : i.Printable) : ∃ d c, Shown d c ∧
    format? i = some (String.ofList (text d c)) ∧ parse? (String.ofList (text d c)) = some i := by
  obtain ⟨d, c, shown, parts, rfl, known⟩ := exists_shown printable
  refine ⟨d, c, shown, ?_, parse?_text shown known⟩
  rw [format?, parts, Option.map_some, ← formatDateClock_eq shown]

end Rfc3339

end FlagBinding.Time
