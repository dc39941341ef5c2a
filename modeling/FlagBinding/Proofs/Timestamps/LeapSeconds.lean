import FlagBinding.Element.Moment

/-!
# Leap seconds in timestamps

A time of day may have a second 60. It is kept as the last second of its minute with a billion
nanoseconds more, and these go into the timestamp. So the nanoseconds of a timestamp that is read
are less than a second exactly if the text has no second 60 where a time of day is taken from it.

## Main definitions

* `Parts.Fine`: parts with less than a second of nanoseconds.
* `Parts.Tells`: nanoseconds that reach a second exactly for parts with a second 60.
* `Layout.timeParts?`: the parts from which a layout takes the time of day.
* `Layout.FindsLeapSecond`: a text with a second 60.

## Main statements

* `Parts.fine_scan?`, `Rfc3339.fine_scan?`: what scanning finds is less than a second of
  nanoseconds.
* `Parts.Fine.tells_instant?`: the time of day that fine parts give, also where a count of seconds
  fills them in.
* `Layout.nanos_parse?`: the nanoseconds of an instant.
* `Codec.nanos_decode_timestamp`: the nanoseconds of a timestamp that is read.
-/

namespace FlagBinding

namespace Time

/-! ## What scanning finds -/

theorem agree?_eq_some {old new : Option Int} {v : Int} (found : agree? old v = some new) :
    new = some v := by
  unfold agree? at found
  split at found
  · exact (Option.some.inj found).symm
  · split at found
    · exact (Option.some.inj found).symm
    · cases found

theorem between?_eq_some {lo hi v w : Int} (found : between? lo hi v = some w) :
    w = v ∧ lo ≤ v ∧ v ≤ hi := by
  rw [between?] at found
  split at found
  case isTrue within => exact ⟨(Option.some.inj found).symm, within⟩
  case isFalse => cases found

namespace Parts

variable {p q : Parts} {field : Field} {v : Int}

/-- Parts with the same second and the same nanoseconds. -/
def SameSecond (p q : Parts) : Prop :=
  q.second = p.second ∧ q.nanosecond = p.nanosecond

theorem SameSecond.trans {r : Parts} (first : p.SameSecond q) (second : q.SameSecond r) :
    p.SameSecond r :=
  ⟨second.1.trans first.1, second.2.trans first.2⟩

theorem sameSecond_setHour? (found : p.setHour? v = some q) : p.SameSecond q := by
  simp only [setHour?, Option.pure_def, Option.bind_eq_bind, Option.bind_eq_some_iff,
    Option.some.injEq] at found
  obtain ⟨_, _, _, _, _, _, rfl⟩ := found
  exact ⟨rfl, rfl⟩

theorem sameSecond_setWeekday? (found : p.setWeekday? v = some q) : p.SameSecond q := by
  simp only [setWeekday?, Option.pure_def, Option.bind_eq_bind, Option.bind_eq_some_iff,
    Option.some.injEq] at found
  obtain ⟨_, _, rfl⟩ := found
  exact ⟨rfl, rfl⟩

theorem sameSecond_setHalf? (found : p.setHalf? v = some q) : p.SameSecond q := by
  simp only [setHalf?, Option.pure_def, Option.bind_eq_bind, Option.bind_eq_some_iff,
    Option.some.injEq] at found
  obtain ⟨_, _, rfl⟩ := found
  exact ⟨rfl, rfl⟩

theorem sameSecond_setOffset? (found : p.setOffset? v = some q) : p.SameSecond q := by
  simp only [setOffset?, Option.pure_def, Option.bind_eq_bind, Option.bind_eq_some_iff,
    Option.some.injEq] at found
  obtain ⟨_, _, rfl⟩ := found
  exact ⟨rfl, rfl⟩

theorem second_set? (found : p.set? .second v = some q) :
    q.second = some v ∧ q.nanosecond = p.nanosecond := by
  simp only [Parts.set?, Option.pure_def, Option.bind_eq_bind, Option.bind_eq_some_iff,
    Option.some.injEq] at found
  obtain ⟨w, within, new, agrees, rfl⟩ := found
  obtain ⟨rfl, -⟩ := between?_eq_some within
  exact ⟨agree?_eq_some agrees, rfl⟩

/-- A numeric part changes the second and the nanoseconds only if it is about them. -/
theorem cases_set? (found : p.set? field v = some q) :
    p.SameSecond q ∨
      (field = .second ∧ q.second = some v ∧ q.nanosecond = p.nanosecond) ∨
      (field = .nanosecond ∧ q.second = p.second ∧ q.nanosecond = some v ∧
        0 ≤ v ∧ v ≤ 999999999) := by
  cases field
  case second => exact .inr (.inl ⟨rfl, second_set? found⟩)
  all_goals simp only [Parts.set?, Option.pure_def, Option.bind_eq_bind, Option.bind_eq_some_iff,
    Option.some.injEq] at found
  case nanosecond =>
    obtain ⟨w, within, new, agrees, rfl⟩ := found
    obtain ⟨rfl, bounds⟩ := between?_eq_some within
    exact .inr (.inr ⟨rfl, rfl, agree?_eq_some agrees, bounds⟩)
  case hour => exact .inl (sameSecond_setHour? found)
  case weekdayFromSunday | weekdayFromMonday =>
    obtain ⟨_, _, set⟩ := found
    exact .inl (sameSecond_setWeekday? set)
  case timestamp =>
    obtain ⟨_, _, rfl⟩ := found
    exact .inl ⟨rfl, rfl⟩
  all_goals
    obtain ⟨_, _, _, _, rfl⟩ := found
    exact .inl ⟨rfl, rfl⟩

theorem sameSecond_set? (found : p.set? field v = some q) (other : field ≠ .second)
    (coarse : field ≠ .nanosecond) : p.SameSecond q := by
  rcases cases_set? found with same | ⟨second, -⟩ | ⟨nanosecond, -⟩
  · exact same
  · exact absurd second other
  · exact absurd nanosecond coarse

/-- Less than a second of nanoseconds. -/
def Fine (p : Parts) : Prop :=
  ∀ v, p.nanosecond = some v → 0 ≤ v ∧ v ≤ 999999999

theorem Fine.of_sameSecond (fine : p.Fine) (same : p.SameSecond q) : q.Fine :=
  fun v nanos => fine v (same.2 ▸ nanos)

theorem Fine.set? (fine : p.Fine) (found : p.set? field v = some q) : q.Fine := by
  rcases cases_set? found with same | ⟨-, -, nanos⟩ | ⟨-, -, nanos, within⟩
  · exact fine.of_sameSecond same
  · exact fun w own => fine w (nanos ▸ own)
  · rintro w own
    obtain rfl : v = w := Option.some.inj (nanos.symm.trans own)
    exact within

/-! ## Patterns -/

variable {item : PatternItem} {items : List PatternItem} {cs rest left : List Char}

/-- The parts that one step gives, with the rest of the text. -/
theorem fine_of_bind {step : Option Parts} (kept : ∀ r, step = some r → r.Fine)
    (found : (step.bind fun r => some (r, left)) = some (q, rest)) : q.Fine := by
  obtain ⟨r, stepped, same⟩ := Option.bind_eq_some_iff.1 found
  obtain ⟨rfl, -⟩ := Prod.mk.inj (Option.some.inj same)
  exact kept r stepped

/-- The parts with a numeric part, and the rest of the text. -/
theorem Fine.of_set? (fine : p.Fine)
    (found : ((p.set? field v).bind fun q => some (q, left)) = some (q, rest)) : q.Fine :=
  fine_of_bind (fun _ => fine.set?) found

theorem scanSimple?_literal (p : Parts) (c d : Char) (rest : List Char) :
    scanSimple? p (.literal c) (d :: rest) = if c = d then some (p, rest) else none := rfl

theorem scanSimple?_fraction (p : Parts) (width : Option Nat) (cs : List Char) :
    scanSimple? p (.fraction width) cs =
      match cs with
      | '.' :: rest =>
        match width with
        | none => (scanFraction? rest).bind fun (v, rest) =>
          (p.set? .nanosecond v).bind fun q => some (q, rest)
        | some w => (scanFixedFraction? w rest).bind fun (v, rest) =>
          (p.set? .nanosecond v).bind fun q => some (q, rest)
      | _ => some (p, cs) := rfl

theorem Fine.scanSimple? (fine : p.Fine) (found : scanSimple? p item cs = some (q, rest)) :
    q.Fine := by
  cases item with
  | literal c =>
    cases cs with
    | nil => cases found
    | cons d left =>
      rw [scanSimple?_literal] at found
      split at found <;> cases found
      exact fine
  | blanks =>
    cases found
    exact fine
  | number field =>
    obtain ⟨⟨v, left⟩, -, found⟩ := Option.bind_eq_some_iff.1 found
    exact fine.of_set? found
  | fraction width =>
    rw [scanSimple?_fraction] at found
    split at found
    · split at found
      all_goals
        obtain ⟨⟨v, left⟩, -, found⟩ := Option.bind_eq_some_iff.1 found
        exact fine.of_set? found
    · cases found
      exact fine
  | _ => cases found

theorem Fine.scanSimples? (fine : p.Fine) (found : scanSimples? p items cs = some (q, rest)) :
    q.Fine := by
  induction items generalizing p cs with
  | nil =>
    cases found
    exact fine
  | cons item items ih =>
    obtain ⟨⟨r, left⟩, first, found⟩ := Option.bind_eq_some_iff.1 found
    exact ih (fine.scanSimple? first) found

theorem Fine.scanInternetTime? (fine : p.Fine) (found : scanInternetTime? p cs = some (q, rest)) :
    q.Fine := by
  obtain ⟨⟨r, _⟩, date, found⟩ := Option.bind_eq_some_iff.1 found
  obtain ⟨_, -, found⟩ := Option.bind_eq_some_iff.1 found
  obtain ⟨⟨r', _⟩, clock, found⟩ := Option.bind_eq_some_iff.1 found
  have fine := (fine.scanSimples? date).scanSimples? clock
  dsimp only at found
  split at found
  all_goals
    obtain ⟨⟨v, left⟩, -, found⟩ := Option.bind_eq_some_iff.1 found
    exact fine_of_bind (fun _ set => fine.of_sameSecond (sameSecond_setOffset? set)) found

/-- No item of a pattern brings a second of nanoseconds or more. -/
theorem Fine.scanItem? (fine : p.Fine) (found : scanItem? p item cs = some (q, rest)) : q.Fine := by
  cases item with
  | monthName long =>
    obtain ⟨⟨v, left⟩, -, found⟩ := Option.bind_eq_some_iff.1 found
    exact fine.of_set? found
  | weekdayName long =>
    obtain ⟨⟨v, left⟩, -, found⟩ := Option.bind_eq_some_iff.1 found
    exact fine_of_bind (fun _ set => fine.of_sameSecond (sameSecond_setWeekday? set)) found
  | halfDay =>
    dsimp only [Time.scanItem?] at found
    split at found
    case h_3 => cases found
    all_goals exact fine_of_bind (fun _ set => fine.of_sameSecond (sameSecond_setHalf? set)) found
  | bareFraction width =>
    obtain ⟨⟨v, left⟩, -, found⟩ := Option.bind_eq_some_iff.1 found
    exact fine.of_set? found
  | zoneName =>
    cases found
    exact fine
  | offset lenient =>
    obtain ⟨⟨v, left⟩, -, found⟩ := Option.bind_eq_some_iff.1 found
    exact fine_of_bind (fun _ set => fine.of_sameSecond (sameSecond_setOffset? set)) found
  | internetTime => exact fine.scanInternetTime? found
  | unknown => cases found
  | literal | blanks | number | fraction =>
    rw [Time.scanItem?] at found
    · exact fine.scanSimple? found
    -- the equation of the remaining items excludes all the others one by one
    all_goals exact nofun

theorem Fine.scanItems? (fine : p.Fine) (found : scanItems? p items cs = some (q, rest)) :
    q.Fine := by
  induction items generalizing p cs with
  | nil =>
    cases found
    exact fine
  | cons item items ih =>
    obtain ⟨⟨r, left⟩, first, found⟩ := Option.bind_eq_some_iff.1 found
    exact ih (fine.scanItem? first) found

theorem fine_nothing : Fine {} := nofun

theorem fine_scan? (found : scan? items cs = some p) : p.Fine := by
  obtain ⟨⟨q, left⟩, scanned, found⟩ := Option.bind_eq_some_iff.1 found
  cases left with
  | nil =>
    cases found
    exact fine_nothing.scanItems? scanned
  | cons c left => cases found

end Parts

namespace Rfc3339

variable {p q : Parts} {field : Field} {width : Nat} {cs rest : List Char}

theorem fine_number? (fine : p.Fine) (found : number? p field width cs = some (q, rest)) :
    q.Fine := by
  obtain ⟨⟨v, left⟩, -, found⟩ := Option.bind_eq_some_iff.1 found
  exact fine.of_set? found

theorem fine_fraction? (fine : p.Fine) (found : fraction? p cs = some (q, rest)) : q.Fine := by
  unfold fraction? at found
  split at found
  · obtain ⟨⟨v, left⟩, -, found⟩ := Option.bind_eq_some_iff.1 found
    exact fine.of_set? found
  · cases found
    exact fine

theorem fine_scan? (found : scan? cs = some p) : p.Fine := by
  simp only [scan?, Option.bind_eq_bind, Option.bind_eq_some_iff, Prod.exists] at found
  obtain ⟨_, _, year, _, -, _, _, month, _, -, _, _, day, _, -, _, _, hour, _, -, _, _, minute,
    _, -, _, _, second, _, _, fraction, _, _, -, found⟩ := found
  have fine := fine_number? (fine_number? (fine_number? Parts.fine_nothing year) month) day
  have fine := fine_number? (fine_number? (fine_number? fine hour) minute) second
  have fine := fine_fraction? fine fraction
  split at found
  case isTrue => cases found
  case isFalse =>
    split at found
    case isTrue => cases found
    case isFalse => exact fine.of_sameSecond (Parts.sameSecond_setOffset? found)

end Rfc3339

/-! ## The time of day -/

namespace Parts

variable {p q : Parts} {field : Field} {v offset : Int} {d : Date} {c : Clock}

/-- Nanoseconds that reach a second exactly for parts with a second 60. -/
def Tells (p : Parts) (nanos : Nat) : Prop :=
  nanos < 2000000000 ∧ (1000000000 ≤ nanos ↔ p.second = some 60)

/-- A second 60 is the last second of its minute and brings a billion nanoseconds. -/
theorem Fine.tells_clock (fine : p.Fine) (found : p.clock = .ok c) : p.Tells c.nanos := by
  have below : (p.nanosecond.getD 0).toNat < 1000000000 := by
    cases own : p.nanosecond with
    | none => decide
    | some v =>
      have := fine v own
      rw [Option.getD_some]
      omega
  unfold clock at found
  split at found
  case h_2 => cases found
  case h_1 =>
    by_cases leap : p.second = some 60
    · rw [if_pos leap] at found
      dsimp only at found
      split at found
      · cases found
      · cases found
        exact ⟨by dsimp only; omega, fun _ => leap, fun _ => by dsimp only; omega⟩
    · rw [if_neg leap] at found
      dsimp only at found
      split at found
      · cases found
      · cases found
        exact ⟨by dsimp only; omega, fun reaches => by dsimp only at reaches; omega,
          fun second => absurd second leap⟩

/-- The date and time of parts to which all of a date and a time of day but the second are added. -/
def fillIn? (p : Parts) (d : Date) (c : Clock) : Option (Date × Clock) := do
  let p ← p.set? .year d.year
  let p ← p.set? .ordinal d.ordinal
  let p ← p.set? .hour c.hour
  let p ← p.set? .minute c.minute
  match p.date, p.clock with
  | .ok d, .ok c => some (d, c)
  | _, _ => none

theorem ofTimestamp?_eq (p : Parts) (timestamp offset : Int) :
    p.ofTimestamp? timestamp offset =
      if (greatest64 : Int) < timestamp + offset then none
      else (Instant.dateClock? ⟨timestamp + offset, 0⟩).bind fun (d, c) =>
        if p.second = some 60 then
          if c.second = 59 then p.fillIn? d c
          else if c.second = 0 then
            (Instant.dateClock? ⟨timestamp + offset - 1, 0⟩).bind fun (d, c) => p.fillIn? d c
          else none
        else (p.set? .second c.second).bind fun q => q.fillIn? d c := rfl

theorem Fine.tells_fillIn? {d' : Date} {c' : Clock} (fine : p.Fine)
    (found : p.fillIn? d' c' = some (d, c)) : p.Tells c.nanos := by
  simp only [fillIn?, Option.bind_eq_bind, Option.bind_eq_some_iff] at found
  obtain ⟨_, year, _, ordinal, _, hour, q, minute, found⟩ := found
  have same : p.SameSecond q := (sameSecond_set? year nofun nofun).trans <|
    (sameSecond_set? ordinal nofun nofun).trans <| (sameSecond_set? hour nofun nofun).trans <|
    sameSecond_set? minute nofun nofun
  split at found
  case h_2 => cases found
  case h_1 clock =>
    cases found
    have tells := (fine.of_sameSecond same).tells_clock clock
    exact ⟨tells.1, by rw [tells.2, same.1]⟩

theorem second_dateClock? {i : Instant} (found : i.dateClock? = some (d, c)) : c.second < 60 := by
  obtain ⟨date, -, found⟩ := Option.bind_eq_some_iff.1 found
  dsimp only at found
  split at found
  case isTrue =>
    cases found
    exact Nat.mod_lt _ (by decide)
  case isFalse => cases found

/-- A second is filled in only where there is no second 60, and it is no second 60 itself. -/
theorem Fine.tells_ofTimestamp? {timestamp : Int} (fine : p.Fine)
    (found : p.ofTimestamp? timestamp offset = some (d, c)) : p.Tells c.nanos := by
  rw [ofTimestamp?_eq] at found
  split at found
  case isTrue => cases found
  case isFalse =>
    obtain ⟨⟨d', c'⟩, counted, found⟩ := Option.bind_eq_some_iff.1 found
    dsimp only at found
    split at found
    case isTrue leap =>
      split at found
      case isTrue => exact fine.tells_fillIn? found
      case isFalse =>
        split at found
        case isTrue =>
          obtain ⟨⟨d'', c''⟩, -, found⟩ := Option.bind_eq_some_iff.1 found
          exact fine.tells_fillIn? found
        case isFalse => cases found
    case isFalse plain =>
      obtain ⟨q, set, found⟩ := Option.bind_eq_some_iff.1 found
      have tells := (fine.set? set).tells_fillIn? found
      have below := second_dateClock? counted
      have second := (second_set? set).1
      refine ⟨tells.1, tells.2.trans ⟨fun leap => ?_, fun leap => absurd leap plain⟩⟩
      have : (c'.second : Int) = 60 := Option.some.inj (second.symm.trans leap)
      omega

theorem Fine.tells_local? (fine : p.Fine) (found : p.local? offset = some (d, c)) :
    p.Tells c.nanos := by
  unfold local? at found
  split at found
  case h_1 clock =>
    split at found
    case h_1 =>
      cases found
      exact fine.tells_clock clock
    case h_2 =>
      dsimp only at found
      split at found
      case isTrue =>
        cases found
        exact fine.tells_clock clock
      case isFalse => cases found
  case h_2 =>
    split at found
    case h_1 => cases found
    case h_2 =>
      split at found
      case isTrue => cases found
      case isFalse => exact fine.tells_ofTimestamp? found

theorem Fine.tells_instant? {i : Instant} (fine : p.Fine) (found : p.instant? = some i) :
    p.Tells i.nanos := by
  unfold instant? at found
  split at found
  case h_1 => cases found
  case h_2 =>
    obtain ⟨⟨d, c⟩, local', found⟩ := Option.bind_eq_some_iff.1 found
    split at found
    case isTrue =>
      obtain ⟨_, -, rfl⟩ := Option.map_eq_some_iff.1 found
      exact fine.tells_local? local'
    case isFalse => cases found

end Parts

/-! ## Layouts -/

namespace Layout

variable {items : List PatternItem} {cs : List Char} {layout : Layout}
    {input : String} {i : Instant}

theorem tells_readZoned? (found : readZoned? items cs = some i) :
    ∃ p, scan? items cs = some p ∧ p.Tells i.nanos := by
  obtain ⟨p, scanned, found⟩ := Option.bind_eq_some_iff.1 found
  exact ⟨p, scanned, (Parts.fine_scan? scanned).tells_instant? found⟩

theorem tells_readNaive? (found : readNaive? items cs = some i) :
    ∃ p, scan? items cs = some p ∧ p.Tells i.nanos := by
  obtain ⟨p, scanned, found⟩ := Option.bind_eq_some_iff.1 found
  obtain ⟨⟨d, c⟩, local', found⟩ := Option.bind_eq_some_iff.1 found
  cases found
  exact ⟨p, scanned, (Parts.fine_scan? scanned).tells_local? local'⟩

theorem tells_readClock? (found : readClock? items cs = some i) :
    ∃ p, scan? items cs = some p ∧ p.Tells i.nanos := by
  obtain ⟨p, scanned, found⟩ := Option.bind_eq_some_iff.1 found
  refine ⟨p, scanned, ?_⟩
  split at found
  case h_1 clock =>
    cases found
    exact (Parts.fine_scan? scanned).tells_clock clock
  case h_2 => cases found

theorem nanos_readDate? (found : readDate? items cs = some i) : i.nanos = 0 := by
  obtain ⟨p, scanned, found⟩ := Option.bind_eq_some_iff.1 found
  split at found <;> cases found
  rfl

/-- The parts from which a layout takes the time of day of a text. -/
def timeParts? (layout : Layout) (input : String) : Option Parts :=
  let cs := input.toList
  match layout with
  | .rfc3339 => Rfc3339.scan? cs
  | .zoned p | .naive p | .timeOnly p => scan? (pattern p) cs
  | .abbreviated p => (Text.splitLast? ' ' cs).bind fun (head, _) => scan? (pattern p) head
  | .yearless p => scan? (pattern ("%Y " ++ p)) ("0000 ".toList ++ cs)
  | .dateOnly _ => none
  | .literal p =>
    let items := pattern p
    -- A text that only has a date counts as midnight, whatever else the pattern finds in it.
    if (readZoned? items cs <|> readNaive? items cs).isSome then scan? items cs else none

/-- A text in which a layout finds a second 60. -/
def FindsLeapSecond (layout : Layout) (input : String) : Prop :=
  ∃ p, layout.timeParts? input = some p ∧ p.second = some 60

/-- A layout takes the nanoseconds from the parts, or it has none to take them from. -/
theorem tells_parse? (found : layout.parse? input = some i) :
    (∃ p, layout.timeParts? input = some p ∧ p.Tells i.nanos) ∨
      (layout.timeParts? input = none ∧ i.nanos = 0) := by
  cases layout with
  | rfc3339 =>
    obtain ⟨p, scanned, found⟩ := Option.bind_eq_some_iff.1 found
    exact .inl ⟨p, scanned, (Rfc3339.fine_scan? scanned).tells_instant? found⟩
  | zoned pattern => exact .inl (tells_readZoned? found)
  | naive pattern => exact .inl (tells_readNaive? found)
  | yearless pattern => exact .inl (tells_readNaive? found)
  | timeOnly pattern => exact .inl (tells_readClock? found)
  | dateOnly pattern => exact .inr ⟨rfl, nanos_readDate? found⟩
  | abbreviated pattern =>
    obtain ⟨⟨head, zone⟩, cut, found⟩ := Option.bind_eq_some_iff.1 found
    dsimp only at found
    split at found
    case isTrue =>
      obtain ⟨p, scanned, tells⟩ := tells_readNaive? found
      exact .inl ⟨p, by rw [timeParts?, cut]; exact scanned, tells⟩
    case isFalse => cases found
  | literal name =>
    rw [parse?] at found
    rw [timeParts?]
    cases zoned : readZoned? (pattern name) input.toList with
    | some j =>
      rw [zoned] at found
      cases found
      exact .inl (tells_readZoned? zoned)
    | none =>
      cases naive : readNaive? (pattern name) input.toList with
      | some j =>
        rw [zoned, naive] at found
        cases found
        exact .inl (tells_readNaive? naive)
      | none =>
        rw [zoned, naive] at found
        exact .inr ⟨rfl, nanos_readDate? found⟩

/-- Only a second 60 has a second of nanoseconds or more. -/
theorem nanos_parse? (found : layout.parse? input = some i) :
    i.nanos < 2000000000 ∧ (1000000000 ≤ i.nanos ↔ layout.FindsLeapSecond input) := by
  rcases tells_parse? found with ⟨p, parts, below, tells⟩ | ⟨parts, midnight⟩
  · refine ⟨below, tells.trans ⟨fun leap => ⟨p, parts, leap⟩, ?_⟩⟩
    rintro ⟨q, same, leap⟩
    obtain rfl : p = q := Option.some.inj (parts.symm.trans same)
    exact leap
  · refine ⟨by omega, fun reaches => by omega, ?_⟩
    rintro ⟨q, same, -⟩
    exact absurd (parts.symm.trans same) nofun

end Layout

end Time

/-! ## Timestamps -/

namespace Codec

open Time

theorem firstLayout?_eq_some {formats : List String} {input : String} {i : Instant}
    (found : firstLayout? formats input = some i) :
    ∃ before name after, formats = before ++ name :: after ∧
      (∀ other ∈ before, (Layout.resolve other).parse? input = none) ∧
      (Layout.resolve name).parse? input = some i := by
  obtain ⟨before, name, after, rfl, fits, refuse⟩ := List.findSome?_eq_some_iff.1 found
  exact ⟨before, name, after, rfl, refuse, fits⟩

/-- The first layout that a text fits gives its timestamp. The nanoseconds of that are never
negative and less than two seconds, and they are less than a second exactly if the layout finds no
second 60. -/
theorem nanos_decode_timestamp {formats : List String} {input : String} {t : Timestamp}
    (read : (timestamp formats).decode input = .ok t) :
    ∃ before name after i, formats = before ++ name :: after ∧
      (∀ other ∈ before, (Layout.resolve other).parse? input = none) ∧
      (Layout.resolve name).parse? input = some i ∧ t = .ofInstant i ∧
      0 ≤ t.nanos.toInt ∧ t.nanos.toInt < 2000000000 ∧
      (t.nanos.toInt ≤ 999999999 ↔ ¬ (Layout.resolve name).FindsLeapSecond input) := by
  dsimp only [timestamp] at read
  split at read
  case h_2 => cases read
  case h_1 i found =>
    cases read
    obtain ⟨before, name, after, rfl, refuse, fits⟩ := firstLayout?_eq_some found
    obtain ⟨below, reaches⟩ := Layout.nanos_parse? fits
    have stored : (Timestamp.ofInstant i).nanos.toInt = (i.nanos : Int) := by
      rw [Timestamp.ofInstant, ← Int32.ofInt_eq_ofNat]
      exact Int32.toInt_ofInt_of_le (by omega) (by omega)
    refine ⟨before, name, after, i, rfl, refuse, fits, rfl, ?_, ?_, ?_⟩
    · omega
    · omega
    · rw [← reaches]
      omega

/-- The end of a leap second, behind a layout that refuses it. -/
theorem nanos_decode_timestamp_leap :
    (timestamp ["DateOnly", "RFC3339"]).decode "2016-12-31T23:59:60.999999999Z" =
        .ok ⟨1483228799, 1999999999⟩ ∧
      ∃ before name after i, ["DateOnly", "RFC3339"] = before ++ name :: after ∧
        (∀ other ∈ before,
          (Layout.resolve other).parse? "2016-12-31T23:59:60.999999999Z" = none) ∧
        (Layout.resolve name).parse? "2016-12-31T23:59:60.999999999Z" = some i ∧
        ⟨1483228799, 1999999999⟩ = Timestamp.ofInstant i ∧
        0 ≤ Int32.toInt 1999999999 ∧ Int32.toInt 1999999999 < 2000000000 ∧
        (Int32.toInt 1999999999 ≤ 999999999 ↔
          ¬ (Layout.resolve name).FindsLeapSecond "2016-12-31T23:59:60.999999999Z") :=
  have read : (timestamp ["DateOnly", "RFC3339"]).decode "2016-12-31T23:59:60.999999999Z" =
      .ok ⟨1483228799, 1999999999⟩ := rfl
  ⟨read, nanos_decode_timestamp read⟩

/-- A leap second has a billion nanoseconds. -/
theorem not_nanos_decode_timestamp_lt :
    ¬ ∀ (formats : List String), formats ≠ [] → ∀ input t,
      (timestamp formats).decode input = .ok t → 0 ≤ t.nanos.toInt ∧ t.nanos.toInt ≤ 999999999 := by
  intro bounded
  have read : (timestamp ["RFC3339"]).decode "2016-12-31T23:59:60Z" =
      .ok ⟨1483228799, 1000000000⟩ := rfl
  exact absurd (bounded ["RFC3339"] nofun _ _ read).2 (by decide)

end Codec

end FlagBinding
