import FlagBinding.Time.Scan

/-!
# From parts to a date and time

The parts of a date and time that a text gives are put together if they are enough, are in range and
do not contradict each other.

## Main definitions

* `Parts.date`, `Parts.clock`: the date and the time of day of the parts.
* `Parts.local`, `Parts.instant`: date and time without and with an offset.
-/

namespace FlagBinding.Time

/-- Why parts give no date or time. -/
inductive PartsFault
  | notEnough
  | impossible
  | outOfRange
  deriving DecidableEq, Repr

namespace Parts

/-- The year of a year, a century and a year in it, any of which may be missing. Without a century,
a year below 70 is of this one and the others of the last one. -/
def resolveYear (year century yearOfCentury : Option Int) : Except PartsFault (Option Int) :=
  match year, century, yearOfCentury with
  | y, none, none => .ok y
  | some y, q, r =>
    if y < 0 then .error .impossible
    else if q.getD (y / 100) = y / 100 ∧ r.getD (y % 100) = y % 100 then .ok (some y)
    else .error .impossible
  | none, some q, some r =>
    if greatest32 < q * 100 + r then .error .outOfRange else .ok (some (q * 100 + r))
  | none, none, some r => .ok (some (r + if r < 70 then 2000 else 1900))
  | none, some _, none => .error .notEnough

/-- Whether a part, if it is there, has a value. -/
def isOr (part : Option Int) (v : Int) : Bool :=
  part.getD v == v

/-- Whether a century or a year in it, if it is there, belongs to a year. -/
def centuryFits (part : Option Int) (year v : Int) : Bool :=
  match part with
  | none => true
  | some u => 0 ≤ year && u == v

def civilFits (p : Parts) (d : Date) : Bool :=
  isOr p.year d.year && centuryFits p.century d.year (d.year / 100) &&
    centuryFits p.yearOfCentury d.year (d.year % 100) && isOr p.month d.month && isOr p.day d.day

/-- Whether a date has the ISO year and week and the weekday of the parts. -/
def isoFits (p : Parts) (d : Date) : Bool :=
  let (year, week) := d.isoWeek
  isOr p.isoYear year && centuryFits p.isoCentury year (year / 100) &&
    centuryFits p.isoYearOfCentury year (year % 100) && isOr p.isoWeek week &&
    isOr p.weekday d.weekday

def ordinalFits (p : Parts) (d : Date) : Bool :=
  isOr p.ordinal d.ordinal && isOr p.weekFromSunday (d.weekFrom 6) &&
    isOr p.weekFromMonday (d.weekFrom 0)

/-- The date of a year, a week and a weekday, where weeks begin with the weekday `start`. -/
def dateOfWeek (year week weekday : Int) (start : Nat) : Except PartsFault Date :=
  match Date.ofOrdinal? year 1 with
  | none => .error .outOfRange
  | some first =>
    let firstWeek : Int := 1 + Date.daysSince start first.weekday
    let ordinal := firstWeek + (week - 1) * 7 + Date.daysSince weekday.toNat start
    if ordinal ≤ 0 then .error .impossible
    else match Date.ofOrdinal? year ordinal.toNat with
      | none => .error .impossible
      | some d => .ok d

/-- The date, or `outOfRange` if there is none. -/
def inRange (d : Option Date) : Except PartsFault Date :=
  match d with
  | some d => .ok d
  | none => .error .outOfRange

/-- The date that the first sufficient group of parts gives, and whether the others that have to be
compared agree with it. -/
def candidate (p : Parts) (year isoYear : Option Int) : Except PartsFault (Bool × Date) := do
  match year, isoYear with
  | some y, iso =>
    match p.month, p.day with
    | some m, some day =>
      let d ← inRange (Date.ofParts? y m.toNat day.toNat)
      return (p.isoFits d && p.ordinalFits d, d)
    | _, _ =>
      match p.ordinal with
      | some n =>
        let d ← inRange (Date.ofOrdinal? y n.toNat)
        return (p.civilFits d && p.isoFits d && p.ordinalFits d, d)
      | none =>
        match p.weekday, p.weekFromSunday, p.weekFromMonday with
        | some w, some week, _ =>
          let d ← dateOfWeek y week w 6
          return (p.civilFits d && p.isoFits d && p.ordinalFits d, d)
        | some w, none, some week =>
          let d ← dateOfWeek y week w 0
          return (p.civilFits d && p.isoFits d && p.ordinalFits d, d)
        | _, _, _ => ofIso iso
  | none, iso => ofIso iso
where
  /-- The date of an ISO year, week and weekday. -/
  ofIso (iso : Option Int) : Except PartsFault (Bool × Date) :=
    match iso, p.isoWeek, p.weekday with
    | some y, some week, some w => do
      let d ← inRange (Date.ofIsoWeek? y week.toNat w.toNat)
      return (p.civilFits d && p.ordinalFits d, d)
    | _, _, _ => .error .notEnough

def date (p : Parts) : Except PartsFault Date := do
  let year ← resolveYear p.year p.century p.yearOfCentury
  let isoYear ← resolveYear p.isoYear p.isoCentury p.isoYearOfCentury
  let (agrees, d) ← p.candidate year isoYear
  if agrees && isOr p.quarter ((d.month + 2) / 3 : Nat) then return d else .error .impossible

/-- The time of day of the parts. Seconds may be missing, but not if there are nanoseconds. -/
def clock (p : Parts) : Except PartsFault Clock :=
  match p.half, p.hourOfHalf, p.minute with
  | some half, some hour, some minute =>
    let (second, leap) := if p.second = some 60 then (59, 1000000000) else (p.second.getD 0, 0)
    match p.nanosecond, p.second with
    | some _, none => .error .notEnough
    | nanos, _ =>
      .ok ⟨(half * 12 + hour).toNat, minute.toNat, second.toNat, leap + (nanos.getD 0).toNat⟩
  | _, _, _ => .error .notEnough

/-- Whether a date or a time is wrong and not only incomplete. -/
def isWrong {α : Type} : Except PartsFault α → Bool
  | .error .notEnough => false
  | .error _ => true
  | .ok _ => false

/-- The date and time of parts with a count of seconds, which fills in what the other parts lack. -/
def ofTimestamp? (p : Parts) (timestamp offset : Int) : Option (Date × Clock) := do
  let seconds := timestamp + offset
  if (greatest64 : Int) < seconds then none
  let (d, c) ← Instant.dateClock? ⟨seconds, 0⟩
  let (p, d, c) ←
    if p.second = some 60 then
      if c.second = 59 then some (p, d, c)
      else if c.second = 0 then do
        let (d, c) ← Instant.dateClock? ⟨seconds - 1, 0⟩
        some (p, d, c)
      else none
    else do
      some (← p.set? .second c.second, d, c)
  let p ← p.set? .year d.year
  let p ← p.set? .ordinal d.ordinal
  let p ← p.set? .hour c.hour
  let p ← p.set? .minute c.minute
  match p.date, p.clock with
  | .ok d, .ok c => some (d, c)
  | _, _ => none

/-- The date and time of the parts, read as local to an offset. A count of seconds has to name the
same moment; a leap second may be counted as the second after it. -/
def local? (p : Parts) (offset : Int) : Option (Date × Clock) :=
  match p.date, p.clock with
  | .ok d, .ok c =>
    match p.timestamp with
    | none => some (d, c)
    | some given =>
      let counted := (Instant.ofDateClock d c).seconds - offset
      if given = counted ∨ (1000000000 ≤ c.nanos ∧ given = counted + 1) then some (d, c) else none
  | date, clock =>
    match p.timestamp with
    | none => none
    | some timestamp =>
      if isWrong date || isWrong clock then none else p.ofTimestamp? timestamp offset

/-- The instant that a date and a time of day at an offset name, if its date is in range. -/
def atOffset? (offset : Int) (dc : Date × Clock) : Option Instant :=
  let i := Instant.ofDateClock dc.1 dc.2
  let i : Instant := ⟨i.seconds - offset, i.nanos⟩
  (Date.ofDayNumber? (i.seconds / secondsPerDay)).map fun _ => i

/-- The instant of parts with an offset of less than a day or with a count of seconds. -/
def instant? (p : Parts) : Option Instant :=
  match p.offset, p.timestamp with
  | none, none => none
  | offset, _ =>
    let offset := offset.getD 0
    (p.local? offset).bind fun dc =>
      if -86400 < offset ∧ offset < 86400 then atOffset? offset dc else none

end Parts

end FlagBinding.Time
