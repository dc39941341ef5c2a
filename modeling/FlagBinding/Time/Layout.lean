import FlagBinding.Time.Rfc3339

/-!
# Layouts of timestamps

A layout says how a text gives an instant. Some layouts have names; any other name is a pattern.

## Main definitions

* `Layout`: a way to read a timestamp.
* `Layout.resolve`: the layout of a name.
* `Layout.parse?`: the instant of a text.
-/

namespace FlagBinding.Time

/-- A way to read a timestamp. -/
inductive Layout
  /-- RFC 3339, with or without a fraction of a second. -/
  | rfc3339
  /-- A date and time with an offset. -/
  | zoned (pattern : String)
  /-- A date and time, a space and an abbreviation for a zone, which counts as universal time. -/
  | abbreviated (pattern : String)
  /-- A date and time, read as universal time. -/
  | naive (pattern : String)
  /-- A date and time in the year zero. -/
  | yearless (pattern : String)
  /-- A date, at midnight. -/
  | dateOnly (pattern : String)
  /-- A time on the first day of the year zero. -/
  | timeOnly (pattern : String)
  /-- A pattern for an instant, a date and time, or a date. -/
  | literal (pattern : String)
  deriving DecidableEq, Repr

namespace Layout

/-- The layout of a name. -/
def resolve (name : String) : Layout :=
  match name with
  | "RFC3339" => .rfc3339
  | "RFC3339Nano" => .rfc3339
  | "RFC822" => .abbreviated "%d %b %y %H:%M"
  | "RFC822Z" => .zoned "%d %b %y %H:%M %z"
  | "RFC850" => .abbreviated "%A, %d-%b-%y %H:%M:%S"
  | "RFC1123" => .abbreviated "%a, %d %b %Y %H:%M:%S"
  | "RFC1123Z" => .zoned "%a, %d %b %Y %H:%M:%S %z"
  | "ISO8601" => .zoned "%Y-%m-%dT%H:%M:%S%z"
  | "ISO8601Time" => .zoned "%Y-%m-%dT%H:%M:%S%.f%z"
  | "Kitchen" => .timeOnly "%I:%M%p"
  | "Stamp" => .yearless "%b %e %H:%M:%S%.f"
  | "StampMilli" => .yearless "%b %e %H:%M:%S%.f"
  | "StampMicro" => .yearless "%b %e %H:%M:%S%.f"
  | "StampNano" => .yearless "%b %e %H:%M:%S%.f"
  | "DateTime" => .naive "%Y-%m-%d %H:%M:%S"
  | "DateOnly" => .dateOnly "%Y-%m-%d"
  | "TimeOnly" => .timeOnly "%H:%M:%S"
  | other => .literal other

def readZoned? (items : List PatternItem) (cs : List Char) : Option Instant :=
  (scan? items cs).bind Parts.instant?

def readNaive? (items : List PatternItem) (cs : List Char) : Option Instant := do
  let p ← scan? items cs
  let (d, c) ← p.local? 0
  return Instant.ofDateClock d c

/-- The midnight of a date. -/
def readDate? (items : List PatternItem) (cs : List Char) : Option Instant := do
  let p ← scan? items cs
  match p.date with
  | .ok d => some (Instant.ofDate d)
  | .error _ => none

/-- The instant of a time of day on the first day of the year zero. -/
def readClock? (items : List PatternItem) (cs : List Char) : Option Instant := do
  let p ← scan? items cs
  match p.clock with
  | .ok c => some (Instant.ofDateClock ⟨0, 1, 1⟩ c)
  | .error _ => none

def greatestZoneWidth : Nat := 5

def isZone (zone : List Char) : Bool :=
  !zone.isEmpty && zone.length ≤ greatestZoneWidth && zone.all Char.isAlpha

/-- The instant of a text under a layout. -/
def parse? (layout : Layout) (input : String) : Option Instant :=
  let cs := input.toList
  match layout with
  | .rfc3339 => Rfc3339.parse? input
  | .zoned p => readZoned? (pattern p) cs
  | .abbreviated p => do
    let (head, zone) ← Text.splitLast? ' ' cs
    if isZone zone then readNaive? (pattern p) head else none
  | .naive p => readNaive? (pattern p) cs
  | .yearless p => readNaive? (pattern ("%Y " ++ p)) ("0000 ".toList ++ cs)
  | .dateOnly p => readDate? (pattern p) cs
  | .timeOnly p => readClock? (pattern p) cs
  | .literal p =>
    let items := pattern p
    readZoned? items cs <|> readNaive? items cs <|> readDate? items cs

end Layout

end FlagBinding.Time
