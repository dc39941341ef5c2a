import FlagBinding.Element.Codec
import FlagBinding.Time.Layout

/-!
# Codecs of durations and timestamps

## Main definitions

* `Timestamp`: seconds and nanoseconds from 1970-01-01T00:00:00Z.
* `Codec.duration`: durations as sums of components with units.
* `Codec.timestamp`: timestamps in any of a list of layouts; the first that fits counts.
-/

namespace FlagBinding

open Time

/-- A point in time, as it is stored. -/
structure Timestamp where
  seconds : Int64
  nanos : Int32
  deriving DecidableEq

/-- The stored form of an instant. -/
def Timestamp.ofInstant (i : Instant) : Timestamp :=
  ⟨Int64.ofInt i.seconds, Int32.ofNat i.nanos⟩

/-- The instant of a timestamp; negative nanoseconds count as none. -/
def Timestamp.instant (t : Timestamp) : Instant :=
  ⟨t.seconds.toInt, t.nanos.toInt.toNat⟩

/-- A number with a sign, if it is negative, and zeros in front up to nine places. -/
def ninePlaces (n : Int) : List Char :=
  if n < 0 then '-' :: Number.paddedDigits 8 n.natAbs else Number.paddedDigits 9 n.toNat

namespace Codec

/-- Durations. -/
def duration : Codec Duration where
  kind := "duration"
  decode input :=
    match Duration.parseTotal input with
    | .ok n => .ok (.ofTotal n)
    | .error fault => .error (.invalid "duration" input (.duration fault))
  encode d := Duration.formatTotal d.total
  zero := "0s"

/-- The instant of a text under the first layout that it fits. -/
def firstLayout? (formats : List String) (input : String) : Option Instant :=
  formats.findSome? fun name => (Layout.resolve name).parse? input

/-- Timestamps. They are written in RFC 3339, or as a bare count of seconds where that has no text
for them. -/
def timestamp (formats : List String) : Codec Timestamp where
  kind := "timestamp"
  decode input :=
    match firstLayout? formats input with
    | some i => .ok (.ofInstant i)
    | none => .error (.noLayout input formats)
  encode t :=
    (Rfc3339.format? t.instant).getD
      (Number.decimal t.seconds.toInt ++ "." ++ String.ofList (ninePlaces t.nanos.toInt) ++ "s")

end Codec

end FlagBinding
