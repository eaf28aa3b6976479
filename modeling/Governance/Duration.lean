import Governance.Json.Decoder

/-!
# Durations

A duration is a number of seconds and a number of nanoseconds below one second. It is read from a record that
may give more nanoseconds than that; they are carried over to the seconds, which have to fit 64 bits.
-/

namespace Governance

open Json

/-- A duration. -/
structure Duration where
  secs : UInt64
  nanos : UInt32
  deriving DecidableEq, Repr, Inhabited

namespace Duration

/-- How many nanoseconds a second has. -/
def nanosPerSec : Nat := 1000000000

/-- A number of seconds. -/
def ofSecs (secs : UInt64) : Duration :=
  ⟨secs, 0⟩

/-- A number of milliseconds. -/
def ofMillis (millis : UInt64) : Duration :=
  ⟨millis / 1000, (millis % 1000).toUInt32 * 1000000⟩

/-- Seconds and nanoseconds, if the seconds fit 64 bits after the carry. -/
def ofParts? (secs nanos : Nat) : Option Duration :=
  let total := secs + nanos / nanosPerSec
  if total < UInt64.size then some ⟨UInt64.ofNat total, UInt32.ofNat (nanos % nanosPerSec)⟩ else none

/-- The document of a duration. -/
def toDocument (d : Duration) : Document :=
  .record [("secs", .nat d.secs.toNat), ("nanos", .nat d.nanos.toNat)]

/-- Reads a duration. Unlike other records it may have no unknown members. -/
def ofDocument? : Decoder Duration := fun depth d => do
  let r ← Decoder.closedRecord ["secs", "nanos"] depth d
  let secs ← r.required "secs" (Decoder.natBelow UInt64.size)
  let nanos ← r.required "nanos" (Decoder.natBelow UInt32.size)
  ofParts? secs nanos

end Duration

end Governance
