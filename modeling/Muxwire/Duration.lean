import Muxwire.Power

/-!
# Durations

Spans of time in whole nanoseconds, and their text: the largest unit of `s`, `ms`, `µs` and `ns` in
which the integer part is not zero, with the exact decimal fraction and no trailing zeros.
-/

namespace Muxwire

/-- A span of time. -/
structure Duration where
  nanoseconds : Nat
  deriving DecidableEq, Repr, Inhabited

namespace Duration

/-- A duration of seconds and nanoseconds. -/
def ofParts (seconds nanoseconds : Nat) : Duration :=
  ⟨seconds * 1000000000 + nanoseconds⟩

/-- A duration of whole seconds. -/
def ofSeconds (seconds : Nat) : Duration :=
  ofParts seconds 0

/-- The whole seconds. -/
def seconds (d : Duration) : Nat :=
  d.nanoseconds / 1000000000

/-- The nanoseconds beyond the whole seconds. -/
def subsecond (d : Duration) : Nat :=
  d.nanoseconds % 1000000000

/-- Whether the duration is empty. -/
def isZero (d : Duration) : Bool :=
  d.nanoseconds == 0

theorem ofParts_seconds_subsecond (d : Duration) : ofParts d.seconds d.subsecond = d := by
  cases d with
  | mk n =>
    simp only [ofParts, seconds, subsecond, mk.injEq]
    omega

/-! ## Text -/

/-- A fraction of `places` decimal digits, with its point; empty if it is zero. -/
def fraction (places n : Nat) : String :=
  if n = 0 then ""
  else
    let ds := Nat.toDigits 10 n
    let padded := List.replicate (places - ds.length) '0' ++ ds
    String.ofList ('.' :: (padded.reverse.dropWhile (· == '0')).reverse)

/-- A number of nanoseconds in a unit of `10 ^ places` nanoseconds. -/
def inUnit (places : Nat) (unit : String) (n : Nat) : String :=
  toString (n / 10 ^ places) ++ fraction places (n % 10 ^ places) ++ unit

/-- The text of a duration. -/
def text (d : Duration) : String :=
  let n := d.nanoseconds
  if 10 ^ 9 ≤ n then inUnit 9 "s" n
  else if 10 ^ 6 ≤ n then inUnit 6 "ms" n
  else if 10 ^ 3 ≤ n then inUnit 3 "µs" n
  else inUnit 0 "ns" n

end Duration

end Muxwire
