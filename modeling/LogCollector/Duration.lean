/-!
# Spans of time

A span is a number of nanoseconds; it never exceeds the longest span whose seconds fit 64
bits.
-/

namespace LogCollector

/-- A span of time, in nanoseconds. -/
structure Duration where
  /-- The nanoseconds. -/
  nanoseconds : Nat
  deriving DecidableEq

namespace Duration

/-- The longest span. -/
def longest : Duration := ⟨(UInt64.size - 1) * 1000000000 + 999999999⟩

/-- Some seconds. -/
def ofSeconds (n : Nat) : Duration := ⟨n * 1000000000⟩

/-- Some thousandths of a second. -/
def ofMilliseconds (n : Nat) : Duration := ⟨n * 1000000⟩

/-- The span `factor` times, or the longest one if that is shorter. -/
def times (d : Duration) (factor : Nat) : Duration :=
  ⟨min (d.nanoseconds * factor) longest.nanoseconds⟩

end Duration

end LogCollector
