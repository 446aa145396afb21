set_option autoImplicit false

/-! # Sets of code points

A property of characters is given by a table of ranges. Upper and lower case letters alternate in
many alphabets, so a `Run` may also take every second code point. -/

namespace OpenApi

namespace Text

/-- The code points `first`, `first + step`, … up to `last`. -/
structure Run where
  first : Nat
  last : Nat
  step : Nat
  deriving DecidableEq, Repr

/-- Whether a code point is in the run. -/
def Run.has (r : Run) (code : Nat) : Bool :=
  r.first ≤ code && code ≤ r.last && (code - r.first) % r.step = 0

/-- Whether a code point is in one of the runs. -/
def inRuns (runs : List Run) (code : Nat) : Bool := runs.any (·.has code)

/-- Whether a code point is in one of the ranges, ends included. -/
def inRanges (ranges : List (Nat × Nat)) (code : Nat) : Bool :=
  ranges.any fun r => r.1 ≤ code && code ≤ r.2

end Text

end OpenApi
