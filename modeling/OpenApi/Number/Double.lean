set_option autoImplicit false

/-! # Finite doubles

A finite IEEE double is `± mantissa · 2 ^ exponent`, held in lowest range: the mantissa is below
`2 ^ 53`, and it is at least `2 ^ 52` unless the exponent is the least one, `-1074`. Infinities and
NaN are no values here; reading a decimal beyond the range answers `none`.

`Double.ofDecimal` rounds a decimal to the nearest double, a tie going to the even mantissa, and
`Double.shortest` finds the fewest decimal digits that read back. Both compute with exact naturals. -/

namespace OpenApi

/-- `± digits · 10 ^ exponent`. -/
structure Decimal where
  negative : Bool
  digits : Nat
  exponent : Int
  deriving DecidableEq, Repr, Inhabited

/-- `± mantissa · 2 ^ exponent`. -/
structure Double where
  negative : Bool
  mantissa : Nat
  exponent : Int
  deriving DecidableEq, Repr, Inhabited

namespace Double

/-- The least binary exponent of a double. -/
def leastExponent : Int := -1074

/-- The greatest binary exponent of a double whose mantissa has 53 bits. -/
def greatestExponent : Int := 971

/-- Zero with the given sign. -/
def zero (negative : Bool) : Double := ⟨negative, 0, leastExponent⟩

/-- The quotient rounded to the nearest natural, a half going to the even neighbour. -/
def roundHalfEven (num den : Nat) : Nat :=
  let q := num / den
  let r := 2 * (num % den)
  if r < den then q else if den < r then q + 1 else q + q % 2

/-- The fraction `num / den` divided by `2 ^ q`, as a fraction. -/
def scaleDown (num den : Nat) (q : Int) : Nat × Nat :=
  if 0 ≤ q then (num, den * Nat.pow 2 q.toNat) else (num * Nat.pow 2 (-q).toNat, den)

/-- The exponent of the greatest power of two that is at most `num / den`. -/
def floorLog2 (num den : Nat) : Int :=
  let b : Int := Nat.log2 num - Nat.log2 den
  let (n, d) := scaleDown num den b
  if d ≤ n then b else b - 1

/-- The double nearest to `± num / den`, or `none` when it would be infinite. -/
def ofRatio (negative : Bool) (num den : Nat) : Option Double :=
  if num = 0 then some (zero negative)
  else
    let q := max (floorLog2 num den - 52) leastExponent
    let (n, d) := scaleDown num den q
    let m := roundHalfEven n d
    -- rounding up may carry into a 54th bit
    let (m, q) := if m = Nat.pow 2 53 then (Nat.pow 2 52, q + 1) else (m, q)
    if greatestExponent < q then none else some ⟨negative, m, q⟩

/-- The number of decimal digits of `n`; zero has one. -/
def digitCount (n : Nat) : Nat := (Nat.toDigits 10 n).length

/-- The double nearest to a decimal, or `none` when it would be infinite. A decimal far outside the
    range is decided by its magnitude, without computing the power of ten. -/
def ofDecimal (d : Decimal) : Option Double :=
  if d.digits = 0 then some (zero d.negative)
  else
    let magnitude : Int := digitCount d.digits + d.exponent
    if 400 < magnitude then none
    else if magnitude < -400 then some (zero d.negative)
    else if 0 ≤ d.exponent then ofRatio d.negative (d.digits * Nat.pow 10 d.exponent.toNat) 1
    else ofRatio d.negative d.digits (Nat.pow 10 (-d.exponent).toNat)

/-! ## The fewest digits that read back -/

/-- The reals that round to a positive double, scaled by a common denominator: the double is
    `value / den`, the interval runs from `low / den` to `high / den`, and its ends belong to it
    exactly when the mantissa is even. -/
structure Interval where
  low : Nat
  value : Nat
  high : Nat
  den : Nat
  closed : Bool
  deriving Repr

/-- The interval of reals that round to `x`. Below a power of two the gap is half as wide. -/
def interval (x : Double) : Interval :=
  -- in quarters of the gap above `x`
  let below := if x.mantissa = Nat.pow 2 52 ∧ leastExponent < x.exponent then 1 else 2
  let q := x.exponent - 2
  let (up, den) := if 0 ≤ q then (Nat.pow 2 q.toNat, 1) else (1, Nat.pow 2 (-q).toNat)
  { low := (4 * x.mantissa - below) * up
    value := 4 * x.mantissa * up
    high := (4 * x.mantissa + 2) * up
    den := den
    closed := x.mantissa % 2 = 0 }

/-- Whether `n · 10 ^ k` rounds to the double of the interval. -/
def Interval.admits (i : Interval) (n : Nat) (k : Int) : Bool :=
  let (scaled, unit) :=
    if 0 ≤ k then (n * Nat.pow 10 k.toNat * i.den, 1) else (n * i.den, Nat.pow 10 (-k).toNat)
  if i.closed then i.low * unit ≤ scaled && scaled ≤ i.high * unit
  else i.low * unit < scaled && scaled < i.high * unit

/-- The greatest `n` with `n · 10 ^ k` at most the double, and whether the double lies past the
    middle between `n` and `n + 1`, or in the middle with `n` odd. -/
def Interval.floorAt (i : Interval) (k : Int) : Nat × Bool :=
  let (num, den) :=
    if 0 ≤ k then (i.value, i.den * Nat.pow 10 k.toNat)
    else (i.value * Nat.pow 10 (-k).toNat, i.den)
  let n := num / den
  (n, roundHalfEven num den ≠ n)

/-- The candidate on the decimal grid `10 ^ k`: of the double's two neighbours there, the nearer one
    that reads back. -/
def Interval.candidate? (i : Interval) (k : Int) : Option Nat :=
  let (n, nearUp) := i.floorAt k
  let near := if nearUp then n + 1 else n
  let far := if nearUp then n else n + 1
  if i.admits near k then some near else if i.admits far k then some far else none

/-- The least exponent of ten above the double: the place of its first decimal digit, counted from
    the point. -/
def Interval.pointPlace (i : Interval) : Int :=
  let estimate : Int := digitCount i.value - digitCount i.den
  let (num, den) :=
    if 0 ≤ estimate then (i.value, i.den * Nat.pow 10 estimate.toNat)
    else (i.value * Nat.pow 10 (-estimate).toNat, i.den)
  if den ≤ num then estimate + 1 else estimate

/-- Tries the grids with `count`, `count + 1`, … digits and answers the first candidate. -/
def Interval.search (i : Interval) (place : Int) : (grids count : Nat) → Nat × Int
  | 0, count => ((i.floorAt (place - count)).1, place - count)
  | grids + 1, count =>
      match i.candidate? (place - count) with
      | some n => (n, place - count)
      | none => i.search place grids (count + 1)

/-- The shortest decimal that reads back as a positive double, as digits and exponent of ten; of two
    with the same number of digits the nearer one. Seventeen digits are always enough. -/
def shortest (x : Double) : Nat × Int :=
  let i := x.interval
  i.search i.pointPlace 17 1

/-! ## Layout -/

/-- How a double is written: the exponents for which its digits are written around a point rather
    than with a power of ten, and whether a positive power carries its sign. -/
structure Layout where
  /-- Numbers below `10 ^ (1 + leastPlace)` are written with a power of ten. -/
  leastPlace : Int
  /-- Numbers from `10 ^ greatestPlace` on are written with a power of ten. -/
  greatestPlace : Int
  /-- Whether a positive power of ten is written with `+`. -/
  plusSign : Bool

private def zeros (n : Nat) : String := String.ofList (List.replicate n '0')

/-- The digits `ds` with the decimal point after `place` of them. -/
def Layout.write (layout : Layout) (ds : List Char) (place : Int) : String :=
  let n : Int := ds.length
  if n ≤ place ∧ place ≤ layout.greatestPlace then
    String.ofList ds ++ zeros (place - n).toNat ++ ".0"
  else if 0 < place ∧ place ≤ layout.greatestPlace then
    String.ofList (ds.take place.toNat) ++ "." ++ String.ofList (ds.drop place.toNat)
  else if layout.leastPlace < place ∧ place ≤ 0 then
    "0." ++ zeros (-place).toNat ++ String.ofList ds
  else
    let power := place - 1
    let head := String.ofList (ds.take 1)
    let tail := if ds.length ≤ 1 then "" else "." ++ String.ofList (ds.drop 1)
    let sign := if power < 0 then "-" else if layout.plusSign then "+" else ""
    head ++ tail ++ "e" ++ sign ++ toString power.natAbs

/-- Drops the zeros at the end of `n`, each raising the exponent of ten by one. -/
def trimZeros (n : Nat) (k : Int) : Nat × Int :=
  if h : n ≠ 0 ∧ n % 10 = 0 then trimZeros (n / 10) (k + 1) else (n, k)
termination_by n
decreasing_by omega

/-- The text of a double: its shortest decimal in the given layout. -/
def toText (layout : Layout) (x : Double) : String :=
  let sign := if x.negative then "-" else ""
  if x.mantissa = 0 then sign ++ "0.0"
  else
    let (n, k) := x.shortest
    let (n, k) := trimZeros n k
    let ds := Nat.toDigits 10 n
    sign ++ layout.write ds (ds.length + k)

end Double

end OpenApi
