import OpenApi.Json.Basic

set_option autoImplicit false

/-! # Reading numerals

A numeral is split into its sign, digits before and after the point, and power of ten
(`Numeral`); what counts as well formed is decided by the format that reads it. `Number.ofNumeral?`
gives the value under the rule of JSON: an integer within 64 bits is kept exactly, negative zero and
everything else is a double. -/

namespace OpenApi

/-- The number written by decimal digits, most significant first; other characters count as zero. -/
def digitsValue (ds : List Char) : Nat :=
  ds.foldl (fun n c => 10 * n + (if c.isDigit then c.toNat - '0'.toNat else 0)) 0

/-- The value of a hexadecimal digit. -/
def hexDigit? (c : Char) : Option Nat :=
  if c.isDigit then some (c.toNat - '0'.toNat)
  else if 'a' ≤ c ∧ c ≤ 'f' then some (c.toNat - 'a'.toNat + 10)
  else if 'A' ≤ c ∧ c ≤ 'F' then some (c.toNat - 'A'.toNat + 10)
  else none

/-- The parts of a decimal numeral. -/
structure Numeral where
  negative : Bool
  /-- The digits before the point. -/
  whole : List Char
  /-- The digits after the point, if there is a point. -/
  fraction : Option (List Char)
  /-- The power of ten, if one is written. -/
  power : Option Int

namespace Numeral

/-- The decimal value of a numeral. -/
def toDecimal (n : Numeral) : Decimal :=
  let fraction := n.fraction.getD []
  ⟨n.negative, digitsValue (n.whole ++ fraction), n.power.getD 0 - fraction.length⟩

/-- A power of ten after its letter: an optional sign and at least one digit, and nothing more. -/
def power? (cs : List Char) : Option Int :=
  let (negative, ds) := match cs with
    | '-' :: ds => (true, ds)
    | '+' :: ds => (false, ds)
    | ds => (false, ds)
  if ds ≠ [] ∧ ds.all Char.isDigit then
    let n : Int := digitsValue ds
    some (if negative then -n else n)
  else none

/-- Splits a text without sign into digits, an optional point with digits, and an optional power. -/
def split? (negative : Bool) (cs : List Char) : Option Numeral :=
  let (whole, rest) := cs.span Char.isDigit
  let (fraction, rest) := match rest with
    | '.' :: rest => let (ds, rest) := rest.span Char.isDigit; (some ds, rest)
    | rest => (none, rest)
  match rest with
  | [] => some ⟨negative, whole, fraction, none⟩
  | c :: rest =>
      if c = 'e' ∨ c = 'E' then
        (power? rest).map fun power => ⟨negative, whole, fraction, some power⟩
      else none

/-- Whether the numeral has neither a point nor a power of ten. -/
def isInteger (n : Numeral) : Bool := n.fraction.isNone && n.power.isNone

end Numeral

/-- The number that a numeral denotes, or `none` beyond the range of doubles. -/
def Number.ofNumeral? (n : Numeral) : Option Number :=
  let value : Int := digitsValue n.whole
  let value := if n.negative then -value else value
  if n.isInteger ∧ Number.fitsWord value ∧ ¬ (n.negative ∧ value = 0) then some (.int value)
  else (Double.ofDecimal n.toDecimal).map .double

end OpenApi
