import OpenApi.Number.Reading
import OpenApi.Yaml.Error
import OpenApi.Yaml.Token

set_option autoImplicit false

/-! # What scalars stand for

A scalar without quotes and without a tag may stand for null, a boolean, an integer or a float; any other
text stands for itself. `Scalar.plain` decides it, and `Scalar.meaning` heeds the tag and the style too. -/

namespace OpenApi

namespace Yaml

/-- What a scalar stands for. -/
inductive Meaning where
  | null
  | bool (b : Bool)
  /-- An integer of at most 128 bits. -/
  | integer (n : Int)
  | float (x : Double)
  | infinite (negative : Bool)
  | notANumber
  | text (s : String)
  deriving DecidableEq, Repr

namespace Scalar

/-- Whether a text stands for null. -/
def isNull (s : String) : Bool := ["null", "Null", "NULL", "~"].contains s

/-- The boolean of a text. -/
def bool? (s : String) : Option Bool :=
  if ["true", "True", "TRUE"].contains s then some true
  else if ["false", "False", "FALSE"].contains s then some false
  else none

/-! ## Integers -/

/-- The number written by digits of a base, of which there is at least one. -/
def digits? (base : Nat) (cs : List Char) : Option Nat :=
  if cs = [] then none
  else cs.foldlM (fun n c => (hexDigit? c).bind fun d =>
    if d < base then some (base * n + d) else none) 0

/-- A text without its sign, if it has one. -/
def unsigned : List Char → List Char
  | '+' :: cs => cs
  | '-' :: cs => cs
  | cs => cs

/-- Whether a text consists of digits with a zero in front: it is a text, not a number. -/
def hasLeadingZero (cs : List Char) : Bool :=
  match unsigned cs with
  | '0' :: d :: ds => d.isDigit && ds.all Char.isDigit
  | _ => false

/-- The number of a text without sign, in the base that it names. -/
def magnitude? : List Char → Option Nat
  | '0' :: 'x' :: cs => digits? 16 cs
  | '0' :: 'o' :: cs => digits? 8 cs
  | '0' :: 'b' :: cs => digits? 2 cs
  | cs => if hasLeadingZero cs then none else if cs.all Char.isDigit then digits? 10 cs else none

/-- The integer of a text. -/
def integer? : List Char → Option Int
  | '-' :: cs => (magnitude? cs).map fun n => -(n : Int)
  | '+' :: cs => (magnitude? cs).map fun n => (n : Int)
  | cs => (magnitude? cs).map fun n => (n : Int)

/-- Whether an integer fits a signed or an unsigned word of 128 bits. -/
def fitsDoubleWord (n : Int) : Bool := -(Nat.pow 2 127 : Int) ≤ n && n < Nat.pow 2 128

/-- The integer that a text stands for, if it is one of at most 128 bits. -/
def integerOf? (s : String) : Option Int := (integer? s.toList).filter fitsDoubleWord

/-! ## Floats -/

/-- The finite float of a text without a leading plus. -/
def finite? (cs : List Char) : Option Meaning :=
  let n := match cs with
    | '-' :: cs => Numeral.split? true cs
    | cs => Numeral.split? false cs
  match n with
  | none => none
  | some n =>
      if n.whole = [] ∧ n.fraction.getD [] = [] then none
      else (Double.ofDecimal n.toDecimal).map .float

/-- The float of a text. -/
def float? (s : String) : Option Meaning :=
  if [".inf", ".Inf", ".INF", "+.inf", "+.Inf", "+.INF"].contains s then some (.infinite false)
  else if ["-.inf", "-.Inf", "-.INF"].contains s then some (.infinite true)
  else if [".nan", ".NaN", ".NAN"].contains s then some .notANumber
  else match s.toList with
    | '+' :: '-' :: _ => none
    | '+' :: cs => finite? cs
    | cs => finite? cs

/-! ## Decisions -/

/-- What a plain scalar stands for. -/
def plain (s : String) : Meaning :=
  if s = "" || isNull s then .null
  else match bool? s, integerOf? s with
    | some b, _ => .bool b
    | none, some n => .integer n
    | none, none => if hasLeadingZero s.toList then .text s else (float? s).getD (.text s)

/-- What a scalar stands for whose tag says nothing about it. -/
def untagged (style : Style) (s : String) : Meaning := if style = .plain then plain s else .text s

/-- The meaning, if there is one; else the text is none of the expected kind. -/
def expecting (expected s : String) : Option Meaning → Except Misfit Meaning
  | some m => .ok m
  | none => .error (.wrongText s expected)

/-- What a scalar stands for. A local tag has its meaning somewhere else, and says nothing about it. -/
def meaning (tag : Option Tag) (style : Style) (s : String) : Except Misfit Meaning :=
  match tag with
  | none => .ok (untagged style s)
  | some tag =>
      if tag = .bool then expecting "a boolean" s ((bool? s).map .bool)
      else if tag = .int then expecting "an integer" s ((integerOf? s).map .integer)
      else if tag = .float then expecting "a float" s (float? s)
      else if tag = .null then expecting "null" s (if isNull s then some .null else none)
      else if tag.isLocal then .ok (untagged style s)
      else .ok (.text s)

end Scalar

namespace Meaning

/-- The JSON value with the meaning. An integer of more than 64 bits has none, and a float that is not finite
    becomes null. -/
def toJson? : Meaning → Option Json
  | null | infinite _ | notANumber => some .null
  | bool b => some (.bool b)
  | integer n => if Number.fitsWord n then some (.number (.int n)) else none
  | float x => some (.number (.double x))
  | text s => some (.string s)

/-- Doubles in messages are written without a power of ten. -/
def doubleLayout : Double.Layout := { leastPlace := -400, greatestPlace := 400, plusSign := false }

/-- How a meaning is called in a message about its kind. -/
def describe : Meaning → String
  | null => "unit value"
  | bool b => "boolean `" ++ toString b ++ "`"
  | integer n =>
      "integer `" ++ toString n ++ "`"
        ++ if Number.fitsWord n then "" else if n < 0 then " as i128" else " as u128"
  | float x => "floating point `" ++ x.toText doubleLayout ++ "`"
  | infinite negative => "floating point `" ++ (if negative then "-inf`" else "inf`")
  | notANumber => "floating point `NaN`"
  | text s => "string " ++ Text.quoted s

end Meaning

end Yaml

end OpenApi
