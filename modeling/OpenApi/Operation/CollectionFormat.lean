import OpenApi.Document.Basic

set_option autoImplicit false

/-! # Where parameters travel, and how lists of values are written there -/

namespace OpenApi

/-- Where a parameter of an operation travels. -/
inductive Location where
  | declared (place : Place)
  | body
  deriving DecidableEq, Repr, Inhabited

namespace Location

/-- The name of a location. -/
def name : Location → String
  | .declared place => place.name
  | .body => "body"

/-- The location of a name. -/
def ofName? (s : String) : Option Location :=
  if s = "body" then some .body else (Place.ofName? s).map .declared

end Location

/-- How a list of values is written in a query or a header. -/
inductive CollectionFormat where
  /-- Separated by commas. -/
  | csv
  /-- Separated by spaces. -/
  | ssv
  /-- Separated by vertical bars. -/
  | pipes
  /-- As one parameter for each value. -/
  | multi
  deriving DecidableEq, Repr, Inhabited

namespace CollectionFormat

/-- The name of a format. -/
def name : CollectionFormat → String
  | .csv => "csv"
  | .ssv => "ssv"
  | .pipes => "pipes"
  | .multi => "multi"

/-- The style of a location for which none is declared. -/
def defaultStyle : Location → String
  | .declared .query | .declared .cookie => "form"
  | _ => "simple"

/-- The format of a style; the style `form` explodes unless it is told not to. -/
def ofStyle? (style : String) (explode : Option Bool) : Option CollectionFormat :=
  match style with
  | "form" => some (if explode.getD true then .multi else .csv)
  | "simple" => some .csv
  | "spaceDelimited" => some .ssv
  | "pipeDelimited" => some .pipes
  | _ => none

/-- The format for a location with a declared style. -/
def ofLocation? (location : Location) (style : Option String) (explode : Option Bool) :
    Option CollectionFormat :=
  ofStyle? (style.getD (defaultStyle location)) explode

end CollectionFormat

end OpenApi
