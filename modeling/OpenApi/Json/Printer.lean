import OpenApi.Json.Basic

set_option autoImplicit false

/-! # JSON text

Values are written either compactly (`Json.compact`) or over several lines with two spaces per level
(`Json.pretty`). A string escapes the quote, the backslash and the control characters below the
space; every other character stands for itself. -/

namespace OpenApi

namespace Json

/-- Doubles are written around a point from `1e-5` to below `1e16`, and otherwise with a signed power
    of ten. -/
def doubleLayout : Double.Layout := { leastPlace := -5, greatestPlace := 16, plusSign := true }

end Json

/-- The text of a number. -/
def Number.toText : Number → String
  | .int n => toString n
  | .double x => x.toText Json.doubleLayout

namespace Json

/-- The hexadecimal digits of `n`, at least `width` of them. -/
def hexDigits (width n : Nat) : List Char :=
  let ds := Nat.toDigits 16 n
  List.replicate (width - ds.length) '0' ++ ds

/-- How a character is written inside a string. -/
def escapeChar (c : Char) : List Char :=
  if c = '"' then ['\\', '"']
  else if c = '\\' then ['\\', '\\']
  else if c = '\x08' then ['\\', 'b']
  else if c = '\x0c' then ['\\', 'f']
  else if c = '\n' then ['\\', 'n']
  else if c = '\r' then ['\\', 'r']
  else if c = '\t' then ['\\', 't']
  else if c.toNat < 0x20 then '\\' :: 'u' :: hexDigits 4 c.toNat
  else [c]

/-- A string in quotes. -/
def quote (s : String) : String := "\"" ++ String.ofList (s.toList.flatMap escapeChar) ++ "\""

/-! ## Compact text -/

mutual

/-- The text of a value without any blank. -/
def compact : Json → String
  | null => "null"
  | bool true => "true"
  | bool false => "false"
  | number n => n.toText
  | string s => quote s
  | array xs => "[" ++ ",".intercalate (compactItems xs) ++ "]"
  | object es => "\x7b" ++ ",".intercalate (compactEntries es) ++ "\x7d"

/-- The texts of the items. -/
def compactItems : List Json → List String
  | [] => []
  | x :: xs => compact x :: compactItems xs

/-- The texts of the entries. -/
def compactEntries : List (String × Json) → List String
  | [] => []
  | (k, x) :: es => (quote k ++ ":" ++ compact x) :: compactEntries es

end

/-! ## Indented text -/

/-- The start of a line at the given level. -/
def lineStart (level : Nat) : String := "\n" ++ String.ofList (List.replicate (2 * level) ' ')

mutual

/-- The text of a value whose lines stand at the given level; empty containers stay on one line. -/
def prettyAt (level : Nat) : Json → String
  | array [] => "[]"
  | array (x :: xs) =>
      "[" ++ ",".intercalate (prettyItems (level + 1) (x :: xs)) ++ lineStart level ++ "]"
  | object [] => "\x7b\x7d"
  | object (e :: es) =>
      "\x7b" ++ ",".intercalate (prettyEntries (level + 1) (e :: es)) ++ lineStart level ++ "\x7d"
  | v => compact v

/-- The items, each on lines of its own. -/
def prettyItems (level : Nat) : List Json → List String
  | [] => []
  | x :: xs => (lineStart level ++ prettyAt level x) :: prettyItems level xs

/-- The entries, each on lines of its own. -/
def prettyEntries (level : Nat) : List (String × Json) → List String
  | [] => []
  | (k, x) :: es =>
      (lineStart level ++ quote k ++ ": " ++ prettyAt level x) :: prettyEntries level es

end

/-- The text of a value over several lines. -/
def pretty (v : Json) : String := prettyAt 0 v

end Json

end OpenApi
