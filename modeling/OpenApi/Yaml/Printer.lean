import OpenApi.Json.Printer
import OpenApi.Yaml.Resolution
import OpenApi.Yaml.Text

set_option autoImplicit false

/-! # Writing YAML

`Json.yaml` writes a value as a YAML text of blocks. A string is written plainly where that reads back as
the same string; else in single quotes, as a literal block if it has several lines, or in double quotes
if nothing else can hold it. Sequences are not indented under their key. -/

namespace OpenApi

namespace Yaml

/-! ## Styles of strings -/

/-- Doubles are written positionally between these powers of ten, and else with a power without a plus. -/
def doubleLayout : Double.Layout := { leastPlace := -5, greatestPlace := 16, plusSign := false }

/-- Whether a text could be taken for something else without quotes. Digits with a zero in front are read as
    themselves, but look like a number. -/
def isAmbiguous (s : String) : Bool :=
  Scalar.plain s ≠ .text s || Scalar.hasLeadingZero s.toList

/-- Whether a character ends a line when it is written. -/
def breaksLine (c : Char) : Bool := isBreak c || c = '\r' || c = nextLine

/-- Whether a character can be written as it is. -/
def isPrintable (c : Char) : Bool :=
  let n := c.toNat
  n = 0x0A || (0x20 ≤ n && n ≤ 0x7E) || (0xA0 ≤ n && n ≠ 0xFEFF && n ≠ 0xFFFE && n ≠ 0xFFFF)

/-- Whether a text ends, or goes on with a blank or a break. -/
def endsWord : List Char → Bool
  | [] => true
  | c :: _ => isBlank c || breaksLine c || c = Char.ofNat 0

/-- Whether a text cannot start a plain scalar. -/
def startsBadly : List Char → Bool
  | [] => false
  | c :: cs =>
      "#,[]\x7b\x7d&*!|>'\"%@`".toList.contains c || ("?:-".toList.contains c && endsWord cs)
        || ['-', '-', '-'].isPrefixOf (c :: cs) || ['.', '.', '.'].isPrefixOf (c :: cs)

/-- Whether a text behind a character contains a colon or a number sign that ends a plain scalar. -/
def goesOnBadly : Char → List Char → Bool
  | _, [] => false
  | before, c :: cs =>
      (c = ':' && endsWord cs) || (c = '#' && endsWord [before]) || goesOnBadly c cs

/-- Whether two neighbours in a text satisfy a relation. -/
def hasNeighbours (r : Char → Char → Bool) : List Char → Bool
  | a :: b :: cs => r a b || hasNeighbours r (b :: cs)
  | _ => false

/-- Whether a text has several lines. -/
def isMultiline (cs : List Char) : Bool := cs.any breaksLine

/-- Whether a text needs escapes. -/
def needsEscapes (cs : List Char) : Bool :=
  cs.any (!isPrintable ·) || hasNeighbours (fun a b => a = ' ' && breaksLine b) cs

/-- Whether a text can be written without quotes. -/
def allowsPlain (cs : List Char) : Bool :=
  let bad := match cs with
    | [] => true
    | c :: rest => goesOnBadly c rest
  !(bad || startsBadly cs || isMultiline cs || needsEscapes cs || cs.head? = some ' '
    || cs.getLast? = some ' ')

/-- Whether a text can be written in single quotes. -/
def allowsQuotes (cs : List Char) : Bool :=
  !(needsEscapes cs || hasNeighbours (fun a b => breaksLine a && b = ' ') cs)

/-- Whether a text can be written as a literal block. -/
def allowsBlock (cs : List Char) : Bool := !(needsEscapes cs || cs.getLast? = some ' ')

/-! ## Lines -/

/-- A line with its indentation. The text of a block goes on over further lines, and may end in a break. -/
structure Line where
  indent : Nat
  text : String
  deriving DecidableEq, Repr, Inhabited

/-- The line as it is written, with a break at its end. -/
def Line.render (l : Line) : String :=
  String.ofList (List.replicate l.indent ' ') ++ l.text
    ++ if l.text.toList.getLast?.any isBreak then "" else "\n"

/-- The lines of a node behind a mark, which stands at an indentation. -/
def mark (indent : Nat) (text : String) : List Line → List Line
  | [] => [⟨indent, text⟩]
  | l :: ls => ⟨indent, text ++ " " ++ l.text⟩ :: ls

/-! ## Writing strings -/

/-- The digits of a number in upper-case hexadecimal, at least as many as asked for. -/
def upperHex (width n : Nat) : List Char := (Json.hexDigits width n).map Char.toUpper

/-- A character in double quotes. -/
def escapeChar (c : Char) : List Char :=
  if isPrintable c && !isBreak c && c ≠ '"' && c ≠ '\\' then [c]
  else '\\' :: match c.toNat with
    | 0x00 => ['0']
    | 0x07 => ['a']
    | 0x08 => ['b']
    | 0x09 => ['t']
    | 0x0A => ['n']
    | 0x0B => ['v']
    | 0x0C => ['f']
    | 0x0D => ['r']
    | 0x1B => ['e']
    | 0x22 => ['"']
    | 0x5C => ['\\']
    | 0x85 => ['N']
    | 0xA0 => ['_']
    | 0x2028 => ['L']
    | 0x2029 => ['P']
    | n =>
        if n ≤ 0xFF then 'x' :: upperHex 2 n
        else if n ≤ 0xFFFF then 'u' :: upperHex 4 n
        else 'U' :: upperHex 8 n

/-- A text in double quotes. -/
def doubleQuoted (cs : List Char) : String := "\"" ++ String.ofList (cs.flatMap escapeChar) ++ "\""

/-- A text with each of its lines indented; `behind` says whether a line starts at its first character. -/
def indentLines (indent : Nat) : (behind : Bool) → List Char → List Char
  | _, [] => []
  | behind, c :: cs =>
      if isBreak c then c :: indentLines indent true cs
      else
        (if behind then List.replicate indent ' ' else []) ++ c :: indentLines indent false cs

/-- A character between single quotes. -/
def quoteChar (c : Char) : List Char := if c = '\'' then ['\'', '\''] else [c]

/-- A text in single quotes. Lines behind a separator are indented, an empty one at the end too. -/
def singleQuoted (indent : Nat) (cs : List Char) : String :=
  let tail := if cs.getLast?.any isBreak then List.replicate indent ' ' else []
  "'" ++ String.ofList (indentLines indent false (cs.flatMap quoteChar) ++ tail) ++ "'"

/-- The sign for the breaks at the end of a literal block. -/
def chompingSign (cs : List Char) : String :=
  match cs.reverse with
  | c :: d :: _ => if !isBreak c then "-" else if isBreak d then "+" else ""
  | [c] => if isBreak c then "+" else "-"
  | [] => "-"

/-- What the first line of a literal block says. -/
def literalHeader (cs : List Char) : String :=
  "|" ++ (if cs.head?.any fun c => c = ' ' || isBreak c then "2" else "") ++ chompingSign cs

/-- A text as a literal block. -/
def literal (indent : Nat) (cs : List Char) : String :=
  literalHeader cs ++ "\n" ++ String.ofList (indentLines indent true cs)

/-- A string. As a key it has to fit on one line. -/
def stringText (indent : Nat) (isKey : Bool) (s : String) : String :=
  let cs := s.toList
  if isKey && isMultiline cs then doubleQuoted cs
  else if cs.contains '\n' then
    if allowsBlock cs && !isKey then literal indent cs else doubleQuoted cs
  else if !isAmbiguous s && allowsPlain cs then s
  else if allowsQuotes cs then singleQuoted indent cs
  else doubleQuoted cs

/-- Whether a string can be a key without a question mark. -/
def isSimpleKey (s : String) : Bool := !isMultiline s.toList && s.utf8ByteSize ≤ 128

/-! ## Writing values -/

/-- The text of a number. -/
def numberText : Number → String
  | .int n => toString n
  | .double x => x.toText doubleLayout

mutual

/-- The lines of a value. Those of a collection start at the given indentation. -/
def valueLines (indent : Nat) : Json → List Line
  | .null => [⟨indent, "null"⟩]
  | .bool b => [⟨indent, toString b⟩]
  | .number n => [⟨indent, numberText n⟩]
  | .string s => [⟨indent, stringText (max indent 2) false s⟩]
  | .array [] => [⟨indent, "[]"⟩]
  | .array (v :: vs) => itemLines indent (v :: vs)
  | .object [] => [⟨indent, "\x7b\x7d"⟩]
  | .object (e :: es) => entryLines indent (e :: es)

/-- The lines of the items of a sequence. -/
def itemLines (indent : Nat) : List Json → List Line
  | [] => []
  | v :: vs => mark indent "-" (valueLines (indent + 2) v) ++ itemLines indent vs

/-- The lines of the entries of a mapping. -/
def entryLines (indent : Nat) : List (String × Json) → List Line
  | [] => []
  | (key, v) :: es =>
      let lines :=
        if isSimpleKey key then
          let head := stringText indent true key ++ ":"
          match v with
          | .array (w :: ws) => ⟨indent, head⟩ :: itemLines indent (w :: ws)
          | .object (f :: fs) => ⟨indent, head⟩ :: entryLines (indent + 2) (f :: fs)
          | v => mark indent head (valueLines (indent + 2) v)
        else
          mark indent "?" [⟨indent + 2, stringText (indent + 2) false key⟩]
            ++ mark indent ":" (valueLines (indent + 2) v)
      lines ++ entryLines indent es

end

end Yaml

/-- A value as YAML text. -/
def Json.yaml (v : Json) : String :=
  String.join ((Yaml.valueLines 0 v).map Yaml.Line.render)

end OpenApi
