set_option autoImplicit false

/-! # YAML text

What YAML says depends on where it stands. `Yaml.place?` gives every character of a text its line and
column, after it has written all ends of lines the same way, so that everything else works on a list of
placed characters. Only printable characters may occur. -/

namespace OpenApi

namespace Yaml

/-- A place in a text. Lines and columns are counted from zero. -/
structure Place where
  line : Nat
  column : Nat
  deriving DecidableEq, Repr, Inhabited

/-- The place behind a character that is no break. -/
def Place.next (p : Place) : Place := ⟨p.line, p.column + 1⟩

/-- The place behind a break. -/
def Place.nextLine (p : Place) : Place := ⟨p.line + 1, 0⟩

/-- A character with its place. -/
structure Placed extends Place where
  char : Char
  deriving DecidableEq, Repr, Inhabited

/-! ## Kinds of characters -/

/-- The next line. -/
def nextLine : Char := Char.ofNat 0x85

/-- The line separator. -/
def lineSeparator : Char := Char.ofNat 0x2028

/-- The paragraph separator. -/
def paragraphSeparator : Char := Char.ofNat 0x2029

/-- The byte order mark. -/
def byteOrderMark : Char := Char.ofNat 0xFEFF

/-- Whether a character ends a line, ends of lines being written as line feeds. -/
def isBreak (c : Char) : Bool := c = '\n' || c = lineSeparator || c = paragraphSeparator

/-- Whether a character is a space or a tab. -/
def isBlank (c : Char) : Bool := c = ' ' || c = '\t'

/-- Whether a character separates words. -/
def isGap (c : Char) : Bool := isBlank c || isBreak c

/-- Whether a character may occur in the names of anchors and directives. -/
def isNameChar (c : Char) : Bool := c.isAlphanum || c = '_' || c = '-'

/-- Whether a character may occur in a text. -/
def isAllowed (c : Char) : Bool :=
  let n := c.toNat
  n = 0x09 || n = 0x0A || n = 0x0D || n = 0x85
    || (0x20 ≤ n && n ≤ 0x7E)
    || (0xA0 ≤ n && n ≤ 0xD7FF)
    || (0xE000 ≤ n && n ≤ 0xFFFD)
    || 0x10000 ≤ n

/-! ## Placing -/

/-- Writes the ends of lines as line feeds; line and paragraph separators stay. -/
def unifyBreaks : List Char → List Char
  | '\r' :: '\n' :: cs => '\n' :: unifyBreaks cs
  | c :: cs => (if c = '\r' ∨ c = nextLine then '\n' else c) :: unifyBreaks cs
  | [] => []

/-- Gives the characters their places from a place on. -/
def placeFrom (place : Place) : List Char → List Placed
  | [] => []
  | c :: cs => ⟨place, c⟩ :: placeFrom (if isBreak c then place.nextLine else place.next) cs

/-- The placed characters of a text of allowed characters. A byte order mark takes up a column. -/
def place? (text : String) : Option (List Placed) :=
  let cs := text.toList
  if cs.all isAllowed then some (placeFrom ⟨0, 0⟩ (unifyBreaks cs)) else none

/-! ## Looking ahead -/

/-- The start of the line behind a text. -/
def endOf (ps : List Placed) : Place :=
  match ps.getLast? with
  | some p => p.nextLine
  | none => ⟨0, 0⟩

/-- Whether a text is at its end or goes on with a gap. -/
def atGap : List Placed → Bool
  | [] => true
  | p :: _ => isGap p.char

/-- Whether a text is at its end or at the end of a line. -/
def atBreak : List Placed → Bool
  | [] => true
  | p :: _ => isBreak p.char

/-- Whether the next character is the given one. -/
def next (c : Char) : List Placed → Bool
  | [] => false
  | p :: _ => p.char = c

/-- Whether a text goes on with three times the same character, at the start of a line and before a
    gap. -/
def marksDocument (c : Char) : List Placed → Bool
  | p :: q :: r :: ps =>
      p.column = 0 && p.char = c && q.char = c && r.char = c && atGap ps
  | _ => false

/-- Whether a text goes on with the start or the end of a document. -/
def atDocumentMark (ps : List Placed) : Bool := marksDocument '-' ps || marksDocument '.' ps

/-- The characters of a placed text. -/
def chars (ps : List Placed) : List Char := ps.map (·.char)

/-- The text up to the end of the line, left out. -/
def skipLine (ps : List Placed) : List Placed := ps.dropWhile fun p => !isBreak p.char

/-- The blanks at the start, left out. -/
def skipBlanks (ps : List Placed) : List Placed := ps.dropWhile fun p => isBlank p.char

/-- Blanks and a comment up to the end of the line, left out; `none` if something else stands there. -/
def skipToBreak? (ps : List Placed) : Option (List Placed) :=
  let ps := skipBlanks ps
  let ps := if next '#' ps then skipLine ps else ps
  if atBreak ps then some ps else none

end Yaml

end OpenApi
