import OpenApi.Number.Reading
import OpenApi.Yaml.Text

set_option autoImplicit false

/-! # Scalars in YAML text

A scalar is written plainly, in quotes, or as a block. Each style has an automaton that goes through the
text character by character: `Plain.read`, `Quoted.read?` and `Block.read?` answer the value of the scalar
and the text behind it. Characters of a value are collected in reverse. -/

namespace OpenApi

namespace Yaml

/-! ## Gaps between words -/

/-- The blanks and breaks since the last word of a scalar. -/
structure Gap where
  /-- The blanks before the first break, in reverse. -/
  blanks : List Char := []
  /-- Whether there was a break; an escaped break counts, but adds nothing. -/
  broken : Bool := false
  /-- The first break. -/
  first : List Char := []
  /-- The breaks after it, in reverse. -/
  others : List Char := []

namespace Gap

/-- The gap with one more character. Blanks around breaks do not count. -/
def add (g : Gap) (c : Char) : Gap :=
  if isBreak c then
    if g.broken then { g with others := c :: g.others }
    else { g with broken := true, first := [c], blanks := [] }
  else if g.broken then g
  else { g with blanks := c :: g.blanks }

/-- What a gap says, in reverse: its blanks if it is within a line; a single line feed is folded into a
    space, and vanishes before further breaks. -/
def rev (g : Gap) : List Char :=
  if g.broken then
    if g.first = ['\n'] then if g.others = [] then [' '] else g.others
    else g.others ++ g.first
  else g.blanks

/-- The gap after an escaped break. -/
def escaped : Gap := { broken := true }

end Gap

/-! ## Plain scalars -/

namespace Plain

/-- What reading a plain scalar answers. -/
structure Result where
  text : List Char
  /-- Whether the scalar is followed by a break. -/
  broken : Bool
  rest : List Placed

/-- Whether a character ends a plain scalar within a flow collection. -/
def endsInFlow (c : Char) : Bool := c = ',' || c = '[' || c = ']' || c = '\x7b' || c = '\x7d'

/-- Whether a colon before the character is an error within a flow collection. -/
def forbidsColon (c : Char) : Bool := endsInFlow c || c = '?'

/-- Whether a plain scalar ends before a word at the given place: at a mark of a document, at a comment, or
    where the line is not indented enough. -/
def endsBefore (flow : Bool) (indent : Nat) (ps : List Placed) : Bool :=
  match ps with
  | [] => true
  | p :: _ => (!flow && p.column < indent) || atDocumentMark ps || p.char = '#'

/-- Reads on. The gap is the one before the current place, if there is one. -/
def readFrom (flow : Bool) (indent : Nat) (gap : Option Gap) (rev : List Char) :
    List Placed → Option Result
  | [] => some ⟨rev.reverse, gap.any (·.broken), []⟩
  | p :: ps =>
      let stop : Option Result := some ⟨rev.reverse, gap.any (·.broken), p :: ps⟩
      if isGap p.char then
        if p.char = '\t' && gap.any (·.broken) && p.column < indent then none
        else readFrom flow indent (some ((gap.getD {}).add p.char)) rev ps
      else if gap.isSome && endsBefore flow indent (p :: ps) then stop
      else if flow && p.char = ':' && ps.head?.any (fun q => forbidsColon q.char) then none
      else if (p.char = ':' && atGap ps) || (flow && endsInFlow p.char) then stop
      else readFrom flow indent none (p.char :: ((gap.map Gap.rev).getD [] ++ rev)) ps

/-- Reads a plain scalar. Its lines have at least the given indentation, unless it is within a flow
    collection. -/
def read? (flow : Bool) (indent : Nat) (ps : List Placed) : Option Result :=
  readFrom flow indent none [] ps

end Plain

/-! ## Quoted scalars -/

namespace Quoted

/-- Where the automaton stands. -/
inductive Mode where
  | word
  | gap (g : Gap)
  /-- After a single quote. -/
  | quote
  /-- After a backslash. -/
  | escape
  /-- In the digits of an escape: those still to come, and the value so far. -/
  | hex (left value : Nat)

/-- The gap up to the current place. -/
def Mode.gapSoFar : Mode → Gap
  | .gap g => g
  | _ => {}

/-- What an escape stands for. -/
def escape? (c : Char) : Option Char :=
  match c with
  | '0' => some (Char.ofNat 0)
  | 'a' => some (Char.ofNat 0x07)
  | 'b' => some (Char.ofNat 0x08)
  | 't' => some '\t'
  | '\t' => some '\t'
  | 'n' => some '\n'
  | 'v' => some (Char.ofNat 0x0B)
  | 'f' => some (Char.ofNat 0x0C)
  | 'r' => some '\r'
  | 'e' => some (Char.ofNat 0x1B)
  | ' ' => some ' '
  | '"' => some '"'
  | '/' => some '/'
  | '\\' => some '\\'
  | 'N' => some nextLine
  | '_' => some (Char.ofNat 0xA0)
  | 'L' => some lineSeparator
  | 'P' => some paragraphSeparator
  | _ => none

/-- The number of digits after the letter of an escape. -/
def digitCount? (c : Char) : Option Nat :=
  match c with
  | 'x' => some 2
  | 'u' => some 4
  | 'U' => some 8
  | _ => none

/-- The character of a code point. -/
def charOf? (n : Nat) : Option Char := if n.isValidChar then some (Char.ofNat n) else none

/-- Reads on, from behind the opening quote. -/
def readFrom (single : Bool) (mode : Mode) (rev : List Char) :
    List Placed → Option (List Char × List Placed)
  | [] => match mode with
    | .quote => some (rev.reverse, [])
    | _ => none
  | p :: ps => match mode with
    | .quote =>
        if p.char = '\'' then readFrom single .word ('\'' :: rev) ps
        else some (rev.reverse, p :: ps)
    | .escape =>
        if isBreak p.char then readFrom single (.gap .escaped) rev ps
        else match escape? p.char, digitCount? p.char with
          | some c, _ => readFrom single .word (c :: rev) ps
          | none, some n => readFrom single (.hex n 0) rev ps
          | none, none => none
    | .hex left value => match hexDigit? p.char with
        | none => none
        | some d =>
            let value := 16 * value + d
            if 1 < left then readFrom single (.hex (left - 1) value) rev ps
            else match charOf? value with
              | some c => readFrom single .word (c :: rev) ps
              | none => none
    | .word | .gap _ =>
        if isGap p.char then readFrom single (.gap (mode.gapSoFar.add p.char)) rev ps
        else if atDocumentMark (p :: ps) then none
        else
          let rev := mode.gapSoFar.rev ++ rev
          if single && p.char = '\'' then readFrom single .quote rev ps
          else if !single && p.char = '"' then some (rev.reverse, ps)
          else if !single && p.char = '\\' then readFrom single .escape rev ps
          else readFrom single .word (p.char :: rev) ps

/-- Reads a scalar in single or double quotes, from behind the opening quote. -/
def read? (single : Bool) (ps : List Placed) : Option (List Char × List Placed) :=
  readFrom single .word [] ps

end Quoted

/-! ## Block scalars -/

namespace Block

/-- What becomes of the breaks at the end of a block. -/
inductive Chomping where
  /-- The last line has no break. -/
  | strip
  /-- The last line has its break. -/
  | clip
  /-- All breaks are kept. -/
  | keep
  deriving DecidableEq, Repr

/-- What the first line of a block says. -/
structure Header where
  chomping : Chomping := .clip
  /-- How much deeper than its parent the block is indented. -/
  increment : Option Nat := none

/-- A sign for chomping. -/
def chomping? (c : Char) : Option Chomping :=
  if c = '+' then some .keep else if c = '-' then some .strip else none

/-- A digit for the indentation, which is not zero. -/
def increment? (c : Char) : Option Nat :=
  if c.isDigit ∧ c ≠ '0' then some (c.toNat - '0'.toNat) else none

/-- Reads the signs of a header, in any order; answers the text behind them. -/
def header (ps : List Placed) : Header × List Placed :=
  match ps with
  | [] => ({}, [])
  | p :: qs => match chomping? p.char, increment? p.char with
    | some k, _ => match qs with
      | q :: rs => match increment? q.char with
        | some n => (⟨k, some n⟩, rs)
        | none => (⟨k, none⟩, qs)
      | [] => (⟨k, none⟩, [])
    | none, some n => match qs with
      | q :: rs => match chomping? q.char with
        | some k => (⟨k, some n⟩, rs)
        | none => (⟨.clip, some n⟩, qs)
      | [] => (⟨.clip, some n⟩, [])
    | none, none => ({}, ps)

/-- Where the automaton stands. -/
structure State where
  /-- Whether the current place is within a line, behind its indentation. -/
  inLine : Bool := false
  /-- The indentation, once it is known. -/
  indent : Option Nat
  /-- The greatest indentation so far, while it is not known. -/
  deepest : Nat := 0
  rev : List Char := []
  /-- The break after the last line. -/
  last : List Char := []
  /-- The breaks of the empty lines since then, in reverse. -/
  empty : List Char := []
  /-- Whether the last line started with a blank. -/
  blank : Bool := false

/-- The state at the first character of a line. In a folded block, the break between two lines becomes a
    space, or vanishes before empty lines; lines that start with a blank keep it. -/
def State.startLine (folded : Bool) (s : State) (c : Char) : State :=
  let joint :=
    if folded && s.last = ['\n'] && !s.blank && !isBlank c then
      if s.empty = [] then [' '] else s.empty
    else s.empty ++ s.last
  { s with
    inLine := true
    rev := c :: (joint ++ s.rev)
    last := []
    empty := []
    blank := isBlank c }

/-- The indentation of a block whose first line of text starts in the given column. -/
def State.indentAt (least : Nat) (s : State) (column : Nat) : Nat :=
  s.indent.getD (max (max s.deepest column) (max least 1))

/-- The value of a finished block. -/
def State.finish (k : Chomping) (s : State) : List Char :=
  let tail := match k with
    | .strip => []
    | .clip => s.last
    | .keep => s.empty ++ s.last
  (tail ++ s.rev).reverse

/-- Reads on. A block without an indentation of its own has at least that of `least`. -/
def readFrom (folded : Bool) (k : Chomping) (least : Nat) (s : State) :
    List Placed → Option (List Char × List Placed)
  | [] => some (s.finish k, [])
  | p :: ps =>
      if s.inLine then
        if isBreak p.char then
          readFrom folded k least { s with inLine := false, last := [p.char] } ps
        else readFrom folded k least { s with rev := p.char :: s.rev } ps
      else if p.char = ' ' && s.indent.all (p.column < ·) then readFrom folded k least s ps
      else if p.char = '\t' && s.indent.all (p.column < ·) then none
      else if isBreak p.char then
        readFrom folded k least
          { s with empty := p.char :: s.empty, deepest := max s.deepest p.column } ps
      else
        let indent := s.indentAt least p.column
        if p.column = indent then
          readFrom folded k least ({ s with indent := some indent }.startLine folded p.char) ps
        else some (s.finish k, p :: ps)

/-- Reads a block scalar, from behind its indicator. `parent` is the indentation of the collection it is
    in, if it is in one. -/
def read? (folded : Bool) (parent : Option Nat) (ps : List Placed) :
    Option (List Char × List Placed) :=
  let (h, ps) := header ps
  match skipToBreak? ps with
  | none => none
  | some ps =>
      let least := parent.elim 0 (· + 1)
      let indent := h.increment.map (parent.getD 0 + ·)
      readFrom folded h.chomping least { indent := indent } (ps.drop 1)

end Block

end Yaml

end OpenApi
