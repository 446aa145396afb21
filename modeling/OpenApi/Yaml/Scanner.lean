import OpenApi.Entries
import OpenApi.Yaml.Scalar
import OpenApi.Yaml.Token

set_option autoImplicit false

/-! # Scanning YAML text

`Yaml.lexemes?` splits a text into tokens. Two things are not seen by looking at characters alone.
Block collections start and end where the indentation changes. And a mapping key that is not announced
by a question mark turns out to be one only at the colon behind it; so the scanner remembers where a
key may have started, and adds the tokens for it afterwards. -/

namespace OpenApi

namespace Yaml

/-! ## Names, tags and directives -/

/-- A name, and the text behind it. -/
def name? (ps : List Placed) : Option (String × List Placed) :=
  let (name, rest) := ps.span fun p => isNameChar p.char
  if name = [] then none else some (String.ofList (chars name), rest)

/-- The name of an anchor, and the text behind it. -/
def anchor? (ps : List Placed) : Option (String × List Placed) :=
  match name? ps with
  | none => none
  | some (name, rest) =>
      if atGap rest || "?:,]\x7d%@`".toList.any (next · rest) then some (name, rest) else none

/-- A tag handle: an exclamation mark, and possibly a name with another one. -/
def handle? (ps : List Placed) : Option (List Char × List Placed) :=
  if next '!' ps then
    let (name, rest) := (ps.drop 1).span fun p => isNameChar p.char
    let handle := '!' :: chars name
    some (if next '!' rest then (handle ++ ['!'], rest.drop 1) else (handle, rest))
  else none

/-- Whether a handle is more than a single exclamation mark, and ends with another one. -/
def isNamedHandle (handle : List Char) : Bool := 1 < handle.length && handle.getLast? = some '!'

/-- Whether a character may stand in a tag. Some may so only in a tag that is not abbreviated. -/
def isTagChar (full : Bool) (c : Char) : Bool :=
  isNameChar c || ";/?:@&=+$.%!~*'()".toList.contains c || (full && ",[]".toList.contains c)

/-- The characters of a tag, and the text behind them. -/
def tagChars (full : Bool) (ps : List Placed) : List Char × List Placed :=
  let (tag, rest) := ps.span fun p => isTagChar full p.char
  (chars tag, rest)

/-- A tag in angle brackets, which is not abbreviated. -/
def fullTag? (ps : List Placed) : Option (Token × List Placed) := do
  let (suffix, rest) := tagChars true ps
  guard (suffix ≠ [] && next '>' rest)
  pure (.tag "" (← Tag.ofChars? suffix), rest.drop 1)

/-- A tag with a handle. -/
def shortTag? (ps : List Placed) : Option (Token × List Placed) := do
  let (handle, rest) ← handle? ps
  let (suffix, rest) := tagChars false rest
  if isNamedHandle handle then
    guard (suffix ≠ [])
    pure (.tag (String.ofList handle) (← Tag.ofChars? suffix), rest)
  else
    let suffix ← Tag.ofChars? (handle.drop 1 ++ suffix)
    pure (if suffix.octets = [] then .tag "" .bang else .tag "!" suffix, rest)

/-- A tag, and the text behind it. -/
def tag? (flow : Bool) (ps : List Placed) : Option (Token × List Placed) := do
  let (tag, rest) ← if next '<' (ps.drop 1) then fullTag? (ps.drop 2) else shortTag? ps
  guard (atGap rest || (flow && next ',' rest))
  pure (tag, rest)

/-- A part of a version: up to nine digits. -/
def versionNumber? (ps : List Placed) : Option (Nat × List Placed) :=
  let (ds, rest) := ps.span fun p => p.char.isDigit
  if ds = [] ∨ 9 < ds.length then none else some (digitsValue (chars ds), rest)

/-- A version. -/
def version? (ps : List Placed) : Option (Token × List Placed) := do
  let (major, rest) ← versionNumber? (skipBlanks ps)
  guard (next '.' rest)
  let (minor, rest) ← versionNumber? (rest.drop 1)
  pure (.version major minor, rest)

/-- A tag handle with its meaning. -/
def tagHandle? (ps : List Placed) : Option (Token × List Placed) := do
  let (handle, rest) ← handle? (skipBlanks ps)
  guard (handle = ['!'] || isNamedHandle handle)
  guard (rest.head?.any fun p => isBlank p.char)
  let (meaning, rest) := tagChars true (skipBlanks rest)
  guard (meaning ≠ [] && atGap rest)
  pure (.tagHandle (String.ofList handle) (← Tag.ofChars? meaning), rest)

/-- A directive, from behind its percent sign up to the end of its line. -/
def directive? (ps : List Placed) : Option (Token × List Placed) := do
  let (name, rest) ← name? ps
  guard (atGap rest)
  let (token, rest) ← match name with
    | "YAML" => version? rest
    | "TAG" => tagHandle? rest
    | _ => none
  let rest ← skipToBreak? rest
  pure (token, rest.drop 1)

/-! ## The scanner -/

/-- A place where a key may have started. -/
structure KeyStart where
  /-- Whether a key has to be there, since the place is at the indentation of its mapping. -/
  required : Bool
  /-- The number of tokens before the place. -/
  index : Nat
  place : Place
  deriving Repr

/-- A scanner at work. -/
structure Scanner where
  rest : List Placed
  lexemes : Array Lexeme := #[]
  /-- The columns of the open block collections, the innermost first. -/
  indents : List Nat := []
  /-- Where a key may have started, in the innermost flow collection or outside of any. -/
  start : Option KeyStart := none
  /-- The same in the collections around it. -/
  outer : List (Option KeyStart) := []
  /-- Whether a key may start at the current place. -/
  keyAllowed : Bool := true
  /-- The numbers of the anchors by name. -/
  anchors : Entries Nat := []

namespace Scanner

/-- Whether the scanner is within a flow collection. -/
def inFlow (s : Scanner) : Bool := !s.outer.isEmpty

/-- The longest key without a question mark. -/
def keyLimit : Nat := 1024

/-- Whether a place is too far back for a key, which has to be on one line and not too long. -/
def isStale (place : Place) (k : KeyStart) : Bool :=
  k.place.line < place.line || k.place.column + keyLimit < place.column

/-- The scanner with the given text still to scan. -/
def goto (s : Scanner) (rest : List Placed) : Scanner := { s with rest := rest }

/-- Adds a token. -/
def emit (s : Scanner) (t : Token) (place : Place) : Scanner :=
  { s with lexemes := s.lexemes.push ⟨t, place⟩ }

/-- Adds a token in front of some that are there already. -/
def emitAt (s : Scanner) (index : Nat) (t : Token) (place : Place) : Scanner :=
  { s with lexemes := s.lexemes.insertIdxIfInBounds index ⟨t, place⟩ }

/-- Adds the ends of block collections. -/
def emitEnds (s : Scanner) (closed : List Nat) (place : Place) : Scanner :=
  { s with lexemes := s.lexemes ++ closed.map fun _ => Lexeme.mk .blockEnd place }

/-- The scanner with a key allowed or not. -/
def allow (s : Scanner) (b : Bool) : Scanner := { s with keyAllowed := b }

/-- Gives up the current place for a key. -/
def dropStart? (s : Scanner) : Option Scanner :=
  if s.start.any (·.required) then none else some { s with start := none }

/-- Gives up the places for keys that are too far back. -/
def dropStale? (s : Scanner) (place : Place) : Option Scanner :=
  let stale := isStale place
  if (s.start :: s.outer).any fun k => k.any fun k => stale k && k.required then none
  else some { s with start := s.start.filter (!stale ·), outer := s.outer.map (·.filter (!stale ·)) }

/-- Remembers the current place, if a key may start there. -/
def saveStart? (s : Scanner) (p : Placed) : Option Scanner :=
  if s.keyAllowed then
    let required := !s.inFlow && s.indents.head? = some p.column
    (s.dropStart?).map fun s => { s with start := some ⟨required, s.lexemes.size, p.toPlace⟩ }
  else some s

/-- Opens a block collection at a place whose column is deeper than those before. -/
def openBlock (s : Scanner) (place : Place) (index : Nat) (t : Token) : Scanner :=
  if s.inFlow || s.indents.head?.any (place.column ≤ ·) then s
  else { s.emitAt index t place with indents := place.column :: s.indents }

/-- Closes the block collections that are deeper than the column of a place. -/
def closeBlocks (s : Scanner) (place : Place) : Scanner :=
  if s.inFlow then s
  else
    let (closed, left) := s.indents.span (place.column < ·)
    { s.emitEnds closed place with indents := left }

/-- Closes all block collections. -/
def closeAll (s : Scanner) (place : Place) : Scanner :=
  if s.inFlow then s else { s.emitEnds s.indents place with indents := [] }

/-! ## What leads up to the next token -/

/-- Leaves out blanks, comments and breaks, and a byte order mark at the start of a line. A tab is a blank
    only where it cannot be taken for indentation. -/
def skipGap (flow : Bool) (keyAllowed inComment : Bool) : List Placed → Bool × List Placed
  | [] => (keyAllowed, [])
  | p :: ps =>
      if isBreak p.char then skipGap flow (keyAllowed || !flow) false ps
      else if p.char = byteOrderMark && p.column = 0 then skipGap flow keyAllowed false ps
      else if inComment then skipGap flow keyAllowed true ps
      else if p.char = ' ' || (p.char = '\t' && (flow || !keyAllowed)) then
        skipGap flow keyAllowed false ps
      else if p.char = '#' then skipGap flow keyAllowed true ps
      else (keyAllowed, p :: ps)

/-- Goes to the next token. -/
def toNext (s : Scanner) : Scanner :=
  let (allowed, rest) := skipGap s.inFlow s.keyAllowed false s.rest
  { s with keyAllowed := allowed, rest := rest }

/-! ## Tokens -/

/-- A token at which no collection goes on: a directive, or a mark of a document. -/
def atTop? (s : Scanner) (p : Placed) (t : Token) (rest : List Placed) : Option Scanner := do
  let s ← (s.closeAll p.toPlace).dropStart?
  pure (((s.allow false).emit t p.toPlace).goto rest)

/-- A token that can be a key. -/
def node? (s : Scanner) (p : Placed) (t : Token) (rest : List Placed) : Option Scanner := do
  let s ← s.saveStart? p
  pure (((s.allow false).emit t p.toPlace).goto rest)

/-- The start of a flow collection. -/
def openFlow? (s : Scanner) (p : Placed) (t : Token) (rest : List Placed) : Option Scanner := do
  let s ← s.saveStart? p
  let s := { s with start := none, outer := s.start :: s.outer }
  pure (((s.allow true).emit t p.toPlace).goto rest)

/-- The end of a flow collection. -/
def closeFlow? (s : Scanner) (p : Placed) (t : Token) (rest : List Placed) : Option Scanner := do
  let s ← s.dropStart?
  let s := match s.outer with
    | [] => s
    | start :: outer => { s with start := start, outer := outer }
  pure (((s.allow false).emit t p.toPlace).goto rest)

/-- A comma between the entries of a flow collection. -/
def flowEntry? (s : Scanner) (p : Placed) (rest : List Placed) : Option Scanner := do
  let s ← s.dropStart?
  pure (((s.allow true).emit .flowEntry p.toPlace).goto rest)

/-- A dash before an entry of a block sequence. -/
def blockEntry? (s : Scanner) (p : Placed) (rest : List Placed) : Option Scanner := do
  guard (s.inFlow || s.keyAllowed)
  let s ← (s.openBlock p.toPlace s.lexemes.size .blockSequenceStart).dropStart?
  pure (((s.allow true).emit .blockEntry p.toPlace).goto rest)

/-- A question mark before a key. -/
def key? (s : Scanner) (p : Placed) (rest : List Placed) : Option Scanner := do
  guard (s.inFlow || s.keyAllowed)
  let s ← (s.openBlock p.toPlace s.lexemes.size .blockMappingStart).dropStart?
  pure (((s.allow (!s.inFlow)).emit .key p.toPlace).goto rest)

/-- A colon before a value. If a key may have started before it, the key's tokens are added there. -/
def value? (s : Scanner) (p : Placed) (rest : List Placed) : Option Scanner :=
  match s.start with
  | some k =>
      -- the mapping starts before the key, so its token goes to the same place and thus in front
      let s := (s.emitAt k.index .key k.place).openBlock k.place k.index .blockMappingStart
      some ((({ s with start := none }.allow false).emit .value p.toPlace).goto rest)
  | none => do
      guard (s.inFlow || s.keyAllowed)
      let s := s.openBlock p.toPlace s.lexemes.size .blockMappingStart
      pure (((s.allow (!s.inFlow)).emit .value p.toPlace).goto rest)

/-- A block scalar. -/
def block? (s : Scanner) (p : Placed) (style : Style) (rest : List Placed) : Option Scanner := do
  let s ← s.dropStart?
  let (text, rest) ← Block.read? (style = .folded) s.indents.head? rest
  pure (((s.allow true).emit (.scalar style (String.ofList text)) p.toPlace).goto rest)

/-- An anchor. Its number is the count of names before it; a name that is used again gets a new
    number. -/
def defineAnchor? (s : Scanner) (p : Placed) (name : String) (rest : List Placed) :
    Option Scanner := do
  let number := s.anchors.length
  let s ← s.node? p (.anchor number) rest
  pure { s with anchors := Entries.put name number s.anchors }

/-- A quoted scalar. -/
def quoted? (s : Scanner) (single : Bool) (p : Placed) (rest : List Placed) : Option Scanner := do
  let (text, rest) ← Quoted.read? single rest
  s.node? p (.scalar .quoted (String.ofList text)) rest

/-- A plain scalar. A key may start behind one that is followed by a break. -/
def plain? (s : Scanner) (p : Placed) (ps : List Placed) : Option Scanner := do
  let least := s.indents.head?.elim 0 (· + 1)
  let r ← Plain.read? s.inFlow least ps
  let s ← s.node? p (.scalar .plain (String.ofList r.text)) r.rest
  pure (s.allow r.broken)

/-- Whether a character never starts a plain scalar, unless a word is made by what follows. -/
def isIndicator (c : Char) : Bool := "-?:,[]\x7b\x7d#&*!|>'\"%@`".toList.contains c

/-- Whether a plain scalar starts with a character before the given text. -/
def startsPlain (flow : Bool) (c : Char) (rest : List Placed) : Bool :=
  !(isGap c || isIndicator c)
    || (c = '-' && !rest.head?.any fun q => isBlank q.char)
    || (!flow && (c = '?' || c = ':') && !atGap rest)

/-- The token that starts at a place. -/
def tokenAt? (s : Scanner) (p : Placed) (rest : List Placed) : Option Scanner :=
  let c := p.char
  let here := p :: rest
  -- marks of documents come first, since they would be plain scalars otherwise
  if p.column = 0 && c = '%' then do
    let (t, rest) ← directive? rest
    s.atTop? p t rest
  else if marksDocument '-' here then s.atTop? p .documentStart (here.drop 3)
  else if marksDocument '.' here then s.atTop? p .documentEnd (here.drop 3)
  else if c = '[' then s.openFlow? p .flowSequenceStart rest
  else if c = '\x7b' then s.openFlow? p .flowMappingStart rest
  else if c = ']' then s.closeFlow? p .flowSequenceEnd rest
  else if c = '\x7d' then s.closeFlow? p .flowMappingEnd rest
  else if c = ',' then s.flowEntry? p rest
  else if c = '-' && atGap rest then s.blockEntry? p rest
  else if c = '?' && (s.inFlow || atGap rest) then s.key? p rest
  else if c = ':' && (s.inFlow || atGap rest) then s.value? p rest
  else if c = '*' then do
    let (name, rest) ← anchor? rest
    s.node? p (.alias (s.anchors.get? name)) rest
  else if c = '&' then do
    let (name, rest) ← anchor? rest
    s.defineAnchor? p name rest
  else if c = '!' then do
    let (t, rest) ← tag? s.inFlow here
    s.node? p t rest
  else if c = '|' && !s.inFlow then s.block? p .literal rest
  else if c = '>' && !s.inFlow then s.block? p .folded rest
  else if c = '\'' then s.quoted? true p rest
  else if c = '"' then s.quoted? false p rest
  else if startsPlain s.inFlow c rest then s.plain? p here
  else none

/-! ## All tokens -/

/-- The tokens when the text is at its end. -/
def finish? (s : Scanner) (last : Place) : Option (Array Lexeme) :=
  ((s.closeAll last).dropStart?).map (·.lexemes)

/-- Scans the rest of a text that ends at a place. Every token leaves less of it. -/
def run? (last : Place) (s : Scanner) : Option (Array Lexeme) :=
  let next := s.toNext
  match next.rest with
  | [] => next.finish? last
  | p :: rest => do
      let t ← (← next.dropStale? p.toPlace).closeBlocks p.toPlace |>.tokenAt? p rest
      if t.rest.length < s.rest.length then run? last t else none
termination_by s.rest.length

end Scanner

/-- The tokens of a text. -/
def lexemes? (text : String) : Option (List Lexeme) := do
  let ps ← place? text
  pure (← Scanner.run? (endOf ps) { rest := ps }).toList

end Yaml

end OpenApi
