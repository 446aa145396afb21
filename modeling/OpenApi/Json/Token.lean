import OpenApi.Number.Reading

set_option autoImplicit false

/-! # Tokens of JSON text

The text is read character by character by a finite automaton (`Json.Lexer`) that holds what the
current token has so far. `Json.tokens?` is the fold of its step over the text. -/

namespace OpenApi

namespace Json

/-- A token of JSON text. -/
inductive Token where
  | arrayStart
  | arrayEnd
  | objectStart
  | objectEnd
  | comma
  | colon
  | string (s : String)
  /-- A number, a boolean or null. -/
  | literal (v : Json)
  deriving Repr

/-- The number of a JSON numeral: no leading zero, and digits on both sides of a point. -/
def number? (cs : List Char) : Option Number :=
  let (negative, cs) := match cs with
    | '-' :: cs => (true, cs)
    | cs => (false, cs)
  match Numeral.split? negative cs with
  | none => none
  | some n =>
      if n.whole = [] ∨ (n.whole.length ≠ 1 ∧ n.whole.head? = some '0') ∨ n.fraction = some [] then
        none
      else Number.ofNumeral? n

/-- What a bare word stands for. -/
def word? (cs : List Char) : Option Json :=
  if cs = ['n', 'u', 'l', 'l'] then some null
  else if cs = ['t', 'r', 'u', 'e'] then some (bool true)
  else if cs = ['f', 'a', 'l', 's', 'e'] then some (bool false)
  else none

namespace Lexer

/-- Where the automaton stands; the characters of an unfinished token are held in reverse. -/
inductive Mode where
  /-- Between tokens. -/
  | between
  /-- In a bare word. -/
  | word (rev : List Char)
  /-- In a number. -/
  | numeral (rev : List Char)
  /-- In a string. -/
  | text (rev : List Char)
  /-- In a string, after a backslash. -/
  | escape (rev : List Char)
  /-- In the four digits of a code unit, after the first half of a pair if there is one. -/
  | unit (rev : List Char) (half : Option Nat) (missing value : Nat)
  /-- After the first half of a pair, before the backslash of the second. -/
  | half (rev : List Char) (half : Nat)
  /-- After the first half of a pair and a backslash. -/
  | halfEscape (rev : List Char) (half : Nat)

/-- The mode and the finished tokens, last first. -/
structure State where
  mode : Mode
  rev : List Token

/-- A character that cannot be part of a word or number. -/
def startToken (rev : List Token) (c : Char) : Option State :=
  match c with
  | ' ' | '\n' | '\r' | '\t' => some ⟨.between, rev⟩
  | '[' => some ⟨.between, .arrayStart :: rev⟩
  | ']' => some ⟨.between, .arrayEnd :: rev⟩
  | '{' => some ⟨.between, .objectStart :: rev⟩
  | '}' => some ⟨.between, .objectEnd :: rev⟩
  | ',' => some ⟨.between, .comma :: rev⟩
  | ':' => some ⟨.between, .colon :: rev⟩
  | '"' => some ⟨.text [], rev⟩
  | c =>
      if c = '-' ∨ c.isDigit then some ⟨.numeral [c], rev⟩
      else if c.isLower then some ⟨.word [c], rev⟩
      else none

/-- Whether a character goes on with a number. -/
def inNumeral (c : Char) : Bool := c.isDigit || c = '.' || c = 'e' || c = 'E' || c = '+' || c = '-'

/-- The character of a one-letter escape. -/
def simpleEscape? : Char → Option Char
  | '"' => some '"'
  | '\\' => some '\\'
  | '/' => some '/'
  | 'b' => some '\x08'
  | 'f' => some '\x0c'
  | 'n' => some '\n'
  | 'r' => some '\r'
  | 't' => some '\t'
  | _ => none

/-- Takes a whole code unit: a character, or a half of one. -/
def takeUnit (rev : List Char) (first : Option Nat) (value : Nat) : Option Mode :=
  let isHigh := 0xD800 ≤ value ∧ value < 0xDC00
  let isLow := 0xDC00 ≤ value ∧ value < 0xE000
  match first with
  | none =>
      if isHigh then some (.half rev value)
      else if isLow then none
      else some (.text (Char.ofNat value :: rev))
  | some high =>
      if isLow then
        some (.text (Char.ofNat (0x10000 + (high - 0xD800) * 0x400 + (value - 0xDC00)) :: rev))
      else none

/-- One character further; `none` where the text cannot be JSON. -/
def step (s : State) (c : Char) : Option State :=
  match s.mode with
  | .between => startToken s.rev c
  | .word cs =>
      if c.isLower then some ⟨.word (c :: cs), s.rev⟩
      else (word? cs.reverse).bind fun v => startToken (.literal v :: s.rev) c
  | .numeral cs =>
      if inNumeral c then some ⟨.numeral (c :: cs), s.rev⟩
      else (number? cs.reverse).bind fun n => startToken (.literal (.number n) :: s.rev) c
  | .text cs =>
      if c = '"' then some ⟨.between, .string (String.ofList cs.reverse) :: s.rev⟩
      else if c = '\\' then some ⟨.escape cs, s.rev⟩
      else if c.toNat < 0x20 then none
      else some ⟨.text (c :: cs), s.rev⟩
  | .escape cs =>
      if c = 'u' then some ⟨.unit cs none 4 0, s.rev⟩
      else (simpleEscape? c).map fun e => ⟨.text (e :: cs), s.rev⟩
  | .unit cs first missing value =>
      (hexDigit? c).bind fun d =>
        let value := 16 * value + d
        if missing ≤ 1 then (takeUnit cs first value).map fun mode => ⟨mode, s.rev⟩
        else some ⟨.unit cs first (missing - 1) value, s.rev⟩
  | .half cs high => if c = '\\' then some ⟨.halfEscape cs high, s.rev⟩ else none
  | .halfEscape cs high => if c = 'u' then some ⟨.unit cs (some high) 4 0, s.rev⟩ else none

/-- The tokens at the end of the text; a word or number may end there, a string may not. -/
def finish (s : State) : Option (List Token) :=
  match s.mode with
  | .between => some s.rev.reverse
  | .word cs => (word? cs.reverse).map fun v => (.literal v :: s.rev).reverse
  | .numeral cs => (number? cs.reverse).map fun n => (.literal (.number n) :: s.rev).reverse
  | _ => none

end Lexer

/-- The tokens of a text, or `none` where it cannot be JSON. -/
def tokens? (s : String) : Option (List Token) :=
  (s.toList.foldlM Lexer.step ⟨.between, []⟩).bind Lexer.finish

end Json

end OpenApi
