import OpenApi.Yaml.Token

set_option autoImplicit false

/-! # Nodes of YAML

A YAML text says at most one `Node`: a scalar, a sequence or a mapping, or the alias of an anchored one.
`Node.ofLexemes?` reads it off the tokens by recursive descent. Each function answers what it has read with
the tokens behind it; the descent ends because it goes on only where these are fewer than before. -/

namespace OpenApi

namespace Yaml

/-- What is said of a node beside its contents. -/
structure Properties where
  anchor : Option Nat := none
  tag : Option Tag := none
  deriving DecidableEq, Repr, Inhabited

/-- A node, with the place where it starts. -/
inductive Node where
  /-- The alias of an anchored node, if there is one. -/
  | alias (place : Place) (anchor : Option Nat)
  | scalar (place : Place) (properties : Properties) (style : Style) (text : String)
  | sequence (place : Place) (properties : Properties) (items : List Node)
  | mapping (place : Place) (properties : Properties) (entries : List (Node × Node))
  deriving Repr, Inhabited

namespace Node

/-- The node where nothing is written. -/
def empty (place : Place) : Node := .scalar place {} .plain ""

/-! ## Properties -/

/-- The meanings of tag handles. -/
abbrev Handles := List (String × Tag)

/-- The meanings of the handles that no directive gives. -/
def defaultHandles : Handles := [("!", .bang), ("!!", .common)]

/-- A tag in full. -/
def tagOf? (handles : Handles) (handle : String) (suffix : Tag) : Option Tag :=
  if handle = "" then some suffix else (handles.lookup handle).map (·.append suffix)

/-- Reads an anchor and a tag, in any order. -/
def takeProperties? (handles : Handles) : List Lexeme → Option (Properties × List Lexeme)
  | ⟨.anchor a, _⟩ :: ⟨.tag h s, _⟩ :: ts =>
      (tagOf? handles h s).map fun tag => (⟨some a, some tag⟩, ts)
  | ⟨.tag h s, _⟩ :: ⟨.anchor a, _⟩ :: ts =>
      (tagOf? handles h s).map fun tag => (⟨some a, some tag⟩, ts)
  | ⟨.anchor a, _⟩ :: ts => some (⟨some a, none⟩, ts)
  | ⟨.tag h s, _⟩ :: ts => (tagOf? handles h s).map fun tag => (⟨none, some tag⟩, ts)
  | ts => some ({}, ts)

/-- A node of which only the properties are written, if there are any. -/
def blank? (place : Place) (p : Properties) (ts : List Lexeme) : Option (Node × List Lexeme) :=
  if p = {} then none else some (.scalar place p .plain "", ts)

/-- Where the next token starts. -/
def startOf : List Lexeme → Place
  | [] => ⟨0, 0⟩
  | t :: _ => t.place

/-- Whether the next token satisfies a condition. -/
def nextIs (ends : Token → Bool) (ts : List Lexeme) : Bool := ts.head?.any (ends ·.token)

/-! ## What ends a place for a node -/

/-- Whether a token ends the place for an item of a block sequence. -/
def endsItem : Token → Bool
  | .blockEntry | .blockEnd => true
  | _ => false

/-- Whether a token ends the place for a key or value of a block mapping. -/
def endsEntry : Token → Bool
  | .key | .value | .blockEnd => true
  | _ => false

/-- Whether a token ends the place for an item of a sequence that is not indented. -/
def endsIndentlessItem (t : Token) : Bool := endsItem t || endsEntry t

/-- Whether a token ends the place for a value of a flow collection. -/
def endsFlowValue : Token → Bool
  | .flowEntry | .flowSequenceEnd | .flowMappingEnd => true
  | _ => false

/-- Whether a token ends the place for a key of a flow mapping. -/
def endsFlowKey (t : Token) : Bool := t = .value || t = .flowEntry || t = .flowMappingEnd

/-- Whether a token ends the place for the key of a pair in a flow sequence. -/
def endsPairKey (t : Token) : Bool := t = .value || t = .flowEntry || t = .flowSequenceEnd

/-- The tokens behind the comma that separates the next entry of a flow collection from those before. -/
def behindComma? (first : Bool) : List Lexeme → Option (List Lexeme)
  | ⟨.flowEntry, place⟩ :: ts => some (if first then ⟨.flowEntry, place⟩ :: ts else ts)
  | ts => if first then some ts else none

/-! ## Reading -/

/-- The descent goes on with fewer tokens. -/
theorem descend_of_lt {m n i j : Nat} (h : m < n) (hi : i < 8) : 8 * m + i < 8 * n + j := by omega

/-- The descent goes on to a simpler part with the same tokens. -/
theorem descend_of_le {m n i j : Nat} (h : m ≤ n) (hi : i < j) : 8 * m + i < 8 * n + j := by omega

mutual

/-- Reads a node. In a block, it may be a block collection; in a block mapping, it may be a sequence that
    is not indented. -/
def node? (handles : Handles) (block indentless : Bool) (ts : List Lexeme) :
    Option (Node × List Lexeme) :=
  match ts with
  | ⟨.alias a, place⟩ :: rest => some (.alias place a, rest)
  | ts => do
      let (p, rest) ← takeProperties? handles ts
      if rest.length ≤ ts.length then content? handles block indentless (startOf ts) p rest else none
termination_by 8 * ts.length + 2

/-- Reads the contents of a node that starts at a place. -/
def content? (handles : Handles) (block indentless : Bool) (place : Place) (p : Properties)
    (ts : List Lexeme) : Option (Node × List Lexeme) :=
  match ts with
  | ⟨.scalar style text, _⟩ :: rest => some (.scalar place p style text, rest)
  | ⟨.flowSequenceStart, _⟩ :: rest => do
      let (items, rest) ← flowItems? handles true rest
      pure (.sequence place p items, rest)
  | ⟨.flowMappingStart, _⟩ :: rest => do
      let (entries, rest) ← flowEntries? handles true rest
      pure (.mapping place p entries, rest)
  | ⟨.blockSequenceStart, _⟩ :: rest =>
      if block then do
        let (items, rest) ← blockItems? handles rest
        pure (.sequence place p items, rest)
      else blank? place p ts
  | ⟨.blockMappingStart, _⟩ :: rest =>
      if block then do
        let (entries, rest) ← blockEntries? handles rest
        pure (.mapping place p entries, rest)
      else blank? place p ts
  -- the dash is left in place, for it starts the first item
  | ⟨.blockEntry, dash⟩ :: rest =>
      if indentless then do
        let (items, rest) ← indentlessItems? handles (⟨.blockEntry, dash⟩ :: rest)
        pure (.sequence place p items, rest)
      else blank? place p ts
  | ts => blank? place p ts
termination_by 8 * ts.length + 1

/-- Reads a node unless its place ends at once; then it is empty. -/
def nodeUntil? (handles : Handles) (block indentless : Bool) (ends : Token → Bool)
    (nothingAt : Place) (ts : List Lexeme) : Option (Node × List Lexeme) :=
  if nextIs ends ts then some (empty nothingAt, ts) else node? handles block indentless ts
termination_by 8 * ts.length + 3

/-- Reads the value behind a key, which may be left out. -/
def value? (handles : Handles) (block : Bool) (ends : Token → Bool) (ts : List Lexeme) :
    Option (Node × List Lexeme) :=
  match ts with
  | ⟨.value, colon⟩ :: rest =>
      nodeUntil? handles block block ends (if block then colon.next else startOf rest) rest
  | ts => some (empty (startOf ts), ts)
termination_by 8 * ts.length + 0

/-- Reads the items of a block sequence. -/
def blockItems? (handles : Handles) (ts : List Lexeme) : Option (List Node × List Lexeme) :=
  match ts with
  | ⟨.blockEntry, dash⟩ :: rest => do
      let (item, left) ← nodeUntil? handles true false endsItem dash.next rest
      if left.length ≤ rest.length then
        let (items, left) ← blockItems? handles left
        pure (item :: items, left)
      else none
  | ⟨.blockEnd, _⟩ :: rest => some ([], rest)
  | _ => none
termination_by 8 * ts.length + 0

/-- Reads the items of a sequence that is not indented. -/
def indentlessItems? (handles : Handles) (ts : List Lexeme) : Option (List Node × List Lexeme) :=
  match ts with
  | ⟨.blockEntry, dash⟩ :: rest => do
      let (item, left) ← nodeUntil? handles true false endsIndentlessItem dash.next rest
      if left.length ≤ rest.length then
        let (items, left) ← indentlessItems? handles left
        pure (item :: items, left)
      else none
  | ts => some ([], ts)
termination_by 8 * ts.length + 0

/-- Reads the entries of a block mapping. -/
def blockEntries? (handles : Handles) (ts : List Lexeme) :
    Option (List (Node × Node) × List Lexeme) :=
  match ts with
  | ⟨.key, mark⟩ :: rest => do
      let (key, left) ← nodeUntil? handles true true endsEntry mark.next rest
      if left.length ≤ rest.length then
        let (value, left) ← value? handles true endsEntry left
        if left.length ≤ rest.length then
          let (entries, left) ← blockEntries? handles left
          pure ((key, value) :: entries, left)
        else none
      else none
  | ⟨.blockEnd, _⟩ :: rest => some ([], rest)
  | _ => none
termination_by 8 * ts.length + 0
decreasing_by all_goals first
  | exact descend_of_lt (Nat.lt_succ_self _) (by decide)
  | exact descend_of_lt (Nat.lt_succ_of_le ‹_›) (by decide)

/-- Reads the items of a flow sequence. -/
def flowItems? (handles : Handles) (first : Bool) (ts : List Lexeme) :
    Option (List Node × List Lexeme) := do
  match ts with
  | ⟨.flowSequenceEnd, _⟩ :: rest => some ([], rest)
  | ts => match ← behindComma? first ts with
    | ⟨.flowSequenceEnd, _⟩ :: rest => some ([], rest)
    | entry =>
        if entry.length ≤ ts.length then
          let (item, rest) ← flowItem? handles entry
          if rest.length < ts.length then
            let (items, rest) ← flowItems? handles false rest
            pure (item :: items, rest)
          else none
        else none
termination_by 8 * ts.length + 4
decreasing_by all_goals first
  | exact descend_of_lt ‹_› (by decide)
  | exact descend_of_le ‹_› (by decide)

/-- Reads an item of a flow sequence, which may be a pair. An empty key takes the token that ends its
    place. -/
def flowItem? (handles : Handles) (ts : List Lexeme) : Option (Node × List Lexeme) :=
  match ts with
  | ⟨.key, place⟩ :: rest => do
      let (key, left) ←
        if nextIs endsPairKey rest then some (empty (startOf rest).next, rest.drop 1)
        else node? handles false false rest
      if left.length ≤ rest.length then
        let (value, left) ← value? handles false endsFlowValue left
        pure (.mapping place {} [(key, value)], left)
      else none
  | ts => node? handles false false ts
termination_by 8 * ts.length + 3

/-- Reads the entries of a flow mapping. -/
def flowEntries? (handles : Handles) (first : Bool) (ts : List Lexeme) :
    Option (List (Node × Node) × List Lexeme) := do
  match ts with
  | ⟨.flowMappingEnd, _⟩ :: rest => some ([], rest)
  | ts => match ← behindComma? first ts with
    | ⟨.flowMappingEnd, _⟩ :: rest => some ([], rest)
    | entry =>
        if entry.length ≤ ts.length then
          let (pair, rest) ← flowPair? handles entry
          if rest.length < ts.length then
            let (entries, rest) ← flowEntries? handles false rest
            pure (pair :: entries, rest)
          else none
        else none
termination_by 8 * ts.length + 4
decreasing_by all_goals first
  | exact descend_of_lt ‹_› (by decide)
  | exact descend_of_le ‹_› (by decide)

/-- Reads an entry of a flow mapping, which may be a key alone. -/
def flowPair? (handles : Handles) (ts : List Lexeme) : Option ((Node × Node) × List Lexeme) :=
  match ts with
  | ⟨.key, _⟩ :: rest => do
      let (key, left) ← nodeUntil? handles false false endsFlowKey (startOf rest) rest
      if left.length ≤ rest.length then
        let (value, left) ← value? handles false endsFlowValue left
        pure ((key, value), left)
      else none
  | ts => do
      let (key, rest) ← node? handles false false ts
      pure ((key, empty (startOf rest)), rest)
termination_by 8 * ts.length + 3

end

/-! ## Documents -/

/-- Reads the directives of a document, with the meanings of the handles so far. -/
def directives? (versioned : Bool) (handles : Handles) :
    List Lexeme → Option (Handles × List Lexeme)
  | ⟨.version major minor, _⟩ :: ts =>
      if !versioned && major = 1 && (minor = 1 || minor = 2) then directives? true handles ts
      else none
  | ⟨.tagHandle handle meaning, _⟩ :: ts =>
      if (handles.lookup handle).isSome then none
      else directives? versioned (handles ++ [(handle, meaning)]) ts
  | ts => some (handles ++ defaultHandles, ts)

/-- Whether a token ends a document. -/
def endsDocument : Token → Bool
  | .version .. | .tagHandle .. | .documentStart | .documentEnd => true
  | _ => false

/-- Reads a document: a node behind a mark that starts the document, if it has directives or a mark, or
    else a node alone. -/
def document? (ts : List Lexeme) : Option (Node × List Lexeme) := do
  let (handles, rest) ← directives? false [] ts
  match rest with
  | ⟨.documentStart, _⟩ :: rest =>
      if rest = [] then pure (empty ⟨0, 0⟩, [])
      else nodeUntil? handles true false endsDocument (startOf rest) rest
  | rest => if rest.length < ts.length then none else node? handles true false rest

/-- The node of the first document of a text, and whether the text goes on behind it. -/
def ofLexemes? (ts : List Lexeme) : Option (Node × Bool) := do
  if ts = [] then pure (empty ⟨0, 0⟩, false)
  else
    let (node, rest) ← document? ts
    pure (node, rest.any (·.token ≠ .documentEnd))

end Node

end Yaml

end OpenApi
