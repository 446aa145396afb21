import OpenApi.Number.Reading

set_option autoImplicit false

/-! # Tags of YAML nodes

A tag says what kind of value a node is. It consists of octets, which need not be the text of any string:
`Tag.octets?` reads octets written as percent signs with two hexadecimal digits, and asks only that they
come in groups that look like characters of UTF-8. Four tags name the common kinds of scalars. A local tag
starts with an exclamation mark, and has a name if the rest of it is a text. -/

namespace OpenApi

namespace Yaml

/-- A tag in full. -/
structure Tag where
  octets : List UInt8
  deriving DecidableEq, Repr, Inhabited

namespace Tag

/-- The tag that is written as a text. -/
def ofString (s : String) : Tag := ⟨s.toUTF8.toList⟩

/-- A tag behind the octets that its handle stands for. -/
def append (handle suffix : Tag) : Tag := ⟨handle.octets ++ suffix.octets⟩

/-! ## Kinds of tags -/

/-- What the tags of the common kinds start with. -/
def common : Tag := ofString "tag:yaml.org,2002:"

/-- The tag of a common kind. -/
def ofKind (kind : String) : Tag := common.append (ofString kind)

/-- The tag of booleans. -/
def bool : Tag := ofKind "bool"

/-- The tag of integers. -/
def int : Tag := ofKind "int"

/-- The tag of floats. -/
def float : Tag := ofKind "float"

/-- The tag of null. -/
def null : Tag := ofKind "null"

/-- The local tag without a name of its own. -/
def bang : Tag := ofString "!"

/-- Whether a tag has its meaning somewhere else. -/
def isLocal (t : Tag) : Bool := t.octets.head? = some 0x21

/-- The name that a local tag gives to a node, if its octets are a text. -/
def name? (t : Tag) : Option String :=
  if t = bang then some "!"
  else if t.isLocal then String.fromUTF8? ⟨t.octets.tail.toArray⟩
  else none

/-! ## Reading octets -/

/-- The number of octets that have to follow the first one of a group. -/
def following? (octet : UInt8) : Option Nat :=
  if octet < 0x80 then some 0
  else if octet < 0xC0 then none
  else if octet < 0xE0 then some 1
  else if octet < 0xF0 then some 2
  else if octet < 0xF8 then some 3
  else none

/-- The number of octets still to come in a group behind an octet, where `owed` were to come before
    it. -/
def owed? (owed : Nat) (octet : UInt8) : Option Nat :=
  match owed with
  | 0 => following? octet
  | owed + 1 => if 0x80 ≤ octet && octet < 0xC0 then some owed else none

/-- The octets of characters behind which `owed` escaped octets have to come. -/
def octetsFrom? (owed : Nat) : List Char → Option (List UInt8)
  | [] => if owed = 0 then some [] else none
  | '%' :: a :: b :: cs => do
      let octet := UInt8.ofNat (16 * (← hexDigit? a) + (← hexDigit? b))
      pure (octet :: (← octetsFrom? (← owed? owed octet) cs))
  | c :: cs =>
      if c = '%' ∨ owed ≠ 0 then none else do pure (UInt8.ofNat c.toNat :: (← octetsFrom? 0 cs))

/-- The octets that characters stand for, up to the first octet that is zero. The characters are ASCII. -/
def octets? (cs : List Char) : Option (List UInt8) :=
  (octetsFrom? 0 cs).map (·.takeWhile (· ≠ 0))

/-- The tag that characters stand for. -/
def ofChars? (cs : List Char) : Option Tag := (octets? cs).map Tag.mk

end Tag

end Yaml

end OpenApi
