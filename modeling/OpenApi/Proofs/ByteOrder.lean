import Mathlib.Data.String.Basic

set_option autoImplicit false

/-! # The order of texts is that of their octets

Texts are compared character by character. `lt_iff_octets_lt` says that comparing the octets of their
UTF-8 forms comes to the same: the forms of two different characters differ at some octet, and the
first such octet orders them as the characters are ordered. -/

namespace OpenApi

namespace Text

/-- The octets of a text in UTF-8. -/
def octets (s : String) : List UInt8 := s.toUTF8.data.toList

theorem octets_eq_flatMap (s : String) : octets s = s.toList.flatMap String.utf8EncodeChar := by
  unfold octets
  rw [String.toUTF8_eq_toByteArray, ← String.utf8Encode_toList, List.utf8Encode,
    List.toList_data_toByteArray]

/-- The octets of a smaller character are smaller, whatever follows on either side. -/
theorem encode_append_lt {c d : Char} (h : c < d) (xs ys : List UInt8) :
    String.utf8EncodeChar c ++ xs < String.utf8EncodeChar d ++ ys := by
  have hlt : c.val.toNat < d.val.toNat := UInt32.lt_iff_toNat_lt.1 h
  have hmax : d.val.toNat < 0x110000 := by
    rcases d.valid with hv | ⟨-, hv⟩ <;> omega
  unfold String.utf8EncodeChar
  generalize c.val.toNat = m at hlt ⊢
  generalize d.val.toNat = n at hlt hmax ⊢
  dsimp only
  -- a longer form begins with a greater octet, and in forms of one length the digits of the numbers
  -- to the base 64 are compared
  split_ifs <;>
    simp only [List.cons_append, List.nil_append, List.cons_lt_cons_iff, UInt8.lt_iff_toNat_lt,
      ← UInt8.toNat_inj, UInt8.toNat_ofNat'] <;>
    simp (disch := omega) only [Nat.mod_eq_of_lt] <;>
    omega

theorem flatMap_encode_lt {cs ds : List Char} (h : cs < ds) :
    cs.flatMap String.utf8EncodeChar < ds.flatMap String.utf8EncodeChar := by
  replace h := (List.lt_iff_lex_lt cs ds).1 h
  induction h with
  | @nil d ds =>
      obtain ⟨b, bs, hb⟩ := List.exists_cons_of_ne_nil (String.utf8EncodeChar_ne_nil (c := d))
      rw [List.flatMap_nil, List.flatMap_cons, hb]
      exact List.nil_lt_cons _ _
  | rel hcd =>
      rw [List.flatMap_cons, List.flatMap_cons]
      exact encode_append_lt hcd _ _
  | cons _ ih =>
      rw [List.flatMap_cons, List.flatMap_cons]
      exact List.append_left_lt ih

/-- A text comes before another exactly when its octets do. -/
theorem lt_iff_octets_lt {s t : String} : s < t ↔ octets s < octets t := by
  have hmono : ∀ {s t : String}, s < t → octets s < octets t := by
    intro s t h
    rw [octets_eq_flatMap, octets_eq_flatMap]
    exact flatMap_encode_lt (String.lt_iff_toList_lt.1 h)
  refine ⟨hmono, fun h => ?_⟩
  rcases Std.lt_trichotomy s t with hlt | rfl | hgt
  · exact hlt
  · exact absurd h (List.lt_irrefl _)
  · exact absurd h (List.lt_asymm (hmono hgt))

end Text

end OpenApi
