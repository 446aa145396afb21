import OpenApi.Proofs.Tidy

set_option autoImplicit false

/-! # What a list of types is taken apart into

Several types under `type` become branches, and a keyword that is about one type only goes along with
the first branch of that type. `Divided` says where everything in the schema is then: what was written
under any keyword is still there, in the schema or in one of the branches, once and with its value.
`collapseTypes_divided` puts this together with the lists that name one type or none, and with what
null among the types means. -/

namespace OpenApi

namespace Dialect

variable {es out : Entries Json} {key : String}

/-! ## The keywords of one type -/

/-- The type that a keyword is about, if it is about one type only. -/
def keywordType? (key : String) : Option String :=
  if key ∈ ["items", "minItems", "maxItems", "uniqueItems"] then some "array"
  else if key ∈ ["properties", "required", "additionalProperties"] then some "object"
  else none

/-- The branch that a keyword goes along with: the first one of its type. -/
def home? (types : List Json) (key : String) : Option Nat :=
  (keywordType? key).bind fun name => types.findIdx? (isText name)

theorem isText_iff {name : String} {t : Json} : isText name t = true ↔ t = .string name := by
  cases t <;> simp [isText]

theorem mem_ownKeywords_iff {t : Json} :
    key ∈ ownKeywords t ↔ ∃ name, keywordType? key = some name ∧ isText name t = true := by
  constructor
  · intro h
    unfold ownKeywords at h
    split at h
    · next ht => exact ⟨"array", if_pos h, ht⟩
    · split at h
      · next ht =>
          have harray : key ∉ ["items", "minItems", "maxItems", "uniqueItems"] := by
            simp only [List.mem_cons, List.not_mem_nil, or_false] at h
            rcases h with rfl | rfl | rfl <;> decide
          exact ⟨"object", by rw [keywordType?, if_neg harray, if_pos h], ht⟩
      · cases h
  · rintro ⟨name, hname, ht⟩
    obtain rfl := isText_iff.1 ht
    unfold keywordType? at hname
    split at hname
    · next harray =>
        obtain rfl := Option.some.inj hname
        exact harray
    · split at hname
      · next hobject =>
          obtain rfl := Option.some.inj hname
          exact hobject
      · cases hname

theorem home?_nil (key : String) : home? [] key = none := by
  cases h : keywordType? key <;> simp [home?, h]

theorem home?_cons (t : Json) (types : List Json) (key : String) :
    home? (t :: types) key =
      if key ∈ ownKeywords t then some 0 else (home? types key).map (· + 1) := by
  cases h : keywordType? key with
  | none => simp [home?, mem_ownKeywords_iff, h]
  | some name => simp [home?, mem_ownKeywords_iff, h, List.findIdx?_cons]

/-! ## Taking keywords out -/

theorem takeKeys_rest_sublist (keys : List String) (es : Entries Json) :
    (takeKeys keys es).2.Sublist es := by
  induction keys generalizing es with
  | nil => exact List.Sublist.refl es
  | cons k keys ih =>
      unfold takeKeys
      split
      · exact (ih _).trans List.filter_sublist
      · exact ih es

theorem keys_takeKeys_sublist (keys : List String) (es : Entries Json) :
    (Entries.keys (takeKeys keys es).1).Sublist keys := by
  induction keys generalizing es with
  | nil => exact List.Sublist.refl []
  | cons k keys ih =>
      unfold takeKeys
      split
      · exact (ih _).cons_cons k
      · exact (ih es).cons k

/-! ## The branches -/

/-- The branches of a list of types, as maps. -/
def typeBranches : List Json → Entries Json → List (Entries Json)
  | [], _ => []
  | t :: types, es =>
      (("type", t) :: (takeKeys (ownKeywords t) es).1) ::
        typeBranches types (takeKeys (ownKeywords t) es).2

theorem splitBranches_branches (types : List Json) (es : Entries Json) :
    (splitBranches types es).1 = (typeBranches types es).map .object := by
  induction types generalizing es with
  | nil => rfl
  | cons t types ih => simp [splitBranches, typeBranches, ih]

theorem splitBranches_rest_sublist (types : List Json) (es : Entries Json) :
    (splitBranches types es).2.Sublist es := by
  induction types generalizing es with
  | nil => exact List.Sublist.refl es
  | cons t types ih => exact (ih _).trans (takeKeys_rest_sublist _ es)

theorem map_type_typeBranches (types : List Json) (es : Entries Json) :
    (typeBranches types es).map (Entries.get? · "type") = types.map some := by
  induction types generalizing es with
  | nil => rfl
  | cons t types ih => simp [typeBranches, ih]

theorem nodup_ownKeywords (t : Json) : ("type" :: ownKeywords t).Nodup := by
  unfold ownKeywords
  split
  · decide
  · split <;> decide

theorem nodup_keys_typeBranches {types : List Json} {b : Entries Json}
    (hb : b ∈ typeBranches types es) : (Entries.keys b).Nodup := by
  induction types generalizing es with
  | nil => cases hb
  | cons t types ih =>
      rcases List.mem_cons.1 hb with rfl | hb
      · exact (nodup_ownKeywords t).sublist ((keys_takeKeys_sublist _ es).cons_cons "type")
      · exact ih hb

/-- What the branches leave in the schema: the keywords that go along with none of them. -/
theorem get?_splitBranches_rest (types : List Json) (es : Entries Json) (key : String) :
    Entries.get? (splitBranches types es).2 key =
      if home? types key = none then es.get? key else none := by
  induction types generalizing es with
  | nil => simp [splitBranches, home?_nil]
  | cons t types ih =>
      rw [splitBranches, ih, home?_cons]
      by_cases hown : key ∈ ownKeywords t <;> simp [hown]

/-- What a branch has beside its type: the keywords that go along with it. -/
theorem get?_of_getElem?_typeBranches {types : List Json} {i : Nat} {b : Entries Json}
    (hb : (typeBranches types es)[i]? = some b) (hkey : key ≠ "type") :
    b.get? key = if home? types key = some i then es.get? key else none := by
  induction types generalizing es i with
  | nil => simp [typeBranches] at hb
  | cons t types ih =>
      rw [home?_cons]
      cases i with
      | zero =>
          obtain rfl := Option.some.inj hb
          rw [Entries.get?_cons, if_neg hkey]
          by_cases hown : key ∈ ownKeywords t <;> simp [hown]
      | succ i =>
          rw [ih hb]
          by_cases hown : key ∈ ownKeywords t <;> simp [hown]

/-- No keyword is lost or written twice when the branches are split off. -/
theorem flatMap_get?_typeBranches (types : List Json) (es : Entries Json) (hkey : key ≠ "type") :
    ((splitBranches types es).2 :: typeBranches types es).flatMap (fun part => (part.get? key).toList)
      = (es.get? key).toList := by
  induction types generalizing es with
  | nil => cases h : es.get? key <;> simp [splitBranches, typeBranches, h]
  | cons t types ih =>
      have hrest := ih (takeKeys (ownKeywords t) es).2
      simp only [List.flatMap_cons, splitBranches, typeBranches,
        Entries.get?_cons, if_neg hkey] at hrest ⊢
      by_cases hown : key ∈ ownKeywords t
      · rw [get?_takeKeys_rest, if_pos hown, Option.toList_none, List.append_eq_nil_iff] at hrest
        rw [hrest.1, hrest.2, get?_takeKeys_taken, if_pos hown, List.nil_append, List.append_nil]
      · rw [get?_takeKeys_taken, if_neg hown, Option.toList_none, List.nil_append, hrest,
          get?_takeKeys_rest, if_neg hown]

/-! ## Several types -/

/-- What is written under the keywords of a schema, when its types are divided into branches. -/
structure Divided (es : Entries Json) (types : List Json) (out : Entries Json)
    (branches : List (Entries Json)) : Prop where
  /-- The branches are one for each type, in order. -/
  branchTypes : branches.map (Entries.get? · "type") = types.map some
  /-- No branch repeats a keyword. -/
  nodup : ∀ b ∈ branches, (Entries.keys b).Nodup
  /-- The list of types is gone. -/
  type : out.get? "type" = none
  /-- A schema without alternatives of its own has the branches as its alternatives. -/
  alternatives : es.get? "anyOf" = none →
    out.get? "anyOf" = some (.array (branches.map .object)) ∧ out.get? "allOf" = es.get? "allOf"
  /-- A schema with alternatives of its own keeps them and requires one of the branches at last. -/
  required : ∀ v, es.get? "anyOf" = some v → out.get? "anyOf" = some v ∧
    out.get? "allOf" = some (.array (itemsOf (es.get? "allOf") ++
      [.object [("anyOf", .array (branches.map .object))]]))
  /-- A keyword that goes along with no branch is where it was. -/
  inPlace : ∀ key ∉ ["type", "anyOf", "allOf", "nullable"],
    out.get? key = if home? types key = none then es.get? key else none
  /-- A branch has the keywords that go along with it, beside its type. -/
  moved : ∀ i b, branches[i]? = some b → ∀ key ≠ "type",
    b.get? key = if home? types key = some i then es.get? key else none
  /-- Every value is somewhere, and nowhere else. -/
  once : ∀ key ∉ ["type", "anyOf", "allOf", "nullable"],
    (out :: branches).flatMap (fun part => (part.get? key).toList) = (es.get? key).toList

theorem Divided.congr {types : List Json} {out' : Entries Json} {branches : List (Entries Json)}
    (h : Divided es types out branches)
    (hout : ∀ key, key ≠ "nullable" → out'.get? key = out.get? key) :
    Divided es types out' branches where
  branchTypes := h.branchTypes
  nodup := h.nodup
  type := (hout _ (by decide)).trans h.type
  alternatives hany := by
    rw [hout _ (by decide), hout _ (by decide)]
    exact h.alternatives hany
  required v hany := by
    rw [hout _ (by decide), hout _ (by decide)]
    exact h.required v hany
  inPlace key hkey := by
    rw [hout key (by simp_all)]
    exact h.inPlace key hkey
  moved := h.moved
  once key hkey := by
    rw [List.flatMap_cons, hout key (by simp_all)]
    exact h.once key hkey

/-- The keywords that no type takes along. -/
theorem home?_eq_none (types : List Json) (hkey : keywordType? key = none) :
    home? types key = none := by
  rw [home?, hkey, Option.bind_none]

/-- Requiring one of the branches leaves all other keywords alone. -/
theorem get?_addBranches {key : String} (hany : key ≠ "anyOf") (hall : key ≠ "allOf")
    (branches : List Json) (es : Entries Json) :
    Entries.get? (addBranches branches es) key = es.get? key := by
  unfold addBranches
  split
  · simp [hall]
  · simp [hany]

theorem nodup_keys_addBranches (h : (Entries.keys es).Nodup) (branches : List Json) :
    (Entries.keys (addBranches branches es)).Nodup := by
  unfold addBranches
  split
  · refine Entries.nodup_keys_append_singleton (Entries.nodup_keys_erase h _) ?_ _
    rw [← Entries.get?_eq_none_iff, Entries.get?_erase, if_pos rfl]
  · next hany =>
      refine Entries.nodup_keys_append_singleton h ?_ _
      rwa [← Entries.get?_eq_none_iff, ← Option.not_isSome_iff_eq_none]

theorem setTypes_of_two_le {types : List Json} (h : 2 ≤ types.length) (es : Entries Json) :
    setTypes types es =
      addBranches ((typeBranches types (es.erase "type")).map .object)
        (splitBranches types (es.erase "type")).2 := by
  match types, h with
  | t :: u :: types, _ =>
      rw [← splitBranches_branches]
      rfl

theorem divided_setTypes {types : List Json} (h : 2 ≤ types.length) (es : Entries Json) :
    Divided es types (setTypes types es) (typeBranches types (es.erase "type")) := by
  rw [setTypes_of_two_le h]
  have herase : ∀ key ≠ "type", Entries.get? (es.erase "type") key = es.get? key :=
    fun key hkey => by rw [Entries.get?_erase, if_neg hkey]
  have hrest : ∀ key ≠ "type", Entries.get? (splitBranches types (es.erase "type")).2 key =
      if home? types key = none then es.get? key else none :=
    fun key hkey => by rw [get?_splitBranches_rest, herase key hkey]
  have hany : Entries.get? (splitBranches types (es.erase "type")).2 "anyOf" = es.get? "anyOf" :=
    (hrest _ (by decide)).trans (if_pos (home?_eq_none types (by decide)))
  have hall : Entries.get? (splitBranches types (es.erase "type")).2 "allOf" = es.get? "allOf" :=
    (hrest _ (by decide)).trans (if_pos (home?_eq_none types (by decide)))
  refine ⟨map_type_typeBranches _ _, fun b hb => nodup_keys_typeBranches hb, ?_, ?_, ?_, ?_, ?_, ?_⟩
  · rw [get?_addBranches (by decide) (by decide), get?_splitBranches_rest, Entries.get?_erase,
      if_pos rfl, ite_self]
  · intro hnone
    have hhas : Entries.has (splitBranches types (es.erase "type")).2 "anyOf" = false := by
      rw [Entries.has, hany, hnone]
      rfl
    simp [addBranches, hhas, hany, hall, hnone]
  · intro v hv
    have hhas : Entries.has (splitBranches types (es.erase "type")).2 "anyOf" = true := by
      rw [Entries.has, hany, hv]
      rfl
    simp [addBranches, hhas, hany, hall, hv]
  · intro key hkey
    simp only [List.mem_cons, List.not_mem_nil, or_false, not_or] at hkey
    rw [get?_addBranches hkey.2.1 hkey.2.2.1, hrest key hkey.1]
  · intro i b hb key hkey
    rw [get?_of_getElem?_typeBranches hb hkey, herase key hkey]
  · intro key hkey
    simp only [List.mem_cons, List.not_mem_nil, or_false, not_or] at hkey
    have honce := flatMap_get?_typeBranches types (es.erase "type") hkey.1
    rw [List.flatMap_cons] at honce ⊢
    rw [get?_addBranches hkey.2.1 hkey.2.2.1, honce, herase key hkey.1]

/-! ## Any list of types -/

theorem nodup_keys_setTypes (h : (Entries.keys es).Nodup) (types : List Json) :
    (Entries.keys (setTypes types es)).Nodup := by
  unfold setTypes
  split
  · exact Entries.nodup_keys_put h _ _
  · exact Entries.nodup_keys_put h _ _
  · refine nodup_keys_addBranches ?_ _
    exact Entries.nodup_keys_of_sublist (Entries.nodup_keys_erase h _)
      (splitBranches_rest_sublist _ _)

/-- At most one type takes the place of the list and moves nothing. -/
theorem get?_setTypes_of_length_le {types : List Json} (h : types.length ≤ 1) (hkey : key ≠ "type")
    (es : Entries Json) : Entries.get? (setTypes types es) key = es.get? key := by
  match types, h with
  | [], _ => exact Entries.get?_put_of_ne hkey _ _
  | [t], _ => exact Entries.get?_put_of_ne hkey _ _

theorem get?_nullable_setTypes (types : List Json) (es : Entries Json) :
    Entries.get? (setTypes types es) "nullable" = es.get? "nullable" := by
  by_cases h : types.length ≤ 1
  · exact get?_setTypes_of_length_le h (by decide) es
  · rw [setTypes_of_two_le (Nat.lt_of_not_le h), get?_addBranches (by decide) (by decide),
      get?_splitBranches_rest, if_pos (home?_eq_none _ (by decide)), Entries.get?_erase,
      if_neg (by decide)]

/-- Taking a list of types apart loses nothing. No keyword is repeated, and the schema is nullable when
    null is among the types, and otherwise as it was. No other type leaves null as the type, and one
    other type takes the place of the list; no other keyword changes then. Several other types are
    divided into branches. -/
theorem collapseTypes_divided {types kept : List Json} (hes : (Entries.keys es).Nodup)
    (htypes : es.get? "type" = some (.array types))
    (hkept : types.filter (!isText "null" ·) = kept) :
    (Entries.keys (collapseTypes es)).Nodup ∧
      Entries.get? (collapseTypes es) "nullable" =
        (if types.any (isText "null") then some (.bool true) else es.get? "nullable") ∧
      (kept = [] → Entries.get? (collapseTypes es) "type" = some (.string "null")) ∧
      (∀ t, kept = [t] → Entries.get? (collapseTypes es) "type" = some t) ∧
      (kept.length ≤ 1 → ∀ key ∉ ["type", "nullable"],
        Entries.get? (collapseTypes es) key = es.get? key) ∧
      (2 ≤ kept.length → ∃ branches, Divided es kept (collapseTypes es) branches) := by
  have hout : collapseTypes es =
      if types.any (isText "null") then setNullable (setTypes kept es) else setTypes kept es := by
    simp only [collapseTypes, htypes, hkept]
  have hsame : ∀ key, key ≠ "nullable" →
      Entries.get? (collapseTypes es) key = Entries.get? (setTypes kept es) key := by
    intro key hkey
    rw [hout]
    split
    · exact get?_setNullable_of_ne hkey _
    · rfl
  refine ⟨?_, ?_, ?_, ?_, fun hle key hkey => ?_, fun htwo => ?_⟩
  · have hnodup := nodup_keys_setTypes hes kept
    rw [hout]
    split
    · exact Entries.nodup_keys_put hnodup _ _
    · exact hnodup
  · rw [hout]
    split
    · exact Entries.get?_put_self _ _ _
    · exact get?_nullable_setTypes kept es
  · rintro rfl
    rw [hsame _ (by decide)]
    exact Entries.get?_put_self _ _ _
  · rintro t rfl
    rw [hsame _ (by decide)]
    exact Entries.get?_put_self _ _ _
  · simp only [List.mem_cons, List.not_mem_nil, or_false, not_or] at hkey
    rw [hsame key hkey.2, get?_setTypes_of_length_le hle hkey.1]
  · exact ⟨_, (divided_setTypes htwo es).congr hsame⟩

/-- A schema for a page of items that may be null, with alternatives of its own. -/
def pageSchema : Entries Json :=
  [("items", .object []),
    ("type", .array [.string "object", .string "array", .string "null", .string "array"]),
    ("description", .string "D"), ("anyOf", .array [.object []]), ("required", .array []),
    ("allOf", .array [.object []])]

/-- The types of the page are divided into three branches: what it requires goes along with the first,
    its items go along with the second, and the third has its type alone. -/
theorem collapseTypes_divided_pageSchema :
    (Entries.keys pageSchema).Nodup ∧
      pageSchema.get? "type" =
        some (.array [.string "object", .string "array", .string "null", .string "array"]) ∧
      ∃ branches, Divided pageSchema [.string "object", .string "array", .string "array"]
          (collapseTypes pageSchema) branches ∧
        Entries.get? (collapseTypes pageSchema) "nullable" = some (.bool true) ∧
        ∀ b, branches[1]? = some b → b.get? "items" = some (.object []) := by
  have hnodup : (Entries.keys pageSchema).Nodup := by decide
  have htypes : pageSchema.get? "type" =
      some (.array [.string "object", .string "array", .string "null", .string "array"]) := rfl
  obtain ⟨-, hnullable, -, -, -, hdivided⟩ := collapseTypes_divided hnodup htypes rfl
  obtain ⟨branches, h⟩ := hdivided (by decide)
  refine ⟨hnodup, htypes, branches, h, hnullable, fun b hb => ?_⟩
  rw [h.moved 1 b hb "items" (by decide)]
  rfl

end Dialect
end OpenApi
