import OpenApi.Proofs.Internal

set_option autoImplicit false

/-! # Documents that settle

`Tidy` is a condition on one map of a document as written: a list under `type` is not empty and holds
no list, and a branch that is hoisted is `Plain` itself. A document that is tidy everywhere is
normalized into the internal dialect, since the values that normalization comes by are tidy
everywhere again (`everywhere_tidy_of_part`) and a tidy map settles (`Tidy.settles`). -/

namespace OpenApi

namespace Dialect

variable {es inner : Entries Json} {key other : String} {v w : Json}

/-! ## Lookups in a collapsed map -/

theorem get?_hoist (inner es : Entries Json) (key : String) :
    Entries.get? (hoist (.object inner) es) key = (es.get? key).or (inner.get? key) := by
  simp only [hoist]
  induction inner generalizing es with
  | nil => simp
  | cons e inner ih =>
      rw [List.foldl_cons, ih, Entries.get?_putNew, Entries.get?_cons, Option.or_assoc]
      split <;> rfl

@[simp] theorem get?_takeKeys_rest (keys : List String) (es : Entries Json) (key : String) :
    Entries.get? (takeKeys keys es).2 key = if key ∈ keys then none else es.get? key := by
  induction keys generalizing es with
  | nil => simp [takeKeys]
  | cons k keys ih =>
      unfold takeKeys
      by_cases hk : key = k
      · subst hk
        split
        · simp [ih]
        · next hnone => simp [ih, hnone]
      · split <;> simp [ih, hk]

@[simp] theorem get?_takeKeys_taken (keys : List String) (es : Entries Json) (key : String) :
    Entries.get? (takeKeys keys es).1 key = if key ∈ keys then es.get? key else none := by
  induction keys generalizing es with
  | nil => simp [takeKeys]
  | cons k keys ih =>
      unfold takeKeys
      by_cases hk : key = k
      · subst hk
        split
        · next hv => simp [hv]
        · next hnone => simp [ih, hnone]
      · split <;> simp [ih, hk]

theorem get?_splitBranches (h : ∀ t, key ∉ ownKeywords t) (ts : List Json) (es : Entries Json) :
    Entries.get? (splitBranches ts es).2 key = es.get? key := by
  induction ts generalizing es with
  | nil => rfl
  | cons t ts ih => rw [splitBranches, ih, get?_takeKeys_rest, if_neg (h t)]

/-- The keywords that `collapseTypes` never writes. -/
theorem get?_collapseTypes (hown : ∀ t, key ∉ ownKeywords t)
    (hk : key ∉ ["type", "anyOf", "allOf", "nullable"]) (es : Entries Json) :
    Entries.get? (collapseTypes es) key = es.get? key := by
  simp only [List.mem_cons, List.not_mem_nil, or_false, not_or] at hk
  obtain ⟨htype, hany, hall, hnull⟩ := hk
  have hset : ∀ ts, Entries.get? (setTypes ts es) key = es.get? key := by
    intro ts
    unfold setTypes
    split
    · exact Entries.get?_put_of_ne htype _ _
    · exact Entries.get?_put_of_ne htype _ _
    · simp only [addBranches]
      split
      · simp [get?_splitBranches hown, hall, htype]
      · simp [get?_splitBranches hown, hany, htype]
  simp only [collapseTypes]
  split
  · split
    · rw [get?_setNullable_of_ne hnull, hset]
    · exact hset _
  · rfl

theorem not_mem_ownKeywords (h : key ∉ ["items", "minItems", "maxItems", "uniqueItems",
    "properties", "required", "additionalProperties"]) (t : Json) : key ∉ ownKeywords t := by
  simp only [List.mem_cons, List.not_mem_nil, or_false, not_or] at h
  unfold ownKeywords
  split
  · simp [h]
  · split <;> simp [h]

/-! ## Tidy maps -/

/-- The branch of a union that is hoisted: the only one beside null branches. -/
def hoisted? (key : String) (es : Entries Json) : Option (Entries Json) :=
  if hasBranch isNullSchema key es then
    match (itemsOf (es.get? key)).filter (!isNullSchema ·) with
    | [.object inner] => some inner
    | _ => none
  else none

/-- Whether a list under `type` names a type and holds no list. -/
def namesTypes (es : Entries Json) : Bool :=
  match es.get? "type" with
  | some (.array types) => !types.isEmpty && types.all (!isList ·)
  | _ => true

/-- A map that settles, by what is written in it. -/
structure Tidy (es : Entries Json) : Prop where
  /-- A list of types names a type and holds no list. -/
  types : namesTypes es = true
  /-- What is hoisted out of the `anyOf` brings nothing to collapse along. -/
  anyOf : ∀ inner ∈ hoisted? "anyOf" es, Plain inner
  /-- What is hoisted out of the `oneOf` brings nothing to collapse along. -/
  oneOf : ∀ inner ∈ hoisted? "oneOf" es, Plain inner

instance : DecidablePred Tidy := fun es =>
  decidable_of_iff (namesTypes es = true ∧ (∀ inner ∈ hoisted? "anyOf" es, Plain inner) ∧
      ∀ inner ∈ hoisted? "oneOf" es, Plain inner)
    ⟨fun ⟨ht, ha, ho⟩ => ⟨ht, ha, ho⟩, fun h => ⟨h.types, h.anyOf, h.oneOf⟩⟩

theorem hoisted?_eq_none (h : hasBranch isNullSchema key es = false) : hoisted? key es = none := by
  simp [hoisted?, h]

theorem hoisted?_congr (h : es.get? key = inner.get? key) : hoisted? key es = hoisted? key inner := by
  simp [hoisted?, hasBranch, h]

/-! ### What the first rule leaves -/

/-- The branch of a type list that is no text for null is no null schema. -/
theorem isNullSchema_of_mem_splitBranches {ts : List Json} (h : ∀ t ∈ ts, isText "null" t = false)
    {b : Json} (hb : b ∈ (splitBranches ts es).1) : isNullSchema b = false := by
  induction ts generalizing es with
  | nil => simp [splitBranches] at hb
  | cons t ts ih =>
      simp only [splitBranches, List.mem_cons] at hb
      rcases hb with rfl | hb
      · simp [isNullSchema, h t List.mem_cons_self]
      · exact ih (fun u hu => h u (List.mem_cons_of_mem _ hu)) hb

/-- The `anyOf` of a map after the first rule has the branches it had, or no null branch. -/
theorem get?_anyOf_collapseTypes (es : Entries Json) :
    Entries.get? (collapseTypes es) "anyOf" = es.get? "anyOf" ∨
      hasBranch isNullSchema "anyOf" (collapseTypes es) = false := by
  have hset : ∀ ts, (∀ t ∈ ts, isText "null" t = false) →
      Entries.get? (setTypes ts es) "anyOf" = es.get? "anyOf" ∨
        hasBranch isNullSchema "anyOf" (setTypes ts es) = false := by
    intro ts hts
    have hrest : Entries.get? (splitBranches ts (es.erase "type")).2 "anyOf"
        = es.get? "anyOf" := by
      rw [get?_splitBranches (not_mem_ownKeywords (by decide)), Entries.get?_erase,
        if_neg (by decide)]
    unfold setTypes
    split
    · exact .inl (Entries.get?_put_of_ne (by decide) _ _)
    · exact .inl (Entries.get?_put_of_ne (by decide) _ _)
    · simp only [addBranches]
      split
      · left
        rw [Entries.get?_append, Entries.get?_erase, if_neg (by decide), hrest, Entries.get?_cons,
          if_neg (show "anyOf" ≠ "allOf" by decide), Entries.get?_nil, Option.or_none]
      · next hno =>
          right
          rw [Entries.has, hrest] at hno
          rw [hasBranch, Entries.get?_append, hrest, Option.not_isSome_iff_eq_none.1 hno]
          simp only [Entries.get?_cons, if_true, Option.none_or, itemsOf]
          exact List.any_eq_false.2 fun b hb => by
            simp [isNullSchema_of_mem_splitBranches hts hb]
  simp only [collapseTypes]
  split
  · next types _ =>
      have hts : ∀ t ∈ types.filter (!isText "null" ·), isText "null" t = false := by
        simp
      split
      · rw [hasBranch, get?_setNullable_of_ne (by decide), ← hasBranch.eq_1]
        exact hset _ hts
      · exact hset _ hts
  · exact .inl rfl

theorem hasTypeList_collapseTypes (h : namesTypes es = true) :
    hasTypeList (collapseTypes es) = false := by
  have hset : ∀ ts : List Json, (∀ t ∈ ts, isList t = false) →
      hasTypeList (setTypes ts es) = false := by
    intro ts hts
    unfold setTypes hasTypeList
    split
    · simp [isList]
    · simp [hts]
    · simp only [addBranches]
      split <;>
        simp [get?_splitBranches (not_mem_ownKeywords (show "type" ∉ _ by decide))]
  unfold namesTypes at h
  simp only [collapseTypes]
  split
  · next types ht =>
      have hts : ∀ t ∈ types.filter (!isText "null" ·), isList t = false := by
        simp only [ht, Bool.and_eq_true, List.all_eq_true, Bool.not_eq_true'] at h
        exact fun t ht => h.2 t (List.mem_filter.1 ht).1
      split
      · rw [hasTypeList, get?_setNullable_of_ne (by decide), ← hasTypeList.eq_1]
        exact hset _ hts
      · exact hset _ hts
  · next ht =>
      cases hget : es.get? "type" with
      | none => simp [hasTypeList, hget]
      | some t => cases t <;> simp_all [hasTypeList, isList]

/-! ### What the second rule leaves -/

/-- Besides its own union the second rule touches `type` and what is hoisted. -/
theorem get?_collapseNullBranches (hk : other ≠ key) (hn : other ≠ "nullable")
    (es : Entries Json) :
    Entries.get? (collapseNullBranches key es) other = es.get? other ∨
      (other = "type" ∧
        Entries.get? (collapseNullBranches key es) other = some (.string "null")) ∨
      ∃ inner ∈ hoisted? key es,
        Entries.get? (collapseNullBranches key es) other
          = (es.get? other).or (inner.get? other) := by
  unfold collapseNullBranches
  split
  · next branches hb =>
      split
      · next hany =>
          have hsame : Entries.get? ((setNullable es).erase key) other = es.get? other := by
            rw [Entries.get?_erase, if_neg hk, get?_setNullable_of_ne hn]
          have hbranch : hasBranch isNullSchema key es = true := by rwa [hasBranch, hb, itemsOf]
          unfold setBranches
          split
          · by_cases ht : other = "type"
            · exact .inr (.inl ⟨ht, ht ▸ Entries.get?_put_self _ _ _⟩)
            · exact .inl ((Entries.get?_put_of_ne ht _ _).trans hsame)
          · next b hrest =>
              cases b with
              | object inner =>
                  refine .inr (.inr ⟨inner, ?_, ?_⟩)
                  · simp [hoisted?, hbranch, hb, itemsOf, hrest]
                  · rw [get?_hoist, hsame]
              | _ => exact .inl hsame
          · exact .inl ((Entries.get?_put_of_ne hk _ _).trans (get?_setNullable_of_ne hn es))
      · exact .inl rfl
  · exact .inl rfl

/-- A union has no null branch once the second rule was applied to it. -/
theorem hasBranch_collapseNullBranches (hk : key ≠ "type")
    (hin : ∀ inner ∈ hoisted? key es, hasBranch isNullSchema key inner = false) :
    hasBranch isNullSchema key (collapseNullBranches key es) = false := by
  by_cases hbranch : hasBranch isNullSchema key es = true
  · obtain ⟨branches, hb⟩ : ∃ branches, es.get? key = some (.array branches) := by
      unfold hasBranch itemsOf at hbranch
      split at hbranch
      · next hb => exact ⟨_, hb⟩
      · simp at hbranch
    have hany : branches.any isNullSchema = true := by rwa [hasBranch, hb, itemsOf] at hbranch
    have hgone : Entries.get? ((setNullable es).erase key) key = none := by
      rw [Entries.get?_erase, if_pos rfl]
    simp only [collapseNullBranches, hb, hany, if_true]
    unfold setBranches
    split
    · rw [hasBranch, Entries.get?_put_of_ne hk, hgone]
      rfl
    · next b hrest =>
        cases b with
        | object inner =>
            have := hin inner (by simp [hoisted?, hbranch, hb, itemsOf, hrest])
            rwa [hasBranch, get?_hoist, hgone, Option.none_or]
        | _ =>
            rw [hasBranch, hoist, hgone]
            · rfl
            · simp
    · rw [hasBranch, Entries.get?_put_self, itemsOf]
      simp
  · have hbranch := Bool.not_eq_true _ ▸ hbranch
    rwa [collapseNullBranches_of_no_branch hbranch]

theorem hasTypeList_collapseNullBranches (hk : "type" ≠ key)
    (hin : ∀ inner ∈ hoisted? key es, Plain inner) (h : hasTypeList es = false) :
    hasTypeList (collapseNullBranches key es) = false := by
  rcases get?_collapseNullBranches hk (by decide) es with heq | ⟨-, heq⟩ | ⟨inner, hmem, heq⟩
  · rwa [hasTypeList, heq]
  · rw [hasTypeList, heq]
    rfl
  · have hinner := (hin inner hmem).types
    unfold hasTypeList at h hinner ⊢
    rw [heq]
    cases hget : es.get? "type" with
    | none => simpa using hinner
    | some t => simpa [hget] using h

/-- The other union keeps its branches, or has those of what is hoisted. -/
theorem get?_union_collapseNullBranches (key other : String) (hk : other ≠ key)
    (hn : other ≠ "nullable") (ht : other ≠ "type") (es : Entries Json) :
    Entries.get? (collapseNullBranches key es) other = es.get? other ∨
      ∃ inner ∈ hoisted? key es,
        Entries.get? (collapseNullBranches key es) other = inner.get? other := by
  rcases get?_collapseNullBranches hk hn es with heq | ⟨htype, -⟩ | ⟨inner, hmem, heq⟩
  · exact .inl heq
  · exact absurd htype ht
  · cases hget : es.get? other with
    | none => exact .inr ⟨inner, hmem, by rw [heq, hget, Option.none_or]⟩
    | some v => exact .inl (by rw [heq, hget, Option.some_or])

/-! ### Both rules -/

theorem Tidy.plain (h : Tidy es) : Plain (collapse es) := by
  -- what is hoisted out of a union is what was written there
  have hany : ∀ inner ∈ hoisted? "anyOf" (collapseTypes es), Plain inner := by
    rcases get?_anyOf_collapseTypes es with heq | hno
    · rw [hoisted?_congr heq]
      exact h.anyOf
    · simp [hoisted?_eq_none hno]
  have hone : Entries.get? (collapseTypes es) "oneOf" = es.get? "oneOf" :=
    get?_collapseTypes (not_mem_ownKeywords (by decide)) (by decide) es
  have hone' : ∀ inner ∈ hoisted? "oneOf" (collapseNullBranches "anyOf" (collapseTypes es)),
      Plain inner := by
    rcases get?_union_collapseNullBranches "anyOf" "oneOf" (by decide) (by decide)
      (by decide) (collapseTypes es) with heq | ⟨inner, hmem, heq⟩
    · rw [hoisted?_congr (heq.trans hone)]
      exact h.oneOf
    · rw [hoisted?_congr heq, hoisted?_eq_none (hany inner hmem).oneOf]
      simp
  refine ⟨?_, ?_, ?_⟩
  · exact hasTypeList_collapseNullBranches (by decide) hone'
      (hasTypeList_collapseNullBranches (by decide) hany (hasTypeList_collapseTypes h.types))
  · have hnone : hasBranch isNullSchema "anyOf" (collapseNullBranches "anyOf" (collapseTypes es))
        = false :=
      hasBranch_collapseNullBranches (by decide) fun inner hmem => (hany inner hmem).anyOf
    rcases get?_union_collapseNullBranches "oneOf" "anyOf" (by decide) (by decide)
      (by decide) (collapseNullBranches "anyOf" (collapseTypes es))
      with heq | ⟨inner, hmem, heq⟩
    · rwa [collapse, hasBranch, heq]
    · rw [collapse, hasBranch, heq]
      exact (hone' inner hmem).anyOf
  · exact hasBranch_collapseNullBranches (by decide) fun inner hmem => (hone' inner hmem).oneOf

/-! ## What is below a collapsed map -/

/-- Every member has the property. -/
def Members (Q : String → Json → Prop) (es : Entries Json) : Prop := ∀ key v, (key, v) ∈ es → Q key v

section

variable {Q : String → Json → Prop}

theorem Members.get? (h : Members Q es) (hv : es.get? key = some v) : Q key v :=
  h key v (Entries.mem_of_get? hv)

theorem Members.append (h : Members Q es) (h' : Members Q inner) : Members Q (es ++ inner) :=
  fun k u hu => (List.mem_append.1 hu).elim (h k u) (h' k u)

theorem members_singleton (hv : Q key v) : Members Q [(key, v)] := by
  rintro k u hu
  obtain ⟨rfl, rfl⟩ := Prod.mk.inj (List.mem_singleton.1 hu)
  exact hv

theorem Members.put (hv : Q key v) (h : Members Q es) : Members Q (es.put key v) := by
  induction es with
  | nil => exact members_singleton hv
  | cons e es ih =>
      have hrest : Members Q es := fun k u hu => h k u (List.mem_cons_of_mem _ hu)
      have hhead : Q e.1 e.2 := h e.1 e.2 List.mem_cons_self
      rw [Entries.put]
      split
      · exact (members_singleton hv).append hrest
      · exact (members_singleton hhead).append (ih hrest)

theorem Members.erase (h : Members Q es) (key : String) : Members Q (es.erase key) :=
  fun k u hu => h k u (List.mem_filter.1 hu).1

theorem Members.putNew (hv : Q key v) (h : Members Q es) :
    Members Q (Entries.putNew key v es) := by
  unfold Entries.putNew
  split
  · exact h
  · exact h.append (members_singleton hv)

theorem Members.hoist (h : Members Q es) (hi : Members Q inner) :
    Members Q (hoist (.object inner) es) := by
  simp only [Dialect.hoist]
  induction inner generalizing es with
  | nil => exact h
  | cons e inner ih =>
      exact ih (h.putNew (hi e.1 e.2 List.mem_cons_self))
        fun k u hu => hi k u (List.mem_cons_of_mem _ hu)

theorem Members.takeKeys (h : Members Q es) (keys : List String) :
    Members Q (takeKeys keys es).1 ∧ Members Q (takeKeys keys es).2 := by
  induction keys generalizing es with
  | nil => exact ⟨fun k u hu => by simp [Dialect.takeKeys] at hu, h⟩
  | cons k keys ih =>
      unfold Dialect.takeKeys
      split
      · next v hv =>
          obtain ⟨htaken, hrest⟩ := ih (h.erase k)
          exact ⟨(members_singleton (h.get? hv)).append htaken, hrest⟩
      · exact ih h

end

/-- Everything below the member is tidy. -/
def TidyBelow (key : String) (v : Json) : Prop := ∀ w, Under key v w → Everywhere Tidy w

theorem everywhere_tidy_object :
    Everywhere Tidy (.object es) ↔ Tidy es ∧ Members TidyBelow es := everywhere_object

theorem tidyBelow_value (hl : isLiteralKey key = false)
    (hv : isNameMap key = true → ∀ named, v ≠ .object named) :
    TidyBelow key v ↔ Everywhere Tidy v := by
  simp [TidyBelow, under_value_iff hl hv]

theorem tidyBelow_array {xs : List Json} (hl : isLiteralKey key = false) :
    TidyBelow key (.array xs) ↔ ∀ x ∈ xs, Everywhere Tidy x := by
  rw [tidyBelow_value hl fun _ _ h => (by cases h), everywhere_array]

/-- Under a keyword stand neither literals nor a map from names. -/
theorem tidyBelow_keyword (hk : key ∈ keywords) : TidyBelow key v ↔ Everywhere Tidy v :=
  tidyBelow_value (isLiteralKey_keyword hk) fun hn => by simp [isNameMap_keyword hk] at hn

theorem everywhere_tidy_text (s : String) : Everywhere Tidy (.string s) :=
  everywhere_scalar (by simp) (by simp)

theorem tidyBelow_null : TidyBelow "type" (.string "null") :=
  (tidyBelow_keyword (by decide)).2 (everywhere_tidy_text _)

theorem members_setNullable (h : Members TidyBelow es) : Members TidyBelow (setNullable es) :=
  h.put ((tidyBelow_keyword (by decide)).2
    (everywhere_scalar (by simp) (by simp)))

/-- A branch of a type list is tidy: it has no list of types and no union. -/
theorem tidy_typeBranch {t : Json} (ht : isList t = false) :
    Tidy (("type", t) :: (takeKeys (ownKeywords t) es).1) := by
  have hnone : ∀ key, key ≠ "type" → key ∉ ownKeywords t →
      Entries.get? (("type", t) :: (takeKeys (ownKeywords t) es).1) key = none := by
    intro key hk hown
    rw [Entries.get?_cons, if_neg hk, get?_takeKeys_taken, if_neg hown]
  refine ⟨?_, ?_, ?_⟩
  · rw [namesTypes, Entries.get?_cons, if_pos rfl]
    cases t <;> simp_all [isList]
  · rw [hoisted?_eq_none]
    · simp
    · rw [hasBranch, hnone "anyOf" (by decide) (not_mem_ownKeywords (by decide) t)]
      rfl
  · rw [hoisted?_eq_none]
    · simp
    · rw [hasBranch, hnone "oneOf" (by decide) (not_mem_ownKeywords (by decide) t)]
      rfl

theorem members_splitBranches {ts : List Json} (h : Members TidyBelow es)
    (hts : ∀ t ∈ ts, isList t = false ∧ Everywhere Tidy t) :
    (∀ b ∈ (splitBranches ts es).1, Everywhere Tidy b) ∧
      Members TidyBelow (splitBranches ts es).2 := by
  induction ts generalizing es with
  | nil => exact ⟨by simp [splitBranches], h⟩
  | cons t ts ih =>
      obtain ⟨hlist, ht⟩ := hts t List.mem_cons_self
      obtain ⟨htaken, hrest⟩ := h.takeKeys (ownKeywords t)
      obtain ⟨hbranches, hmembers⟩ := ih hrest fun u hu => hts u (List.mem_cons_of_mem _ hu)
      refine ⟨fun b hb => ?_, hmembers⟩
      simp only [splitBranches, List.mem_cons] at hb
      rcases hb with rfl | hb
      · refine everywhere_tidy_object.2 ⟨tidy_typeBranch hlist, ?_⟩
        refine Members.append (members_singleton ?_) htaken
        exact (tidyBelow_keyword (by decide)).2 ht
      · exact hbranches b hb

/-- The schema that requires one of the branches of a type list is tidy: none of them is null. -/
theorem everywhere_tidy_branches {branches : List Json} (hb : ∀ b ∈ branches, Everywhere Tidy b)
    (hnull : ∀ b ∈ branches, isNullSchema b = false) :
    Everywhere Tidy (.object [("anyOf", .array branches)]) := by
  refine everywhere_tidy_object.2 ⟨⟨rfl, ?_, ?_⟩, members_singleton ?_⟩
  · rw [hoisted?_eq_none]
    · simp
    · exact List.any_eq_false.2 fun b hb => by simp [hnull b hb]
  · rw [hoisted?_eq_none]
    · simp
    · rfl
  · exact (tidyBelow_array (isLiteralKey_keyword (by decide))).2 hb

theorem members_addBranches {branches : List Json} (h : Members TidyBelow es)
    (hb : ∀ b ∈ branches, Everywhere Tidy b) (hnull : ∀ b ∈ branches, isNullSchema b = false) :
    Members TidyBelow (addBranches branches es) := by
  unfold addBranches
  split
  · refine (h.erase "allOf").append (members_singleton ?_)
    refine (tidyBelow_array (isLiteralKey_keyword (by decide))).2 ?_
    intro x hx
    rcases List.mem_append.1 hx with hx | hx
    · cases hall : es.get? "allOf" with
      | none => simp [hall, itemsOf] at hx
      | some v =>
          cases v with
          | array xs =>
              rw [hall, itemsOf] at hx
              exact (tidyBelow_array (isLiteralKey_keyword (by decide))).1 (h.get? hall) x hx
          | _ => simp [hall, itemsOf] at hx
    · rw [List.mem_singleton.1 hx]
      exact everywhere_tidy_branches hb hnull
  · exact h.append (members_singleton ((tidyBelow_array (isLiteralKey_keyword (by decide))).2 hb))

theorem members_collapseTypes (h : Everywhere Tidy (.object es)) :
    Members TidyBelow (collapseTypes es) := by
  obtain ⟨htidy, hes⟩ := everywhere_tidy_object.1 h
  have hset : ∀ ts : List Json, (∀ t ∈ ts, isList t = false ∧ Everywhere Tidy t) →
      (∀ t ∈ ts, isText "null" t = false) → Members TidyBelow (setTypes ts es) := by
    intro ts hts hnull
    unfold setTypes
    split
    · exact hes.put tidyBelow_null
    · next t =>
        refine hes.put ((tidyBelow_keyword (by decide)).2 ?_)
        exact (hts t List.mem_cons_self).2
    · obtain ⟨hb, hrest⟩ := members_splitBranches (hes.erase "type") hts
      exact members_addBranches hrest hb fun b hb => isNullSchema_of_mem_splitBranches hnull hb
  simp only [collapseTypes]
  split
  · next types htypes =>
      have hts : ∀ t ∈ types.filter (!isText "null" ·), isList t = false ∧ Everywhere Tidy t := by
        intro t ht
        have hmem := (List.mem_filter.1 ht).1
        have hnames := htidy.types
        simp only [namesTypes, htypes, Bool.and_eq_true, List.all_eq_true, Bool.not_eq_true']
          at hnames
        have hbelow := (tidyBelow_array (isLiteralKey_keyword (by decide))).1 (hes.get? htypes)
        exact ⟨hnames.2 t hmem, hbelow t hmem⟩
      have hnull : ∀ t ∈ types.filter (!isText "null" ·), isText "null" t = false := by simp
      split
      · exact members_setNullable (hset _ hts hnull)
      · exact hset _ hts hnull
  · exact hes

theorem members_collapseNullBranches (hl : isLiteralKey key = false) (h : Members TidyBelow es) :
    Members TidyBelow (collapseNullBranches key es) := by
  unfold collapseNullBranches
  split
  · next branches hb =>
      have hbranches := (tidyBelow_array hl).1 (h.get? hb)
      have hrest : ∀ b ∈ branches.filter (!isNullSchema ·), Everywhere Tidy b :=
        fun b hb => hbranches b (List.mem_filter.1 hb).1
      split
      · unfold setBranches
        split
        · exact ((members_setNullable h).erase key).put tidyBelow_null
        · next b hlone =>
            have hb := hrest b (hlone ▸ List.mem_cons_self)
            cases b with
            | object inner =>
                exact ((members_setNullable h).erase key).hoist (everywhere_tidy_object.1 hb).2
            | _ => exact (members_setNullable h).erase key
        · exact (members_setNullable h).put ((tidyBelow_array hl).2 hrest)
      · exact h
  · exact h

/-- What normalization goes on with is tidy everywhere, when the value is. -/
theorem everywhere_tidy_of_part (h : Everywhere Tidy v) (hw : Part (collapsed v) w) :
    Everywhere Tidy w := by
  cases v with
  | object es =>
      have hmembers : Members TidyBelow (collapse es) :=
        members_collapseNullBranches (isLiteralKey_keyword (by decide))
          (members_collapseNullBranches (isLiteralKey_keyword (by decide)) (members_collapseTypes h))
      cases hw with
      | member hmem hu => exact hmembers _ _ hmem w hu
  | _ => exact h.part hw

theorem everywhere_tidy_of_reaches (h : Everywhere Tidy v) (hw : Reaches v w) :
    Everywhere Tidy w := by
  induction hw with
  | refl => exact h
  | tail _ hpart ih => exact everywhere_tidy_of_part ih hpart

/-! ## The normal form of a tidy document -/

theorem not_isHollow_of_tidy (h : Everywhere Tidy v) : isHollow v = false := by
  cases v with
  | object es =>
      rw [Bool.eq_false_iff, ne_eq, isHollow_object_iff]
      rintro ⟨htype, -⟩
      have := h.here.types
      simp [namesTypes, htype] at this
  | _ => rfl

theorem settles_of_tidy (h : Everywhere Tidy (.object es)) : Settles es := by
  have hhollow : ∀ key, isLiteralKey key = false →
      hasBranch isHollow key (collapse es) = false := by
    intro key hl
    refine List.any_eq_false.2 fun b hb => ?_
    unfold itemsOf at hb
    split at hb
    · next branches hbranches =>
        have hpart : Part (collapsed (.object es)) (.array branches) :=
          .member (Entries.mem_of_get? hbranches) (.value hl fun _ _ h => (by cases h))
        have htidy := everywhere_array.1 (everywhere_tidy_of_part h hpart) b hb
        simp [not_isHollow_of_tidy htidy]
    · simp at hb
  exact ⟨h.here.plain, hhollow _ (isLiteralKey_keyword (by decide)),
    hhollow _ (isLiteralKey_keyword (by decide))⟩

theorem internal_of_tidy (h : Everywhere Tidy v) : Internal (normalizeNode v) :=
  internal_normalizeNode_iff.2 fun _ hes => settles_of_tidy (everywhere_tidy_of_reaches h hes)

/-! ## The version of the normal form -/

/-- What is no number of its own at its start is no version. -/
theorem ofVersion?_eq_none {s : String} {c : Char} {cs : List Char} (hs : s.toList = c :: cs)
    (hblank : Text.isBlank c = false) (hdot : c ≠ '.') (hthree : c ≠ '3') :
    ofVersion? s = none := by
  obtain ⟨ds, hds⟩ : ∃ ds, trim (c :: cs) = c :: ds := by
    refine ⟨(cs.reverse.dropWhile Text.isBlank).reverse, ?_⟩
    rw [trim, List.dropWhile_cons_of_neg (by simp [hblank]), List.reverse_cons,
      List.dropWhile_append]
    split
    · next hnil => simp [List.isEmpty_iff.1 hnil, hblank]
    · simp
  have hmajor : (c :: ds).takeWhile (· ≠ '.') ≠ ['3'] := by
    rw [List.takeWhile_cons_of_pos (by simp [hdot])]
    intro h
    exact hthree (List.cons.inj h).1
  simp only [ofVersion?, hs, hds, if_neg hmajor]

/-- A version is a scalar: the text of any other value begins with a bracket. -/
theorem scalar_of_version {d : Dialect} (h : detect (versionText v) = .ok d) :
    (∀ es, v ≠ .object es) ∧ ∀ xs, v ≠ .array xs := by
  have hsome : ofVersion? (versionText v) ≠ none := by
    intro hnone
    simp [detect, hnone] at h
  constructor
  · rintro es rfl
    have htext : (versionText (.object es)).toList
        = '\x7b' :: (",".intercalate (Json.compactEntries es) ++ "\x7d").toList := by
      simp [versionText, Json.compact]
    exact hsome (ofVersion?_eq_none htext (by decide) (by decide) (by decide))
  · rintro xs rfl
    have htext : (versionText (.array xs)).toList
        = '[' :: (",".intercalate (Json.compactItems xs) ++ "]").toList := by
      simp [versionText, Json.compact]
    exact hsome (ofVersion?_eq_none htext (by decide) (by decide) (by decide))

theorem normalizeNode_of_version {d : Dialect} (h : detect (versionText v) = .ok d) :
    normalizeNode v = v := by
  obtain ⟨hobject, harray⟩ := scalar_of_version h
  cases v with
  | object es => exact absurd rfl (hobject es)
  | array xs => exact absurd rfl (harray xs)
  | _ => simp [normalizeNode]

/-- A document is of the dialect that the version under `openapi` says. -/
theorem ofDocument_eq_ok_iff {doc : Json} {d : Dialect} : ofDocument doc = .ok d ↔
    ∃ version, doc.member? "openapi" = some version ∧ detect (versionText version) = .ok d := by
  unfold ofDocument
  constructor
  · intro h
    split at h
    · next version hv => exact ⟨version, hv, h⟩
    · cases h
    · cases h
  · rintro ⟨version, hv, hd⟩
    rw [hv]
    exact hd

theorem get?_collapseNullBranches_of_get? (hk : other ≠ key) (hn : other ≠ "nullable")
    (ht : other ≠ "type") (h : es.get? other = some v) :
    Entries.get? (collapseNullBranches key es) other = some v := by
  rcases get?_collapseNullBranches hk hn es with heq | ⟨htype, -⟩ | ⟨inner, -, heq⟩
  · rw [heq, h]
  · exact absurd htype ht
  · rw [heq, h, Option.some_or]

theorem get?_openapi_collapse (h : es.get? "openapi" = some v) :
    Entries.get? (collapse es) "openapi" = some v := by
  have hes : Entries.get? (collapseTypes es) "openapi" = some v :=
    (get?_collapseTypes (not_mem_ownKeywords (by decide)) (by decide) es).trans h
  exact get?_collapseNullBranches_of_get? (by decide) (by decide) (by decide)
    (get?_collapseNullBranches_of_get? (by decide) (by decide) (by decide) hes)

/-- The normal form of a document is a document of the same version. -/
theorem ofDocument_normalizeNode {doc : Json} {d : Dialect} (h : ofDocument doc = .ok d) :
    ofDocument (normalizeNode doc) = .ok d := by
  obtain ⟨version, hversion, hdetect⟩ := ofDocument_eq_ok_iff.1 h
  refine ofDocument_eq_ok_iff.2 ⟨version, ?_, hdetect⟩
  cases doc with
  | object es =>
      rw [normalizeNode, Json.member?, get?_normalizeEntries, get?_openapi_collapse hversion,
        Option.map_some, normalizeUnder_of_not_named (isLiteralKey_keyword (by decide))
          (fun hn => absurd hn (by decide)), normalizeNode_of_version hdetect]
  | _ => simp [Json.member?] at hversion

/-! ## Normalizing a document -/

theorem normalize_eq {doc : Json} (h : ofDocument doc = .ok .v31) :
    normalize doc = .ok (normalizeNode doc) := by
  rw [normalize, h]
  rfl

/-- A document of version 3.1 or later has a normal form. It is in the internal dialect just when
    every map settles that normalization comes by, and so it is when the document is tidy. A normal
    form in the internal dialect is its own normal form. -/
theorem normalize_internal {doc : Json} (h : ofDocument doc = .ok .v31) :
    ∃ out, normalize doc = .ok out ∧
      (Internal out → normalize out = .ok out) ∧
      (Internal out ↔ ∀ es, Reaches doc (.object es) → Settles es) ∧
      (Everywhere Tidy doc → Internal out) := by
  refine ⟨normalizeNode doc, normalize_eq h, fun hout => ?_, internal_normalizeNode_iff,
    internal_of_tidy⟩
  rw [normalize_eq (ofDocument_normalizeNode h), normalizeNode_of_internal hout]

/-- A document of version 3.1 with one schema. -/
def documentOf (schema : Json) : Json :=
  .object [("openapi", .string "3.1.0"),
    ("info", .object [("title", .string "T"), ("version", .string "1")]),
    ("paths", .object []),
    ("components", .object [("schemas", .object [("S", schema)])])]

theorem ofDocument_documentOf (schema : Json) : ofDocument (documentOf schema) = .ok .v31 := by
  have hversion : ofVersion? "3.1.0" = some .v31 := by decide +kernel
  simp [ofDocument, documentOf, Json.member?, versionText, detect, hversion]

/-- A list of types beside an `anyOf` with null, where a union is hoisted. -/
def tidySchema : Json :=
  .object [("type", .array [.string "string", .string "integer", .string "null"]),
    ("oneOf", .array [.object [("anyOf", .array [.object [("minimum", .number (.int 0))]])],
      .object [("type", .string "null")]])]

theorem normalize_internal_tidySchema :
    ofDocument (documentOf tidySchema) = .ok .v31 ∧ Everywhere Tidy (documentOf tidySchema) ∧
      ∃ out, normalize (documentOf tidySchema) = .ok out ∧ Internal out ∧
        normalize out = .ok out := by
  have hversion := ofDocument_documentOf tidySchema
  have htidy : Everywhere Tidy (documentOf tidySchema) := by decide +kernel
  obtain ⟨out, hout, hagain, -, hinternal⟩ := normalize_internal hversion
  exact ⟨hversion, htidy, out, hout, hinternal htidy, hagain (hinternal htidy)⟩

/-- A union of null and a schema with two types. -/
def unionOfTypes : Json :=
  .object [("anyOf", .array [.object [("type", .array [.string "string", .string "integer"])],
    .object [("type", .string "null")]])]

/-- The list of types that is hoisted out of the union stays in the normal form, and normalizing that
    form once more takes it apart. -/
theorem normalize_unionOfTypes :
    ofDocument (documentOf unionOfTypes) = .ok .v31 ∧
      ∃ out, normalize (documentOf unionOfTypes) = .ok out ∧ ¬ Internal out ∧
        normalize out ≠ .ok out := by
  refine ⟨ofDocument_documentOf _, normalizeNode (documentOf unionOfTypes),
    normalize_eq (ofDocument_documentOf _), by decide +kernel, ?_⟩
  rw [normalize_eq (ofDocument_normalizeNode (ofDocument_documentOf _)), ne_eq, Except.ok.injEq]
  decide +kernel

end Dialect
end OpenApi
