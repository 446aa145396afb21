import OpenApi.Proofs.Chains
import OpenApi.Proofs.Positions

set_option autoImplicit false

/-! # The internal dialect

A document is in the internal dialect (`Internal`) when no schema in it has a list under `type` or a
null branch in a union. `normalizeNode` leaves such a document as it is, since neither rule of
`collapse` finds anything to do.

The rules are tried once for each map, in a fixed order, and a branch that is hoisted brings its own
keywords along after they were tried. So the normal form of a document is in the internal dialect
just when every map `settles` in one go. `Tidy` is a condition on the document as written under which
all of them do: a list of types is not empty and holds no list, and the only branch beside a null
branch carries no list of types and no null branch itself. -/

namespace OpenApi

namespace Dialect

/-! ## Maps with nothing to collapse -/

/-- Whether a value is a list. -/
def isList : Json → Bool
  | .array _ => true
  | _ => false

/-- Whether a list stands under `type`. -/
def hasTypeList (es : Entries Json) : Bool := (es.get? "type").any isList

/-- Whether the union under `key` has a branch that passes the test. -/
def hasBranch (p : Json → Bool) (key : String) (es : Entries Json) : Bool :=
  (itemsOf (es.get? key)).any p

/-- A map that neither rule applies to. -/
structure Plain (es : Entries Json) : Prop where
  /-- No list of types. -/
  types : hasTypeList es = false
  /-- No null branch in the `anyOf`. -/
  anyOf : hasBranch isNullSchema "anyOf" es = false
  /-- No null branch in the `oneOf`. -/
  oneOf : hasBranch isNullSchema "oneOf" es = false

theorem plain_iff {es : Entries Json} : Plain es ↔ hasTypeList es = false ∧
    hasBranch isNullSchema "anyOf" es = false ∧ hasBranch isNullSchema "oneOf" es = false :=
  ⟨fun h => ⟨h.types, h.anyOf, h.oneOf⟩, fun ⟨ht, ha, ho⟩ => ⟨ht, ha, ho⟩⟩

instance : DecidablePred Plain := fun _ => decidable_of_iff' _ plain_iff

/-- A value in the internal dialect. -/
def Internal (v : Json) : Prop := Everywhere Plain v

instance (v : Json) : Decidable (Internal v) := inferInstanceAs (Decidable (Everywhere Plain v))

section

variable {es : Entries Json} {key : String} {v : Json}

theorem collapseTypes_of_no_list (h : hasTypeList es = false) : collapseTypes es = es := by
  unfold collapseTypes
  split
  · next types ht => simp [hasTypeList, ht, isList] at h
  · rfl

theorem collapseNullBranches_of_no_branch (h : hasBranch isNullSchema key es = false) :
    collapseNullBranches key es = es := by
  unfold collapseNullBranches
  split
  · next branches hb =>
      rw [hasBranch, hb, itemsOf] at h
      simp [h]
  · rfl

theorem Plain.collapse_eq (h : Plain es) : collapse es = es := by
  rw [collapse, collapseTypes_of_no_list h.types, collapseNullBranches_of_no_branch h.anyOf,
    collapseNullBranches_of_no_branch h.oneOf]

theorem normalizeUnder_eq_self (h : ∀ w, Under key v w → normalizeNode w = w) :
    normalizeUnder key v = v := by
  cases hl : isLiteralKey key with
  | true => simp [normalizeUnder, hl]
  | false =>
      by_cases hn : isNameMap key = true ∧ ∃ named, v = .object named
      · obtain ⟨hn, named, rfl⟩ := hn
        simp only [normalizeUnder, hl, hn, Bool.false_eq_true, if_false, if_true,
          normalizeNamed_eq_map, Json.object.injEq]
        refine (List.map_congr_left fun e he => ?_).trans (List.map_id' named)
        rw [h e.2 ((under_named_iff hl hn).2 ⟨e.1, he⟩)]
      · have hv : isNameMap key = true → ∀ named, v ≠ .object named :=
          fun hk named h => hn ⟨hk, named, h⟩
        rw [normalizeUnder_of_not_named hl hv]
        exact h v ((under_value_iff hl hv).2 rfl)

/-- Normalization leaves a value in the internal dialect as it is. -/
theorem normalizeNode_of_internal (h : Internal v) : normalizeNode v = v := by
  induction hw : weight v using Nat.strongRecOn generalizing v with
  | ind n ih =>
      have hpart : ∀ w, Part v w → normalizeNode w = w :=
        fun w hp => ih _ (hw ▸ hp.weight_lt) (h.part hp) rfl
      cases v with
      | object es =>
          have hplain : Plain es := Everywhere.here h
          rw [normalizeNode, hplain.collapse_eq, normalizeEntries_eq_map]
          congr 1
          refine (List.map_congr_left fun e he => ?_).trans (List.map_id' es)
          rw [normalizeUnder_eq_self fun w hu => hpart w (.member he hu)]
      | array xs =>
          rw [normalizeNode, normalizeItems_eq_map]
          congr 1
          exact (List.map_congr_left fun x hx => hpart x (.item hx)).trans (List.map_id' xs)
      | _ => simp [normalizeNode]

end

/-! ## What becomes a null schema -/

/-- Whether a schema lists no type at all and says nothing else. Its list collapses to null. -/
def isHollow : Json → Bool
  | .object es =>
      (match Entries.get? es "type" with
        | some (.array []) => true
        | _ => false)
      && es.all fun e => nullKeywords.contains e.1
  | _ => false

/-- The map has a keyword that a schema for null alone may not have. -/
def Spoken (es : Entries Json) : Prop := ∃ key ∈ es.keys, key ∉ nullKeywords

section

variable {es : Entries Json} {key : String} {v : Json}

theorem all_nullKeywords_iff :
    (es.all fun e => nullKeywords.contains e.1) = true ↔ ¬ Spoken es := by
  simp [Spoken, Entries.keys]

theorem Spoken.put (h : Spoken es) : Spoken (es.put key v) :=
  let ⟨k, hk, hn⟩ := h
  ⟨k, Entries.mem_keys_put.2 (.inr hk), hn⟩

theorem spoken_of_put (hk : key ∈ nullKeywords) (h : Spoken (es.put key v)) : Spoken es := by
  obtain ⟨k, hmem, hn⟩ := h
  rcases Entries.mem_keys_put.1 hmem with rfl | hmem
  · exact absurd hk hn
  · exact ⟨k, hmem, hn⟩

theorem spoken_setNullable : Spoken (setNullable es) :=
  ⟨"nullable", Entries.mem_keys_put.2 (.inl rfl), by decide⟩

theorem keys_hoist_subset {other : String} (b : Json) (h : other ∈ es.keys) :
    other ∈ Entries.keys (hoist b es) := by
  cases b with
  | object inner =>
      simp only [hoist]
      induction inner generalizing es with
      | nil => exact h
      | cons e inner ih => exact ih (Entries.mem_keys_putNew.2 (.inr h))
  | _ => exact h

theorem spoken_addBranches (branches : List Json) : Spoken (addBranches branches es) := by
  unfold addBranches
  split
  · exact ⟨"allOf", by simp [Entries.keys], by decide⟩
  · exact ⟨"anyOf", by simp [Entries.keys], by decide⟩

/-- A list of types that is not empty leaves a keyword of its own behind, or a single type. -/
theorem spoken_setTypes (types : List Json) (h : Spoken es) : Spoken (setTypes types es) := by
  match types with
  | [] => exact h.put
  | [_] => exact h.put
  | _ :: _ :: _ => exact spoken_addBranches _

theorem Spoken.collapseTypes (h : Spoken es) : Spoken (collapseTypes es) := by
  unfold Dialect.collapseTypes
  split
  · split
    · exact spoken_setNullable
    · exact spoken_setTypes _ h
  · exact h

/-- Collapsing null branches leaves `nullable` behind. -/
theorem Spoken.collapseNullBranches (hk : key ≠ "nullable") (h : Spoken es) :
    Spoken (collapseNullBranches key es) := by
  unfold Dialect.collapseNullBranches
  split
  · next branches _ =>
      split
      · have hnull : "nullable" ∈ Entries.keys (setNullable es) := Entries.mem_keys_put.2 (.inl rfl)
        have hrest := Entries.mem_keys_erase.2 ⟨hk.symm, hnull⟩
        refine ⟨"nullable", ?_, by decide⟩
        unfold setBranches
        split
        · exact Entries.mem_keys_put.2 (.inr hrest)
        · exact keys_hoist_subset _ hrest
        · exact Entries.mem_keys_put.2 (.inr hnull)
      · exact h
  · exact h

theorem Spoken.collapse (h : Spoken (Dialect.collapseTypes es)) : Spoken (collapse es) :=
  (h.collapseNullBranches (by decide)).collapseNullBranches (by decide)

theorem isText_normalizeNode (t : String) (v : Json) :
    isText t (normalizeNode v) = isText t v := by
  cases v <;> simp [normalizeNode, isText]

theorem keys_normalizeEntries (es : Entries Json) :
    Entries.keys (normalizeEntries es) = es.keys := by
  rw [normalizeEntries_eq_map, Entries.keys, Entries.keys, List.map_map]
  rfl

theorem normalizeUnder_type (v : Json) : normalizeUnder "type" v = normalizeNode v :=
  normalizeUnder_of_not_named (isLiteralKey_keyword (by decide)) fun h => absurd h (by decide)

/-- A null schema by its parts: its type, and that it says nothing else. -/
theorem isNullSchema_object_iff : isNullSchema (.object es) = true ↔
    (∃ t, es.get? "type" = some t ∧ isText "null" t = true) ∧ ¬ Spoken es := by
  rw [isNullSchema, Bool.and_eq_true, all_nullKeywords_iff]
  refine and_congr_left fun _ => ?_
  cases Entries.get? es "type" <;> simp

theorem isHollow_object_iff : isHollow (.object es) = true ↔
    es.get? "type" = some (.array []) ∧ ¬ Spoken es := by
  rw [isHollow, Bool.and_eq_true, all_nullKeywords_iff]
  refine and_congr_left fun _ => ?_
  split
  · next h => simp [h]
  · next h => simpa using h

theorem get?_eq_none_of_not_spoken (h : ¬ Spoken es) (hk : key ∉ nullKeywords) :
    es.get? key = none := Entries.get?_eq_none_iff.2 fun hmem => h ⟨key, hmem, hk⟩

/-- A map that says nothing but its type has no union to collapse. -/
theorem collapse_of_not_spoken (h : ¬ Spoken (collapseTypes es)) :
    collapse es = collapseTypes es := by
  have hunion : ∀ key ∉ nullKeywords, collapseNullBranches key (collapseTypes es)
      = collapseTypes es := fun key hk => by
    refine collapseNullBranches_of_no_branch ?_
    rw [hasBranch, get?_eq_none_of_not_spoken h hk]
    rfl
  rw [collapse, hunion "anyOf" (by decide), hunion "oneOf" (by decide)]

/-- What a list of types collapses to, when nothing else is said. -/
theorem isNullSchema_collapseTypes_iff (h : ¬ Spoken (collapseTypes es)) :
    isNullSchema (.object (collapseTypes es)) = true ↔
      isNullSchema (.object es) = true ∨ isHollow (.object es) = true := by
  have hes : ¬ Spoken es := fun hs => h hs.collapseTypes
  simp only [isNullSchema_object_iff, isHollow_object_iff, h, hes, not_false_eq_true, and_true]
  simp only [collapseTypes] at h ⊢
  split at h
  · next types ht =>
      split at h
      · exact absurd spoken_setNullable h
      · next hnull =>
          have hkept : types.filter (!isText "null" ·) = types := by
            simpa using hnull
          rw [hkept] at h
          rw [if_neg hnull, hkept]
          rcases types with _ | ⟨t, _ | ⟨u, rest⟩⟩
          · simp [setTypes, isText, ht]
          · simpa [setTypes, isText, ht] using hnull
          · exact absurd (spoken_addBranches _) h
  · next ht =>
      simp only [iff_self_or]
      exact fun h => absurd h (ht [])

/-- A schema is normalized to a null schema just when it is one or lists no type. -/
theorem isNullSchema_normalizeNode (v : Json) :
    isNullSchema (normalizeNode v) = (isNullSchema v || isHollow v) := by
  cases v with
  | object es =>
      rw [Bool.eq_iff_iff, Bool.or_eq_true]
      have hnode : isNullSchema (normalizeNode (.object es)) = true ↔
          isNullSchema (.object (collapse es)) = true := by
        rw [normalizeNode, isNullSchema_object_iff, isNullSchema_object_iff, Spoken,
          keys_normalizeEntries, get?_normalizeEntries]
        simp only [Option.map_eq_some_iff, ← Spoken.eq_1, normalizeUnder_type]
        refine and_congr_left fun _ => ?_
        constructor
        · rintro ⟨_, ⟨t, ht, rfl⟩, h⟩
          exact ⟨t, ht, (isText_normalizeNode "null" t).symm.trans h⟩
        · rintro ⟨t, ht, h⟩
          exact ⟨_, ⟨t, ht, rfl⟩, (isText_normalizeNode "null" t).trans h⟩
      rw [hnode]
      by_cases hs : Spoken (collapseTypes es)
      · have hleft : ¬ isNullSchema (.object (collapse es)) = true :=
          fun h => (isNullSchema_object_iff.1 h).2 hs.collapse
        have hright : ¬ (isNullSchema (.object es) = true ∨ isHollow (.object es) = true) := by
          rw [isNullSchema_object_iff, isHollow_object_iff]
          rintro (⟨⟨t, ht, htext⟩, hes⟩ | ⟨ht, hes⟩)
          · have hlist : hasTypeList es = false := by
              cases t <;> simp_all [hasTypeList, isList, isText]
            exact hes (collapseTypes_of_no_list hlist ▸ hs)
          · have htypes : collapseTypes es = Entries.put "type" (.string "null") es := by
              simp [collapseTypes, ht, setTypes]
            rw [htypes] at hs
            exact hes (spoken_of_put (by decide) hs)
        exact ⟨fun h => absurd h hleft, fun h => absurd h hright⟩
      · rw [collapse_of_not_spoken hs]
        exact isNullSchema_collapseTypes_iff hs
  | _ => simp [normalizeNode, isNullSchema, isHollow]

end

/-! ## When a normal form is in the internal dialect -/

/-- A map that one pass over the rules brings into the internal dialect: neither rule applies any
    more, and no branch of its unions is going to become a null schema. -/
structure Settles (es : Entries Json) : Prop where
  /-- Neither rule applies to the collapsed map. -/
  plain : Plain (collapse es)
  /-- No branch of the `anyOf` collapses to a null schema. -/
  anyOf : hasBranch isHollow "anyOf" (collapse es) = false
  /-- No branch of the `oneOf` collapses to a null schema. -/
  oneOf : hasBranch isHollow "oneOf" (collapse es) = false

section

variable {es : Entries Json} {key : String} {v : Json}

theorem hasTypeList_normalizeEntries (es : Entries Json) :
    hasTypeList (normalizeEntries es) = hasTypeList es := by
  rw [hasTypeList, hasTypeList, get?_normalizeEntries]
  cases Entries.get? es "type" with
  | none => rfl
  | some t => cases t <;> simp [normalizeUnder_type, normalizeNode, isList]

theorem itemsOf_normalizeUnder (hl : isLiteralKey key = false) (v : Option Json) :
    itemsOf (v.map (normalizeUnder key)) = (itemsOf v).map normalizeNode := by
  match v with
  | none => rfl
  | some (.object named) =>
      cases hn : isNameMap key <;> simp [normalizeUnder, hl, hn, itemsOf, normalizeNode]
  | some (.array xs) =>
      simp [normalizeUnder, hl, itemsOf, normalizeNode, normalizeItems_eq_map]
  | some .null | some (.bool _) | some (.number _) | some (.string _) =>
      simp [normalizeUnder, hl, itemsOf, normalizeNode]

/-- A union has a null branch after normalization when it had one or a branch without a type. -/
theorem hasBranch_normalizeEntries (hl : isLiteralKey key = false) (es : Entries Json) :
    hasBranch isNullSchema key (normalizeEntries es)
      = (hasBranch isNullSchema key es || hasBranch isHollow key es) := by
  simp only [hasBranch, get?_normalizeEntries, itemsOf_normalizeUnder hl, List.any_map]
  induction itemsOf (es.get? key) with
  | nil => rfl
  | cons x xs ih =>
      simp only [List.any_cons, ih, Function.comp_apply, isNullSchema_normalizeNode]
      cases isNullSchema x <;> cases isHollow x <;> simp

theorem plain_normalizeEntries_iff : Plain (normalizeEntries (collapse es)) ↔ Settles es := by
  rw [plain_iff, hasTypeList_normalizeEntries,
    hasBranch_normalizeEntries (isLiteralKey_keyword (by decide)),
    hasBranch_normalizeEntries (isLiteralKey_keyword (by decide))]
  simp only [Bool.or_eq_false_iff]
  constructor
  · rintro ⟨ht, ⟨ha, ha'⟩, ho, ho'⟩
    exact ⟨⟨ht, ha, ho⟩, ha', ho'⟩
  · rintro ⟨⟨ht, ha, ho⟩, ha', ho'⟩
    exact ⟨ht, ⟨ha, ha'⟩, ho, ho'⟩

/-- The normal form is in the internal dialect just when every map settles that normalization comes
    by. -/
theorem internal_normalizeNode_iff :
    Internal (normalizeNode v) ↔ ∀ es, Reaches v (.object es) → Settles es := by
  constructor
  · intro h es hes
    rw [← plain_normalizeEntries_iff]
    refine h _ (within_normalizeNode.2 ⟨_, hes, ?_⟩)
    rw [normalizeNode]
  · intro h fs hfs
    obtain ⟨u, hu, heq⟩ := within_normalizeNode.1 hfs
    cases u with
    | object es =>
        rw [normalizeNode, Json.object.injEq] at heq
        exact heq ▸ plain_normalizeEntries_iff.2 (h es hu)
    | _ => simp [normalizeNode] at heq

end
end Dialect
end OpenApi
