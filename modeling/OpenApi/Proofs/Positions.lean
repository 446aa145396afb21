import Mathlib.Logic.Relation
import OpenApi.Dialect.Normalize

set_option autoImplicit false

/-! # The positions of a document

Whatever stands at a position of a document is looked at by `normalizeNode`: the items of an array,
the values under the keys of a map and, where such a value is a map from names, its entries. Literal
data has no positions. `Part v w` says that `w` stands directly below `v`, `Within v w` that it stands
anywhere below, and `Everywhere P v` that every map at a position of `v` has the property `P`.

A part weighs less than the whole (`Part.weight_lt`), so properties of documents are proved by strong
induction on the weight; `everywhere` computes them by recursion on the document. -/

namespace OpenApi

namespace Dialect

/-! ## Parts -/

/-- The positions `w` below the value `v` of the member `key`. -/
inductive Under (key : String) : Json → Json → Prop
  /-- The value itself, unless it is literal data or a map from names. -/
  | value {v : Json} : isLiteralKey key = false →
      (isNameMap key = true → ∀ named, v ≠ .object named) → Under key v v
  /-- An entry of a map from names. -/
  | entry {named : List (String × Json)} {name : String} {v : Json} : isLiteralKey key = false →
      isNameMap key = true → (name, v) ∈ named → Under key (.object named) v

/-- A position directly below a value. -/
inductive Part : Json → Json → Prop
  /-- An item of an array. -/
  | item {xs : List Json} {x : Json} : x ∈ xs → Part (.array xs) x
  /-- A position below a member of a map. -/
  | member {es : List (String × Json)} {key : String} {v w : Json} : (key, v) ∈ es →
      Under key v w → Part (.object es) w

/-- A position anywhere below a value, or the value itself. -/
abbrev Within : Json → Json → Prop := Relation.ReflTransGen Part

/-- Every map at a position of the value has the property. -/
def Everywhere (P : Entries Json → Prop) (v : Json) : Prop := ∀ es, Within v (.object es) → P es

section

variable {P : Entries Json → Prop} {key : String} {v w : Json} {es : List (String × Json)}

theorem weight_lt_itemsWeight {x : Json} {xs : List Json} (h : x ∈ xs) :
    weight x < itemsWeight xs := by
  induction xs with
  | nil => simp at h
  | cons y ys ih =>
      rcases List.mem_cons.1 h with rfl | h
      · simp only [itemsWeight]; omega
      · have := ih h
        simp only [itemsWeight]
        omega

theorem weight_lt_entriesWeight (h : (key, v) ∈ es) : weight v < entriesWeight es := by
  induction es with
  | nil => simp at h
  | cons e es ih =>
      obtain ⟨k, u⟩ := e
      rcases List.mem_cons.1 h with he | h
      · obtain ⟨rfl, rfl⟩ := Prod.mk.inj he
        have := weight_le_entry key v
        simp only [entriesWeight]
        omega
      · have := ih h
        simp only [entriesWeight]
        omega

theorem Under.weight_le (h : Under key v w) : weight w ≤ weight v := by
  cases h with
  | value => exact Nat.le_refl _
  | entry _ _ hmem =>
      have := weight_lt_entriesWeight hmem
      simp only [weight]
      omega

theorem Part.weight_lt (h : Part v w) : weight w < weight v := by
  cases h with
  | item hx =>
      have := weight_lt_itemsWeight hx
      simp only [weight]
      omega
  | member hmem hu =>
      have := weight_lt_entriesWeight hmem
      have := hu.weight_le
      simp only [weight]
      omega

/-- The keywords that normalization reads or rewrites. -/
def keywords : List String := ["openapi", "type", "nullable", "anyOf", "oneOf", "allOf"]

theorem isLiteralKey_keyword (hk : key ∈ keywords) : isLiteralKey key = false := by
  have hall : ∀ k ∈ keywords, isLiteralKey k = false := by decide +kernel
  exact hall key hk

theorem isNameMap_keyword (hk : key ∈ keywords) : isNameMap key = false := by
  have hall : ∀ k ∈ keywords, isNameMap k = false := by decide
  exact hall key hk

/-! The three kinds of members: literal data, a map from names, and any other value. -/

theorem not_under_of_isLiteralKey (hl : isLiteralKey key = true) : ¬ Under key v w := by
  rintro (⟨h, -⟩ | ⟨h, -⟩) <;> simp [hl] at h

theorem under_named_iff {named : List (String × Json)} (hl : isLiteralKey key = false)
    (hn : isNameMap key = true) :
    Under key (.object named) w ↔ ∃ name, (name, w) ∈ named := by
  constructor
  · rintro (⟨-, h⟩ | ⟨-, -, hmem⟩)
    · exact absurd rfl (h hn named)
    · exact ⟨_, hmem⟩
  · rintro ⟨name, hmem⟩
    exact .entry hl hn hmem

theorem under_value_iff (hl : isLiteralKey key = false)
    (hv : isNameMap key = true → ∀ named, v ≠ .object named) : Under key v w ↔ w = v := by
  constructor
  · intro h
    cases h with
    | value => rfl
    | entry _ hn => exact absurd rfl (hv hn _)
  · rintro rfl
    exact .value hl hv

theorem Everywhere.part (h : Everywhere P v) (hw : Part v w) : Everywhere P w :=
  fun es hes => h es (.head hw hes)

theorem Everywhere.here (h : Everywhere P (.object es)) : P es := h es .refl

theorem everywhere_iff_parts : Everywhere P v ↔
    (∀ es, v = .object es → P es) ∧ ∀ w, Part v w → Everywhere P w := by
  constructor
  · rintro h
    exact ⟨fun es hv => Everywhere.here (hv ▸ h), fun w hw => h.part hw⟩
  · rintro ⟨hhere, hparts⟩ es hes
    rcases Relation.ReflTransGen.cases_head hes with heq | ⟨w, hw, hrest⟩
    · exact hhere es heq
    · exact hparts w hw es hrest

theorem everywhere_scalar (ho : ∀ es, v ≠ .object es) (ha : ∀ xs, v ≠ .array xs) :
    Everywhere P v := by
  rw [everywhere_iff_parts]
  refine ⟨fun es h => absurd h (ho es), ?_⟩
  rintro w (_ | _)
  · exact absurd rfl (ha _)
  · exact absurd rfl (ho _)

theorem everywhere_array {xs : List Json} :
    Everywhere P (.array xs) ↔ ∀ x ∈ xs, Everywhere P x := by
  rw [everywhere_iff_parts]
  constructor
  · rintro ⟨-, h⟩ x hx
    exact h x (.item hx)
  · intro h
    refine ⟨fun es he => (by cases he), ?_⟩
    rintro w (hx | _)
    exact h w hx

theorem everywhere_object :
    Everywhere P (.object es) ↔
      P es ∧ ∀ key v, (key, v) ∈ es → ∀ w, Under key v w → Everywhere P w := by
  rw [everywhere_iff_parts]
  constructor
  · rintro ⟨hhere, h⟩
    exact ⟨hhere es rfl, fun key v hv w hw => h w (.member hv hw)⟩
  · rintro ⟨hhere, h⟩
    refine ⟨fun fs hfs => (by cases hfs; exact hhere), ?_⟩
    rintro w (_ | ⟨hmem, hu⟩)
    exact h _ _ hmem w hu

end

/-! ## Deciding a property everywhere -/

mutual

/-- Whether every map at a position of the value passes the test. -/
def everywhere (p : Entries Json → Bool) : Json → Bool
  | .object es => p es && everywhereEntries p es
  | .array xs => everywhereItems p xs
  | _ => true

/-- Whether every map below the members passes the test. -/
def everywhereEntries (p : Entries Json → Bool) : List (String × Json) → Bool
  | [] => true
  | (key, .object named) :: rest =>
      (isLiteralKey key ||
        if isNameMap key then everywhereNamed p named else p named && everywhereEntries p named) &&
        everywhereEntries p rest
  | (key, v) :: rest => (isLiteralKey key || everywhere p v) && everywhereEntries p rest

/-- Whether every map below the entries of a map from names passes the test. -/
def everywhereNamed (p : Entries Json → Bool) : List (String × Json) → Bool
  | [] => true
  | (_, v) :: rest => everywhere p v && everywhereNamed p rest

/-- Whether every map below the items passes the test. -/
def everywhereItems (p : Entries Json → Bool) : List Json → Bool
  | [] => true
  | x :: xs => everywhere p x && everywhereItems p xs

end

theorem everywhereNamed_iff (p : Entries Json → Bool) (named : List (String × Json)) :
    everywhereNamed p named = true ↔ ∀ e ∈ named, everywhere p e.2 = true := by
  induction named with
  | nil => simp [everywhereNamed]
  | cons e named ih => simp [everywhereNamed, ih]

theorem everywhereItems_iff (p : Entries Json → Bool) (xs : List Json) :
    everywhereItems p xs = true ↔ ∀ x ∈ xs, everywhere p x = true := by
  induction xs with
  | nil => simp [everywhereItems]
  | cons x xs ih => simp [everywhereItems, ih]

/-- A member passes when everything directly below it does. -/
theorem everywhereEntries_cons_iff (p : Entries Json → Bool) (key : String) (v : Json)
    (es : List (String × Json)) :
    everywhereEntries p ((key, v) :: es) = true ↔
      (∀ w, Under key v w → everywhere p w = true) ∧ everywhereEntries p es = true := by
  cases hl : isLiteralKey key with
  | true => cases v <;> simp [everywhereEntries, hl, not_under_of_isLiteralKey hl]
  | false =>
      by_cases hn : isNameMap key = true ∧ ∃ named, v = .object named
      · obtain ⟨hn, named, rfl⟩ := hn
        simp only [everywhereEntries, hl, hn, everywhereNamed_iff, under_named_iff hl hn,
          Prod.forall, Bool.false_or, if_true, Bool.and_eq_true, forall_exists_index]
        exact and_congr_left fun _ => forall_comm
      · have hv : isNameMap key = true → ∀ named, v ≠ .object named :=
          fun hk named h => hn ⟨hk, named, h⟩
        simp only [under_value_iff hl hv, forall_eq]
        cases v with
        | object named =>
            have hk : isNameMap key = false := by
              simpa using fun hk => hv hk named rfl
            simp [everywhereEntries, everywhere, hl, hk]
        | _ => simp [everywhereEntries, hl]

theorem everywhereEntries_iff (p : Entries Json → Bool) (es : List (String × Json)) :
    everywhereEntries p es = true ↔
      ∀ key v, (key, v) ∈ es → ∀ w, Under key v w → everywhere p w = true := by
  induction es with
  | nil => simp [everywhereEntries]
  | cons e es ih =>
      obtain ⟨key, v⟩ := e
      rw [everywhereEntries_cons_iff, ih]
      simp only [List.mem_cons, Prod.mk.injEq]
      constructor
      · rintro ⟨hv, hrest⟩ k u (⟨rfl, rfl⟩ | hmem)
        · exact hv
        · exact hrest k u hmem
      · intro h
        exact ⟨h key v (.inl ⟨rfl, rfl⟩), fun k u hmem => h k u (.inr hmem)⟩

theorem everywhere_iff (p : Entries Json → Bool) (v : Json) :
    everywhere p v = true ↔ Everywhere (fun es => p es = true) v := by
  induction hw : weight v using Nat.strongRecOn generalizing v with
  | ind n ih =>
      have hpart : ∀ w, Part v w →
          (everywhere p w = true ↔ Everywhere (fun es => p es = true) w) :=
        fun w hpart => ih _ (hw ▸ hpart.weight_lt) w rfl
      cases v with
      | object es =>
          rw [everywhere_object, everywhere, Bool.and_eq_true, everywhereEntries_iff]
          refine and_congr_right fun _ => forall₂_congr fun key v => forall_congr' fun hmem =>
            forall₂_congr fun w hu => hpart w (.member hmem hu)
      | array xs =>
          rw [everywhere_array, everywhere, everywhereItems_iff]
          exact forall₂_congr fun x hx => hpart x (.item hx)
      | _ => simp [everywhere, everywhere_scalar]

instance (P : Entries Json → Prop) [DecidablePred P] (v : Json) : Decidable (Everywhere P v) :=
  decidable_of_iff (everywhere (fun es => decide (P es)) v = true) (by
    rw [everywhere_iff]
    simp only [decide_eq_true_eq])

/-! ## The positions of a normalized document -/

/-- The value of a member after normalization. -/
def normalizeUnder (key : String) (v : Json) : Json :=
  if isLiteralKey key then v
  else if isNameMap key then
    match v with
    | .object named => .object (normalizeNamed named)
    | v => normalizeNode v
  else normalizeNode v

theorem normalizeItems_eq_map (xs : List Json) : normalizeItems xs = xs.map normalizeNode := by
  induction xs with
  | nil => simp [normalizeItems]
  | cons x xs ih => simp [normalizeItems, ih]

theorem normalizeNamed_eq_map (named : List (String × Json)) :
    normalizeNamed named = named.map fun e => (e.1, normalizeNode e.2) := by
  induction named with
  | nil => simp [normalizeNamed]
  | cons e named ih =>
      obtain ⟨name, v⟩ := e
      simp [normalizeNamed, ih]

theorem normalizeEntries_eq_map (es : List (String × Json)) :
    normalizeEntries es = es.map fun e => (e.1, normalizeUnder e.1 e.2) := by
  induction es with
  | nil => simp [normalizeEntries]
  | cons e es ih =>
      obtain ⟨key, v⟩ := e
      rw [List.map_cons, ← ih]
      cases v <;> simp only [normalizeEntries, normalizeUnder] <;> repeat' split
      all_goals rfl

theorem get?_normalizeEntries (es : Entries Json) (key : String) :
    Entries.get? (normalizeEntries es) key = (es.get? key).map (normalizeUnder key) := by
  rw [normalizeEntries_eq_map]
  induction es with
  | nil => rfl
  | cons e es ih =>
      simp only [List.map_cons, Entries.get?_cons, ih]
      split
      · next h => simp [h]
      · rfl

/-- A value with its own null collapsed, and everything below it as it was. -/
def collapsed : Json → Json
  | .object es => .object (collapse es)
  | v => v

theorem normalizeNode_ne_object {v : Json} (h : ∀ es, v ≠ .object es) (es : List (String × Json)) :
    normalizeNode v ≠ .object es := by
  cases v with
  | object fs => exact absurd rfl (h fs)
  | _ => simp [normalizeNode]

theorem normalizeUnder_of_not_named {key : String} {v : Json} (hl : isLiteralKey key = false)
    (hv : isNameMap key = true → ∀ named, v ≠ .object named) :
    normalizeUnder key v = normalizeNode v := by
  simp only [normalizeUnder, hl, Bool.false_eq_true, if_false]
  split
  · next hk =>
      cases v with
      | object named => exact absurd rfl (hv hk named)
      | _ => rfl
  · rfl

/-- The positions below a normalized member are the normalized positions below it. -/
theorem under_normalizeUnder {key : String} {v w : Json} :
    Under key (normalizeUnder key v) w ↔ ∃ u, Under key v u ∧ w = normalizeNode u := by
  cases hl : isLiteralKey key with
  | true => simp [not_under_of_isLiteralKey hl]
  | false =>
      by_cases hn : isNameMap key = true ∧ ∃ named, v = .object named
      · obtain ⟨hn, named, rfl⟩ := hn
        simp only [normalizeUnder, hl, hn, if_true, Bool.false_eq_true, if_false,
          under_named_iff hl hn, normalizeNamed_eq_map, List.mem_map, Prod.mk.injEq, Prod.exists]
        constructor
        · rintro ⟨_, name, u, hmem, rfl, rfl⟩
          exact ⟨u, ⟨name, hmem⟩, rfl⟩
        · rintro ⟨u, ⟨name, hmem⟩, rfl⟩
          exact ⟨name, name, u, hmem, rfl, rfl⟩
      · have hv : isNameMap key = true → ∀ named, v ≠ .object named :=
          fun hk named h => hn ⟨hk, named, h⟩
        have hnormal : isNameMap key = true → ∀ named, normalizeNode v ≠ .object named :=
          fun hk named => normalizeNode_ne_object (hv hk) named
        rw [normalizeUnder_of_not_named hl hv, under_value_iff hl hnormal]
        simp only [under_value_iff hl hv, exists_eq_left]

/-- The positions directly below a normalized value. -/
theorem part_normalizeNode {v w : Json} :
    Part (normalizeNode v) w ↔ ∃ u, Part (collapsed v) u ∧ w = normalizeNode u := by
  cases v with
  | object es =>
      rw [normalizeNode, normalizeEntries_eq_map, collapsed]
      constructor
      · rintro (_ | ⟨hmem, hu⟩)
        obtain ⟨e, he, heq⟩ := List.mem_map.1 hmem
        obtain ⟨rfl, rfl⟩ := Prod.mk.inj heq
        obtain ⟨u, hbelow, rfl⟩ := under_normalizeUnder.1 hu
        exact ⟨u, .member he hbelow, rfl⟩
      · rintro ⟨u, hu, rfl⟩
        cases hu with
        | member hmem hu =>
            exact .member (List.mem_map.2 ⟨_, hmem, rfl⟩) (under_normalizeUnder.2 ⟨_, hu, rfl⟩)
  | array xs =>
      rw [normalizeNode, normalizeItems_eq_map, collapsed]
      · constructor
        · rintro (hx | _)
          obtain ⟨u, hu, rfl⟩ := List.mem_map.1 hx
          exact ⟨u, .item hu, rfl⟩
        · rintro ⟨u, hu, rfl⟩
          cases hu with
          | item hu => exact .item (List.mem_map.2 ⟨u, hu, rfl⟩)
      · simp
  | _ =>
      simp only [normalizeNode, collapsed]
      constructor
      · rintro (_ | _)
      · rintro ⟨u, (_ | _), -⟩

/-- The values that `normalizeNode` comes by on its way down from a value. -/
abbrev Reaches : Json → Json → Prop := Relation.ReflTransGen fun v w => Part (collapsed v) w

/-- The positions of a normalized document hold what normalization came by, normalized. -/
theorem within_normalizeNode {v w : Json} :
    Within (normalizeNode v) w ↔ ∃ u, Reaches v u ∧ w = normalizeNode u := by
  constructor
  · intro h
    induction h with
    | refl => exact ⟨v, .refl, rfl⟩
    | tail _ hpart ih =>
        obtain ⟨u, hu, rfl⟩ := ih
        obtain ⟨u', hu', rfl⟩ := part_normalizeNode.1 hpart
        exact ⟨u', hu.tail hu', rfl⟩
  · rintro ⟨u, hu, rfl⟩
    induction hu with
    | refl => exact .refl
    | tail _ hpart ih => exact ih.tail (part_normalizeNode.2 ⟨_, hpart, rfl⟩)

end Dialect

end OpenApi
