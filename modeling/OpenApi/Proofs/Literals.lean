import OpenApi.Proofs.Tidy

set_option autoImplicit false

/-! # Literal data is opaque

What stands under `example`, `enum`, `default` and the like, and under a vendor extension, is data and no
schema. `mapLiterals f` replaces each such value of a document by its image under `f`. Normalization
commutes with it whatever `f` is (`normalizeNode_mapLiterals`): it moves literals along when a schema
is split by its types or hoisted, and neither changes them nor looks at them.

`HasLiteral` says the same of positions: that `f` leaves all literals of a value alone means that
`mapLiterals f` leaves the value alone (`mapLiterals_eq_self_iff`), so that no literal of a normal form
is new. -/

namespace OpenApi

/-! ## Maps with all values replaced -/

namespace Entries

variable {α β : Type} (g : String → α → β)

/-- Applies `g` to every value with its name. -/
def mapKeyed (e : Entries α) : Entries β := e.map fun entry => (entry.1, g entry.1 entry.2)

@[simp] theorem mapKeyed_cons (entry : String × α) (e : Entries α) :
    mapKeyed g (entry :: e) = (entry.1, g entry.1 entry.2) :: mapKeyed g e := rfl

theorem mapKeyed_append (e e' : Entries α) :
    mapKeyed g (e ++ e') = mapKeyed g e ++ mapKeyed g e' := List.map_append

theorem get?_mapKeyed (e : Entries α) (key : String) :
    (mapKeyed g e).get? key = (e.get? key).map (g key) := by
  induction e with
  | nil => rfl
  | cons entry e ih =>
      rw [mapKeyed_cons, get?_cons, get?_cons, ih]
      by_cases h : key = entry.1 <;> simp [h]

theorem has_mapKeyed (e : Entries α) (key : String) : (mapKeyed g e).has key = e.has key := by
  simp [has, get?_mapKeyed]

theorem mapKeyed_put (key : String) (value : α) (e : Entries α) :
    mapKeyed g (put key value e) = put key (g key value) (mapKeyed g e) := by
  induction e with
  | nil => rfl
  | cons entry e ih =>
      rw [mapKeyed_cons, put, put]
      by_cases h : entry.1 = key
      · simp [h]
      · simp [h, ih]

theorem mapKeyed_putNew (key : String) (value : α) (e : Entries α) :
    mapKeyed g (putNew key value e) = putNew key (g key value) (mapKeyed g e) := by
  by_cases h : e.has key = true
  · simp [putNew, has_mapKeyed, h]
  · rw [putNew, putNew, has_mapKeyed, if_neg h, if_neg h, mapKeyed_append]
    rfl

theorem mapKeyed_erase (key : String) (e : Entries α) :
    mapKeyed g (erase e key) = erase (mapKeyed g e) key := by
  induction e with
  | nil => rfl
  | cons entry e ih =>
      unfold erase at ih ⊢
      rw [mapKeyed_cons, List.filter_cons, List.filter_cons, ← ih]
      split <;> rfl

end Entries

namespace Dialect

/-! ## Replacing literals -/

mutual

/-- The value with `f` applied to the literals of every map at a position. What `f` makes of a literal
    may depend on the key that it stands under. -/
def mapLiterals (f : String → Json → Json) : Json → Json
  | .object es => .object (mapMembers f es)
  | .array xs => .array (mapItems f xs)
  | v => v

/-- The members of a map with their literals replaced. -/
def mapMembers (f : String → Json → Json) : List (String × Json) → List (String × Json)
  | [] => []
  | (key, .object named) :: rest =>
      (key,
        if isLiteralKey key then f key (.object named)
        else if isNameMap key then .object (mapNamed f named)
        else .object (mapMembers f named)) :: mapMembers f rest
  | (key, v) :: rest =>
      (key, if isLiteralKey key then f key v else mapLiterals f v) :: mapMembers f rest

/-- The entries of a map from names with their literals replaced. -/
def mapNamed (f : String → Json → Json) : List (String × Json) → List (String × Json)
  | [] => []
  | (name, v) :: rest => (name, mapLiterals f v) :: mapNamed f rest

/-- The items of an array with their literals replaced. -/
def mapItems (f : String → Json → Json) : List Json → List Json
  | [] => []
  | x :: xs => mapLiterals f x :: mapItems f xs

end

/-- The value of a member with its literals replaced. -/
def mapUnder (f : String → Json → Json) (key : String) (v : Json) : Json :=
  if isLiteralKey key then f key v
  else if isNameMap key then
    match v with
    | .object named => .object (Entries.mapValues (mapLiterals f) named)
    | v => mapLiterals f v
  else mapLiterals f v

section

variable (f : String → Json → Json) {key : String} {v w : Json}

theorem mapItems_eq_map (xs : List Json) : mapItems f xs = xs.map (mapLiterals f) := by
  induction xs with
  | nil => rfl
  | cons x xs ih => simp [mapItems, ih]

theorem mapNamed_eq_mapValues (named : List (String × Json)) :
    mapNamed f named = Entries.mapValues (mapLiterals f) named := by
  induction named with
  | nil => rfl
  | cons e named ih =>
      obtain ⟨name, v⟩ := e
      simp only [mapNamed, ih, Entries.mapValues, List.map_cons]

theorem mapMembers_eq_mapKeyed (es : List (String × Json)) :
    mapMembers f es = Entries.mapKeyed (mapUnder f) es := by
  induction es with
  | nil => rfl
  | cons e es ih =>
      obtain ⟨key, v⟩ := e
      rw [Entries.mapKeyed_cons, ← ih]
      cases v <;>
        simp [mapMembers, mapUnder, mapNamed_eq_mapValues, mapLiterals]

theorem mapLiterals_object (es : List (String × Json)) :
    mapLiterals f (.object es) = .object (Entries.mapKeyed (mapUnder f) es) := by
  rw [mapLiterals, mapMembers_eq_mapKeyed]

@[simp] theorem mapLiterals_array (xs : List Json) :
    mapLiterals f (.array xs) = .array (xs.map (mapLiterals f)) := by
  rw [mapLiterals, mapItems_eq_map]

/-! The value under a key is a literal, a map from names, or any other value. -/

theorem mapUnder_literal (hl : isLiteralKey key = true) : mapUnder f key v = f key v := by
  simp [mapUnder, hl]

theorem mapUnder_named {named : List (String × Json)} (hl : isLiteralKey key = false)
    (hn : isNameMap key = true) :
    mapUnder f key (.object named) = .object (Entries.mapValues (mapLiterals f) named) := by
  simp [mapUnder, hl, hn]

theorem mapUnder_value (hl : isLiteralKey key = false)
    (hv : isNameMap key = true → ∀ named, v ≠ .object named) :
    mapUnder f key v = mapLiterals f v := by
  by_cases hn : isNameMap key = true
  · cases v with
    | object named => exact absurd rfl (hv hn named)
    | _ => simp [mapUnder, hl, hn]
  · simp [mapUnder, hl, hn]

theorem mapUnder_keyword (hk : key ∈ keywords) (v : Json) : mapUnder f key v = mapLiterals f v :=
  mapUnder_value f (isLiteralKey_keyword hk) fun hn => by simp [isNameMap_keyword hk] at hn

/-! ## The literals of a value -/

/-- The literal `w` stands under `key` in a map at a position of the value. -/
def HasLiteral (v : Json) (key : String) (w : Json) : Prop :=
  ∃ es, Within v (.object es) ∧ (key, w) ∈ es ∧ isLiteralKey key = true

theorem hasLiteral_iff : HasLiteral v key w ↔
    isLiteralKey key = true ∧ ¬ Everywhere (fun es => (key, w) ∉ es) v := by
  simp only [HasLiteral, Everywhere, not_forall, not_not, exists_prop]
  constructor
  · rintro ⟨es, hes, hmem, hl⟩
    exact ⟨hl, es, hes, hmem⟩
  · rintro ⟨hl, es, hes, hmem⟩
    exact ⟨es, hes, hmem, hl⟩

instance (v : Json) (key : String) (w : Json) : Decidable (HasLiteral v key w) :=
  decidable_of_iff' _ hasLiteral_iff

variable {f}

/-- The value of a member stays as it is when it is no literal that changes and nothing below it
    changes. -/
theorem mapUnder_eq_self_iff : mapUnder f key v = v ↔
    (isLiteralKey key = true → f key v = v) ∧ ∀ w, Under key v w → mapLiterals f w = w := by
  cases hl : isLiteralKey key with
  | true => simp [mapUnder_literal f hl, not_under_of_isLiteralKey hl]
  | false =>
      by_cases hn : isNameMap key = true ∧ ∃ named, v = .object named
      · obtain ⟨hn, named, rfl⟩ := hn
        simp only [mapUnder_named f hl hn, under_named_iff hl hn, Bool.false_eq_true, false_implies,
          true_and, Json.object.injEq, Entries.mapValues]
        constructor
        · rintro h w ⟨name, hmem⟩
          have := List.map_inj_left.1 (h.trans (List.map_id' named).symm) _ hmem
          exact (Prod.mk.inj this).2
        · intro h
          refine (List.map_congr_left fun e he => ?_).trans (List.map_id' named)
          rw [h e.2 ⟨e.1, he⟩]
      · have hv : isNameMap key = true → ∀ named, v ≠ .object named :=
          fun hk named h => hn ⟨hk, named, h⟩
        simp [mapUnder_value f hl hv, under_value_iff hl hv]

theorem mapKeyed_eq_self_iff {g : String → Json → Json} {es : Entries Json} :
    Entries.mapKeyed g es = es ↔ ∀ key v, (key, v) ∈ es → g key v = v := by
  constructor
  · intro h key v hmem
    have := List.map_inj_left.1 (h.trans (List.map_id' es).symm) _ hmem
    exact (Prod.mk.inj this).2
  · intro h
    refine (List.map_congr_left fun e he => ?_).trans (List.map_id' es)
    rw [h e.1 e.2 he]

/-- Replacing literals changes a value just when it changes one of its literals. -/
theorem mapLiterals_eq_self_iff :
    mapLiterals f v = v ↔ ∀ key w, HasLiteral v key w → f key w = w := by
  have heverywhere : mapLiterals f v = v ↔
      Everywhere (fun es => ∀ key w, (key, w) ∈ es → isLiteralKey key = true → f key w = w) v := by
    induction hw : weight v using Nat.strongRecOn generalizing v with
    | ind n ih =>
        have hpart := fun w (hp : Part v w) => ih _ (hw ▸ hp.weight_lt) rfl
        cases v with
        | object es =>
            rw [everywhere_object, mapLiterals_object, Json.object.injEq, mapKeyed_eq_self_iff]
            simp only [mapUnder_eq_self_iff]
            constructor
            · intro h
              exact ⟨fun key v hmem => (h key v hmem).1,
                fun key v hmem w hu => (hpart w (.member hmem hu)).1 ((h key v hmem).2 w hu)⟩
            · rintro ⟨hhere, hbelow⟩ key v hmem
              exact ⟨hhere key v hmem,
                fun w hu => (hpart w (.member hmem hu)).2 (hbelow key v hmem w hu)⟩
        | array xs =>
            rw [everywhere_array, mapLiterals_array, Json.array.injEq]
            constructor
            · intro h x hx
              refine (hpart x (.item hx)).1 ?_
              exact List.map_inj_left.1 (h.trans (List.map_id' xs).symm) x hx
            · intro h
              refine (List.map_congr_left fun x hx => ?_).trans (List.map_id' xs)
              exact (hpart x (.item hx)).2 (h x hx)
        | _ => simp [mapLiterals, everywhere_scalar]
  rw [heverywhere]
  constructor
  · rintro h key w ⟨es, hes, hmem, hl⟩
    exact h es hes key w hmem hl
  · intro h es hes key w hmem hl
    exact h key w ⟨es, hes, hmem, hl⟩

end

/-! ## The rules of normalization -/

section

variable (f : String → Json → Json) {key : String}

@[simp] theorem isText_mapLiterals (s : String) (v : Json) :
    isText s (mapLiterals f v) = isText s v := by
  cases v <;> simp [mapLiterals, isText]

theorem ownKeywords_mapLiterals (t : Json) : ownKeywords (mapLiterals f t) = ownKeywords t := by
  simp [ownKeywords]

theorem itemsOf_mapUnder (hk : key ∈ keywords) (v : Option Json) :
    itemsOf (v.map (mapUnder f key)) = (itemsOf v).map (mapLiterals f) := by
  cases v with
  | none => rfl
  | some v =>
      rw [Option.map_some, mapUnder_keyword f hk]
      cases v <;> simp [mapLiterals, itemsOf, mapItems_eq_map]

/-- Whether a schema is one for null shows in its type and its keys alone. -/
theorem isNullSchema_mapLiterals (v : Json) :
    isNullSchema (mapLiterals f v) = isNullSchema v := by
  cases v with
  | object es =>
      have hkeys : ∀ p : String → Bool,
          (Entries.mapKeyed (mapUnder f) es).all (fun e => p e.1) = es.all fun e => p e.1 := by
        intro p
        simp [Entries.mapKeyed, List.all_map, Function.comp_def]
      rw [mapLiterals_object, isNullSchema, isNullSchema, hkeys, Entries.get?_mapKeyed]
      cases Entries.get? es "type" with
      | none => rfl
      | some t => simp [mapUnder_keyword f (show "type" ∈ keywords by decide)]
  | _ => simp [mapLiterals, isNullSchema]

theorem takeKeys_mapKeyed (g : String → Json → Json) (keys : List String) (es : Entries Json) :
    takeKeys keys (es.mapKeyed g)
      = ((takeKeys keys es).1.mapKeyed g, (takeKeys keys es).2.mapKeyed g) := by
  induction keys generalizing es with
  | nil => rfl
  | cons key keys ih =>
      rw [takeKeys, takeKeys, Entries.get?_mapKeyed]
      cases es.get? key with
      | none => exact ih es
      | some v => simp [← Entries.mapKeyed_erase, ih]

/-- The branches of a list of types take the literals along with the keywords that they own. -/
theorem splitBranches_mapLiterals (ts : List Json) (es : Entries Json) :
    splitBranches (ts.map (mapLiterals f)) (es.mapKeyed (mapUnder f))
      = ((splitBranches ts es).1.map (mapLiterals f),
          (splitBranches ts es).2.mapKeyed (mapUnder f)) := by
  induction ts generalizing es with
  | nil => rfl
  | cons t ts ih =>
      simp only [List.map_cons, splitBranches, ownKeywords_mapLiterals, takeKeys_mapKeyed, ih,
        mapLiterals_object, Entries.mapKeyed_cons,
        mapUnder_keyword f (show "type" ∈ keywords by decide)]

theorem addBranches_mapLiterals (branches : List Json) (es : Entries Json) :
    addBranches (branches.map (mapLiterals f)) (es.mapKeyed (mapUnder f))
      = (addBranches branches es).mapKeyed (mapUnder f) := by
  have hlist : ∀ key ∈ keywords, ∀ xs, Entries.mapKeyed (mapUnder f) [(key, .array xs)]
      = [(key, .array (xs.map (mapLiterals f)))] := by
    intro key hk xs
    rw [Entries.mapKeyed_cons, mapUnder_keyword f hk, mapLiterals_array]
    rfl
  have hany := hlist "anyOf" (by decide)
  have hall := hlist "allOf" (by decide)
  unfold addBranches
  rw [Entries.has_mapKeyed]
  by_cases h : es.has "anyOf" = true
  · rw [if_pos h, if_pos h, Entries.mapKeyed_append, hall, Entries.mapKeyed_erase,
      Entries.get?_mapKeyed, itemsOf_mapUnder f (by decide), List.map_append, List.map_singleton,
      mapLiterals_object, hany]
  · rw [if_neg h, if_neg h, Entries.mapKeyed_append, hany]

theorem setTypes_mapLiterals (ts : List Json) (es : Entries Json) :
    setTypes (ts.map (mapLiterals f)) (es.mapKeyed (mapUnder f))
      = (setTypes ts es).mapKeyed (mapUnder f) := by
  have hput : ∀ t, Entries.mapKeyed (mapUnder f) (es.put "type" t)
      = (es.mapKeyed (mapUnder f)).put "type" (mapLiterals f t) := by
    intro t
    rw [Entries.mapKeyed_put, mapUnder_keyword f (by decide)]
  match ts with
  | [] => exact ((hput (.string "null")).trans (by simp [mapLiterals, setTypes])).symm
  | [t] => exact (hput t).symm
  | t :: u :: ts =>
      have hsplit := splitBranches_mapLiterals f (t :: u :: ts) (es.erase "type")
      rw [Entries.mapKeyed_erase] at hsplit
      simp only [List.map_cons] at hsplit
      simp only [List.map_cons, setTypes, hsplit, addBranches_mapLiterals]

theorem setNullable_mapLiterals (es : Entries Json) :
    setNullable (es.mapKeyed (mapUnder f)) = (setNullable es).mapKeyed (mapUnder f) := by
  rw [setNullable, setNullable, Entries.mapKeyed_put, mapUnder_keyword f (by decide)]
  simp [mapLiterals]

theorem filter_mapLiterals {p : Json → Bool} (hp : ∀ v, p (mapLiterals f v) = p v)
    (vs : List Json) :
    (vs.map (mapLiterals f)).filter p = (vs.filter p).map (mapLiterals f) := by
  rw [List.filter_map]
  congr 2
  exact funext hp

theorem any_mapLiterals {p : Json → Bool} (hp : ∀ v, p (mapLiterals f v) = p v) (vs : List Json) :
    (vs.map (mapLiterals f)).any p = vs.any p := by
  rw [List.any_map]
  congr 1
  exact funext hp

theorem collapseTypes_mapLiterals (es : Entries Json) :
    collapseTypes (es.mapKeyed (mapUnder f)) = (collapseTypes es).mapKeyed (mapUnder f) := by
  simp only [collapseTypes, Entries.get?_mapKeyed]
  cases es.get? "type" with
  | none => rfl
  | some t =>
      rw [Option.map_some, mapUnder_keyword f (by decide)]
      cases t with
      | array types =>
          simp only [mapLiterals_array]
          rw [filter_mapLiterals f (fun v => by rw [isText_mapLiterals]),
            any_mapLiterals f (isText_mapLiterals f "null"), setTypes_mapLiterals]
          by_cases h : types.any (isText "null") = true
          · rw [if_pos h, if_pos h, setNullable_mapLiterals]
          · rw [if_neg h, if_neg h]
      | _ => simp [mapLiterals]

/-- A branch that is hoisted brings its literals along under their keys. -/
theorem hoist_mapLiterals (b : Json) (es : Entries Json) :
    hoist (mapLiterals f b) (es.mapKeyed (mapUnder f)) = (hoist b es).mapKeyed (mapUnder f) := by
  cases b with
  | object inner =>
      rw [mapLiterals_object]
      simp only [hoist]
      induction inner generalizing es with
      | nil => rfl
      | cons e inner ih =>
          rw [Entries.mapKeyed_cons, List.foldl_cons, List.foldl_cons, ← Entries.mapKeyed_putNew, ih]
  | _ => simp [mapLiterals, hoist]

theorem setBranches_mapLiterals (hk : key ∈ keywords) (branches : List Json) (es : Entries Json) :
    setBranches key (branches.map (mapLiterals f)) (es.mapKeyed (mapUnder f))
      = (setBranches key branches es).mapKeyed (mapUnder f) := by
  match branches with
  | [] =>
      simp only [List.map_nil, setBranches, Entries.mapKeyed_put, Entries.mapKeyed_erase,
        mapUnder_keyword f (show "type" ∈ keywords by decide), mapLiterals]
  | [b] =>
      simp only [List.map_cons, List.map_nil, setBranches, ← Entries.mapKeyed_erase,
        hoist_mapLiterals]
  | b :: b' :: bs =>
      simp only [List.map_cons, setBranches, Entries.mapKeyed_put, mapUnder_keyword f hk,
        mapLiterals_array]

theorem collapseNullBranches_mapLiterals (hk : key ∈ keywords) (es : Entries Json) :
    collapseNullBranches key (es.mapKeyed (mapUnder f))
      = (collapseNullBranches key es).mapKeyed (mapUnder f) := by
  simp only [collapseNullBranches, Entries.get?_mapKeyed]
  cases es.get? key with
  | none => rfl
  | some v =>
      rw [Option.map_some, mapUnder_keyword f hk]
      cases v with
      | array branches =>
          simp only [mapLiterals_array]
          rw [filter_mapLiterals f (fun v => by rw [isNullSchema_mapLiterals]),
            any_mapLiterals f (isNullSchema_mapLiterals f), setNullable_mapLiterals,
            setBranches_mapLiterals f hk]
          by_cases h : branches.any isNullSchema = true
          · rw [if_pos h, if_pos h]
          · rw [if_neg h, if_neg h]
      | _ => simp [mapLiterals]

/-- Neither rule looks at a literal. -/
theorem collapse_mapLiterals (es : Entries Json) :
    collapse (es.mapKeyed (mapUnder f)) = (collapse es).mapKeyed (mapUnder f) := by
  rw [collapse, collapseTypes_mapLiterals, collapseNullBranches_mapLiterals f (by decide),
    collapseNullBranches_mapLiterals f (by decide), collapse]

/-! ## Normal forms -/

theorem mapLiterals_ne_object {v : Json} (h : ∀ es, v ≠ .object es) (es : List (String × Json)) :
    mapLiterals f v ≠ .object es := by
  cases v with
  | object fs => exact absurd rfl (h fs)
  | _ => simp [mapLiterals]

theorem normalizeUnder_mapUnder {v : Json}
    (h : ∀ w, Under key v w → normalizeNode (mapLiterals f w) = mapLiterals f (normalizeNode w)) :
    normalizeUnder key (mapUnder f key v) = mapUnder f key (normalizeUnder key v) := by
  cases hl : isLiteralKey key with
  | true => simp [mapUnder_literal f hl, normalizeUnder, hl]
  | false =>
      by_cases hn : isNameMap key = true ∧ ∃ named, v = .object named
      · obtain ⟨hn, named, rfl⟩ := hn
        rw [mapUnder_named f hl hn]
        simp only [normalizeUnder, hl, hn, Bool.false_eq_true, if_false, if_true]
        rw [mapUnder_named f hl hn, normalizeNamed_eq_map, normalizeNamed_eq_map]
        simp only [Entries.mapValues, List.map_map, Json.object.injEq]
        refine List.map_congr_left fun e he => ?_
        simp [h e.2 ((under_named_iff hl hn).2 ⟨e.1, he⟩)]
      · have hv : isNameMap key = true → ∀ named, v ≠ .object named :=
          fun hk named h => hn ⟨hk, named, h⟩
        rw [mapUnder_value f hl hv,
          normalizeUnder_of_not_named hl fun hk => mapLiterals_ne_object f (hv hk),
          normalizeUnder_of_not_named hl hv,
          mapUnder_value f hl fun hk => normalizeNode_ne_object (hv hk)]
        exact h v ((under_value_iff hl hv).2 rfl)

/-- Normalization commutes with replacing the literals of a value. -/
theorem normalizeNode_mapLiterals (v : Json) :
    normalizeNode (mapLiterals f v) = mapLiterals f (normalizeNode v) := by
  induction hw : weight v using Nat.strongRecOn generalizing v with
  | ind n ih =>
      cases v with
      | object es =>
          rw [mapLiterals_object, normalizeNode, collapse_mapLiterals, normalizeNode,
            mapLiterals_object, normalizeEntries_eq_map, normalizeEntries_eq_map]
          simp only [Entries.mapKeyed, List.map_map, Json.object.injEq]
          refine List.map_congr_left fun e he => ?_
          have hbelow : ∀ w, Under e.1 e.2 w →
              normalizeNode (mapLiterals f w) = mapLiterals f (normalizeNode w) := by
            intro w hu
            -- what is below the collapsed map weighs less than the map
            have hlt : weight w < weight (.object (collapse es)) := (Part.member he hu).weight_lt
            have hle := entriesWeight_collapse_le es
            simp only [weight] at hlt hw
            exact ih _ (by omega) w rfl
          simp [normalizeUnder_mapUnder f hbelow]
      | array xs =>
          rw [mapLiterals_array, normalizeNode, normalizeNode, mapLiterals_array,
            normalizeItems_eq_map, normalizeItems_eq_map]
          simp only [List.map_map, Json.array.injEq]
          refine List.map_congr_left fun x hx => ?_
          have hlt : weight x < weight (.array xs) := (Part.item hx).weight_lt
          exact ih _ (hw ▸ hlt) x rfl
      | _ => simp [mapLiterals, normalizeNode]

end

/-- A literal of a normal form is one of the value that was normalized, under the same key. -/
theorem HasLiteral.of_normalizeNode {v w : Json} {key : String}
    (h : HasLiteral (normalizeNode v) key w) : HasLiteral v key w := by
  classical
  by_contra hnew
  -- what changes all values but the literals of `v` leaves `v` alone, and so its normal form
  let f : String → Json → Json := fun key w => if HasLiteral v key w then w else .array [w]
  have hv : mapLiterals f v = v := mapLiterals_eq_self_iff.2 fun key w hw => if_pos hw
  have hnormal : mapLiterals f (normalizeNode v) = normalizeNode v := by
    rw [← normalizeNode_mapLiterals, hv]
  have hw : f key w = w := mapLiterals_eq_self_iff.1 hnormal key w h
  have hchanged : f key w = .array [w] := if_neg hnew
  have hsize := congrArg sizeOf (hchanged.symm.trans hw)
  simp only [Json.array.sizeOf_spec, List.cons.sizeOf_spec, List.nil.sizeOf_spec] at hsize
  omega

/-! ## Documents -/

/-- Replacing literals leaves the version of a document alone. -/
theorem ofDocument_mapLiterals (f : String → Json → Json) {doc : Json} {d : Dialect}
    (h : ofDocument doc = .ok d) : ofDocument (mapLiterals f doc) = .ok d := by
  obtain ⟨version, hversion, hdetect⟩ := ofDocument_eq_ok_iff.1 h
  obtain ⟨hobject, harray⟩ := scalar_of_version hdetect
  have hkept : mapLiterals f version = version := by
    cases version with
    | object es => exact absurd rfl (hobject es)
    | array xs => exact absurd rfl (harray xs)
    | _ => rfl
  refine ofDocument_eq_ok_iff.2 ⟨version, ?_, hdetect⟩
  cases doc with
  | object es =>
      rw [Json.member?] at hversion
      rw [mapLiterals_object, Json.member?, Entries.get?_mapKeyed, hversion, Option.map_some,
        mapUnder_keyword f (by decide), hkept]
  | _ => simp [Json.member?] at hversion

/-- A document of version 3.1 or later with some of its literals replaced, by whatever values, is
    normalized to its normal form with the same literals replaced. The normal form has no literals but
    those of the document. -/
theorem normalize_mapLiterals {doc : Json} (h : ofDocument doc = .ok .v31) :
    ∃ out, normalize doc = .ok out ∧
      (∀ f : String → Json → Json, normalize (mapLiterals f doc) = .ok (mapLiterals f out)) ∧
      ∀ key w, HasLiteral out key w → HasLiteral doc key w := by
  refine ⟨normalizeNode doc, normalize_eq h, fun f => ?_, fun key w hw => hw.of_normalizeNode⟩
  rw [normalize_eq (ofDocument_mapLiterals f h), normalizeNode_mapLiterals]

/-- A schema whose literals are moved: one into the branch of a type, two out of a branch that is
    hoisted. A property is called like a literal. -/
def literalSchema : Json :=
  .object [("type", .array [.string "object", .string "string"]),
    ("x-order", .array [.object [("type", .array [.string "null"])]]),
    ("properties", .object [("default", .object [("default", .object [("type", .array [])])])]),
    ("oneOf", .array [.object [("enum", .array [.null]), ("x-order", .null)],
      .object [("type", .string "null")]])]

theorem normalize_mapLiterals_literalSchema :
    ofDocument (documentOf literalSchema) = .ok .v31 ∧
      ∃ out, normalize (documentOf literalSchema) = .ok out ∧
        normalize (mapLiterals (fun key _ => .string key) (documentOf literalSchema))
          = .ok (mapLiterals (fun key _ => .string key) out) ∧
        HasLiteral out "enum" (.array [.null]) ∧ ¬ HasLiteral out "x-order" .null ∧
        HasLiteral (documentOf literalSchema) "enum" (.array [.null]) := by
  have hversion := ofDocument_documentOf literalSchema
  have henum : HasLiteral (normalizeNode (documentOf literalSchema)) "enum" (.array [.null]) := by
    decide +kernel
  have horder : ¬ HasLiteral (normalizeNode (documentOf literalSchema)) "x-order" .null := by
    decide +kernel
  obtain ⟨out, hout, hmap, hliteral⟩ := normalize_mapLiterals hversion
  obtain rfl : normalizeNode (documentOf literalSchema) = out :=
    Except.ok.inj ((normalize_eq hversion).symm.trans hout)
  exact ⟨hversion, _, hout, hmap _, henum, horder, hliteral _ _ henum⟩

end Dialect

end OpenApi
