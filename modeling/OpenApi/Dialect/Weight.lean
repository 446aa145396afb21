import OpenApi.Dialect.Collapse

set_option autoImplicit false

/-! # The weight of a value

The weight of a value is its size, where what stands under `type` counts eightfold. Neither rule of
`collapse` makes a schema heavier (`entriesWeight_collapse_le`): a list of types under `type` outweighs
the branches that it is split into. That is why applying the rules on the way down through a document
comes to an end. -/

namespace OpenApi

namespace Dialect

/-- How often the value under a key counts. -/
def factor (key : String) : Nat := if key = "type" then 8 else 1

mutual

/-- The weight of a value. -/
def weight : Json → Nat
  | .array xs => 1 + itemsWeight xs
  | .object es => 1 + entriesWeight es
  | _ => 1

/-- The weight of a list of items. -/
def itemsWeight : List Json → Nat
  | [] => 0
  | x :: xs => 1 + weight x + itemsWeight xs

/-- The weight of a list of entries. -/
def entriesWeight : List (String × Json) → Nat
  | [] => 0
  | (key, x) :: es => 1 + factor key * weight x + entriesWeight es

end

theorem weight_pos (v : Json) : 1 ≤ weight v := by cases v <;> simp [weight]

theorem one_le_factor (key : String) : 1 ≤ factor key := by unfold factor; split <;> decide

theorem weight_le_entry (key : String) (v : Json) : weight v ≤ factor key * weight v :=
  Nat.le_mul_of_pos_left _ (one_le_factor key)

theorem itemsWeight_append (xs ys : List Json) :
    itemsWeight (xs ++ ys) = itemsWeight xs + itemsWeight ys := by
  induction xs with
  | nil => simp [itemsWeight]
  | cons x xs ih => simp only [List.cons_append, itemsWeight, ih]; omega

theorem entriesWeight_append (es fs : List (String × Json)) :
    entriesWeight (es ++ fs) = entriesWeight es + entriesWeight fs := by
  induction es with
  | nil => simp [entriesWeight]
  | cons e es ih =>
      obtain ⟨k, v⟩ := e
      simp only [List.cons_append, entriesWeight, ih]
      omega

theorem entriesWeight_erase_le (es : Entries Json) (key : String) :
    entriesWeight (es.erase key) ≤ entriesWeight es := by
  induction es with
  | nil => simp [Entries.erase]
  | cons e es ih =>
      obtain ⟨k, v⟩ := e
      by_cases h : k = key
      · simp only [Entries.erase, h, ne_eq, not_true_eq_false, decide_false, Bool.false_eq_true,
          not_false_eq_true, List.filter_cons_of_neg, entriesWeight] at ih ⊢
        omega
      · simp only [Entries.erase, h, ne_eq, not_false_eq_true, decide_true,
          List.filter_cons_of_pos, entriesWeight] at ih ⊢
        omega

/-- Erasing a key takes away at least the weight of its entry. -/
theorem entriesWeight_erase_add_le {es : Entries Json} {key : String} {v : Json}
    (h : es.get? key = some v) :
    entriesWeight (es.erase key) + (1 + factor key * weight v) ≤ entriesWeight es := by
  induction es with
  | nil => simp at h
  | cons e es ih =>
      obtain ⟨k, w⟩ := e
      rw [Entries.get?_cons] at h
      by_cases hk : k = key
      · subst hk
        simp only [if_true, Option.some.injEq] at h
        subst h
        have := entriesWeight_erase_le es k
        simp only [Entries.erase, ne_eq, not_true_eq_false, decide_false, Bool.false_eq_true,
          not_false_eq_true, List.filter_cons_of_neg, entriesWeight] at this ⊢
        omega
      · have hk' : ¬ key = k := fun he => hk he.symm
        simp only [hk', if_false] at h
        have := ih h
        simp only [Entries.erase, ne_eq, hk, not_false_eq_true, decide_true,
          List.filter_cons_of_pos, entriesWeight] at this ⊢
        omega

/-- Setting a value adds at most the weight of its entry. -/
theorem entriesWeight_put_le (key : String) (v : Json) (es : Entries Json) :
    entriesWeight (es.put key v) ≤ entriesWeight es + (1 + factor key * weight v) := by
  induction es with
  | nil => simp [Entries.put, entriesWeight]
  | cons e es ih =>
      obtain ⟨k, w⟩ := e
      unfold Entries.put
      split
      · simp only [entriesWeight]; omega
      · simp only [entriesWeight]; omega

/-- Setting the value of a known key replaces its weight. -/
theorem entriesWeight_put_add {es : Entries Json} {key : String} {u : Json}
    (h : es.get? key = some u) (v : Json) :
    entriesWeight (es.put key v) + factor key * weight u
      = entriesWeight es + factor key * weight v := by
  induction es with
  | nil => simp at h
  | cons e es ih =>
      obtain ⟨k, w⟩ := e
      rw [Entries.get?_cons] at h
      by_cases hk : k = key
      · subst hk
        simp only [if_true, Option.some.injEq] at h
        subst h
        simp only [Entries.put, if_true, entriesWeight]
        omega
      · have hk' : ¬ key = k := fun he => hk he.symm
        simp only [hk', if_false] at h
        have := ih h
        simp only [Entries.put, hk, if_false, entriesWeight]
        omega

theorem entriesWeight_putNew_le (key : String) (v : Json) (es : Entries Json) :
    entriesWeight (Entries.putNew key v es) ≤ entriesWeight es + (1 + factor key * weight v) := by
  unfold Entries.putNew
  split
  · omega
  · rw [entriesWeight_append]; simp [entriesWeight]

theorem entriesWeight_hoist_le (b : Json) (es : Entries Json) :
    entriesWeight (hoist b es) + 1 ≤ entriesWeight es + weight b := by
  cases b with
  | object inner =>
      simp only [hoist, weight]
      induction inner generalizing es with
      | nil => simp [entriesWeight]
      | cons e inner ih =>
          obtain ⟨k, v⟩ := e
          have := ih (Entries.putNew k v es)
          have := entriesWeight_putNew_le k v es
          simp only [List.foldl_cons, entriesWeight] at *
          omega
  | _ => simp [hoist, weight]

theorem takeKeys_weight_le (keys : List String) (es : Entries Json) :
    entriesWeight (takeKeys keys es).1 + entriesWeight (takeKeys keys es).2 ≤ entriesWeight es := by
  induction keys generalizing es with
  | nil => simp [takeKeys, entriesWeight]
  | cons key keys ih =>
      unfold takeKeys
      split
      · next v h =>
          have := ih (es.erase key)
          have := entriesWeight_erase_add_le h
          simp only [entriesWeight]
          omega
      · exact ih es

/-- The branches of a type list weigh less than the list does under `type`, by five for each of
    them. -/
theorem splitBranches_weight_le (ts : List Json) (es : Entries Json) :
    itemsWeight (splitBranches ts es).1 + entriesWeight (splitBranches ts es).2 + 5 * ts.length
      ≤ 8 * itemsWeight ts + entriesWeight es := by
  induction ts generalizing es with
  | nil => simp [splitBranches, itemsWeight]
  | cons t ts ih =>
      have h₁ := takeKeys_weight_le (ownKeywords t) es
      have h₂ := ih (takeKeys (ownKeywords t) es).2
      simp only [splitBranches, itemsWeight, weight, entriesWeight, factor, if_true,
        List.length_cons] at *
      omega

theorem itemsWeight_filter_le (p : Json → Bool) (xs : List Json) :
    itemsWeight (xs.filter p) ≤ itemsWeight xs := by
  induction xs with
  | nil => simp
  | cons x xs ih =>
      rw [List.filter_cons]
      split <;> simp only [itemsWeight] <;> omega

/-- Dropping an item takes away at least its weight. -/
theorem itemsWeight_filter_add_le {p : Json → Bool} {xs : List Json} {x : Json} (hx : x ∈ xs)
    (hp : p x = false) : itemsWeight (xs.filter p) + (1 + weight x) ≤ itemsWeight xs := by
  induction xs with
  | nil => simp at hx
  | cons y ys ih =>
      rcases List.mem_cons.1 hx with rfl | hy
      · have := itemsWeight_filter_le p ys
        simp only [hp, Bool.false_eq_true, not_false_eq_true, List.filter_cons_of_neg, itemsWeight]
        omega
      · have := ih hy
        rw [List.filter_cons]
        split <;> simp only [itemsWeight] <;> omega

theorem entriesWeight_addBranches_le (branches : List Json) (es : Entries Json) :
    entriesWeight (addBranches branches es) ≤ entriesWeight es + itemsWeight branches + 7 := by
  unfold addBranches
  split
  · rw [entriesWeight_append]
    have hf : factor "allOf" = 1 := by decide
    have hg : factor "anyOf" = 1 := by decide
    simp only [entriesWeight, weight, itemsWeight_append, itemsWeight, hf, hg]
    cases h : es.get? "allOf" with
    | none =>
        have := entriesWeight_erase_le es "allOf"
        simp only [itemsOf, itemsWeight]
        omega
    | some v =>
        have := entriesWeight_erase_add_le h
        have hv := weight_pos v
        cases v with
        | array xs =>
            simp only [itemsOf, weight, hf] at *
            omega
        | _ =>
            simp only [itemsOf, itemsWeight, hf] at *
            omega
  · rw [entriesWeight_append]
    have hg : factor "anyOf" = 1 := by decide
    simp only [entriesWeight, weight, hg]
    omega

/-- Replacing a type list never makes the schema heavier. -/
theorem entriesWeight_setTypes_le {es : Entries Json} {types : List Json} (ts : List Json)
    (h : es.get? "type" = some (.array types)) :
    entriesWeight (setTypes ts es) + 8 * itemsWeight types
      ≤ entriesWeight es + 8 * itemsWeight ts := by
  have hf : factor "type" = 8 := by decide
  match ts with
  | [] =>
      have := entriesWeight_put_add h (.string "null")
      simp only [setTypes, weight, hf, itemsWeight] at *
      omega
  | [t] =>
      have := entriesWeight_put_add h t
      simp only [setTypes, weight, hf, itemsWeight] at *
      omega
  | t :: u :: ts =>
      have h₁ := entriesWeight_erase_add_le h
      have h₂ := splitBranches_weight_le (t :: u :: ts) (es.erase "type")
      have h₃ := entriesWeight_addBranches_le
        (splitBranches (t :: u :: ts) (es.erase "type")).1
        (splitBranches (t :: u :: ts) (es.erase "type")).2
      simp only [weight, hf, List.length_cons] at h₁ h₂
      simp only [setTypes]
      omega

theorem entriesWeight_setNullable_le (es : Entries Json) :
    entriesWeight (setNullable es) ≤ entriesWeight es + 2 := by
  have := entriesWeight_put_le "nullable" (.bool true) es
  have hf : factor "nullable" = 1 := by decide
  simp only [hf, weight] at this
  exact this

theorem entriesWeight_collapseTypes_le (es : Entries Json) :
    entriesWeight (collapseTypes es) ≤ entriesWeight es := by
  simp only [collapseTypes]
  split
  · next types h =>
      have h₁ := entriesWeight_setTypes_le (types.filter (!isText "null" ·)) h
      split
      · next hany =>
          obtain ⟨x, hx, hn⟩ := List.any_eq_true.1 hany
          have h₂ := itemsWeight_filter_add_le (p := (!isText "null" ·)) hx (by simp [hn])
          have h₃ := entriesWeight_setNullable_le (setTypes (types.filter (!isText "null" ·)) es)
          omega
      · have h₂ := itemsWeight_filter_le (!isText "null" ·) types
        omega
  · exact Nat.le_refl _

/-- A schema for null has the weight of its `type` at least. -/
theorem weight_of_isNullSchema {v : Json} (h : isNullSchema v = true) : 10 ≤ weight v := by
  cases v with
  | object es =>
      simp only [isNullSchema, Bool.and_eq_true] at h
      cases ht : Entries.get? es "type" with
      | none => simp [ht] at h
      | some t =>
          have := entriesWeight_erase_add_le ht
          have hf : factor "type" = 8 := by decide
          have := weight_pos t
          simp only [weight, hf] at *
          omega
  | _ => simp [isNullSchema] at h

theorem get?_setNullable_of_ne {key : String} (h : key ≠ "nullable") (es : Entries Json) :
    (setNullable es).get? key = es.get? key := Entries.get?_put_of_ne h _ es

theorem entriesWeight_setBranches_le {key : String} (hk : factor key = 1) {es : Entries Json}
    {branches : List Json} (bs : List Json) (h : es.get? key = some (.array branches)) :
    entriesWeight (setBranches key bs es) + itemsWeight branches
      ≤ entriesWeight es + itemsWeight bs + 7 := by
  match bs with
  | [] =>
      have h₁ := entriesWeight_erase_add_le h
      have h₂ := entriesWeight_put_le "type" (.string "null") (es.erase key)
      have hf : factor "type" = 8 := by decide
      simp only [setBranches, weight, hk, hf, itemsWeight] at *
      omega
  | [b] =>
      have h₁ := entriesWeight_erase_add_le h
      have h₂ := entriesWeight_hoist_le b (es.erase key)
      simp only [setBranches, weight, hk, itemsWeight] at *
      omega
  | b :: c :: bs =>
      have := entriesWeight_put_add h (.array (b :: c :: bs))
      simp only [setBranches, weight, hk] at *
      omega

theorem entriesWeight_collapseNullBranches_le (key : String) (hk : factor key = 1)
    (hn : key ≠ "nullable") (es : Entries Json) :
    entriesWeight (collapseNullBranches key es) ≤ entriesWeight es := by
  unfold collapseNullBranches
  split
  · next branches h =>
      split
      · next hany =>
          obtain ⟨x, hx, hnull⟩ := List.any_eq_true.1 hany
          have h₁ := itemsWeight_filter_add_le (p := (!isNullSchema ·)) hx (by simp [hnull])
          have h₂ := weight_of_isNullSchema hnull
          have h₃ := entriesWeight_setNullable_le es
          have h₄ := entriesWeight_setBranches_le hk (branches.filter (!isNullSchema ·))
            ((get?_setNullable_of_ne hn es).trans h)
          omega
      · exact Nat.le_refl _
  · exact Nat.le_refl _

/-- The rules never make a schema heavier. -/
theorem entriesWeight_collapse_le (es : Entries Json) :
    entriesWeight (collapse es) ≤ entriesWeight es := by
  have h₁ := entriesWeight_collapseTypes_le es
  have h₂ := entriesWeight_collapseNullBranches_le "anyOf" (by decide) (by decide)
    (collapseTypes es)
  have h₃ := entriesWeight_collapseNullBranches_le "oneOf" (by decide) (by decide)
    (collapseNullBranches "anyOf" (collapseTypes es))
  simp only [collapse]
  omega

end Dialect

end OpenApi
