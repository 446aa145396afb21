import OpenApi.Proofs.Tidy

set_option autoImplicit false

/-! # What a hoisted branch keeps

A union of null with one other branch is dissolved into the schema around it. The lookups in the
result are known exactly (`get?_of_hoisted`): the schema keeps its own keywords, and of the branch
those arrive that the schema has no value for. A keyword of the branch is therefore lost just when the
schema has another value for it (`hoist_inForce`), where the union stood beside it and both were in
force. -/

namespace OpenApi

namespace Dialect

variable {es inner : Entries Json} {key k : String} {v : Json}

/-- The branch that is hoisted is the only one beside null branches, and an object. -/
theorem hoisted?_eq_some_iff : hoisted? key es = some inner ↔
    ∃ branches, es.get? key = some (.array branches) ∧ (∃ b ∈ branches, isNullSchema b = true) ∧
      branches.filter (!isNullSchema ·) = [.object inner] := by
  constructor
  · intro h
    unfold hoisted? at h
    split at h
    · next hbranch =>
        split at h
        · next honly =>
            cases h
            unfold hasBranch itemsOf at hbranch
            unfold itemsOf at honly
            split at honly
            · next branches hget =>
                rw [hget] at hbranch
                exact ⟨branches, hget, List.any_eq_true.1 hbranch, honly⟩
            · simp at honly
        · cases h
    · cases h
  · rintro ⟨branches, hget, hnull, honly⟩
    have hbranch : hasBranch isNullSchema key es = true := by
      rw [hasBranch, hget, itemsOf]
      exact List.any_eq_true.2 hnull
    rw [hoisted?, if_pos hbranch, hget, itemsOf, honly]

/-- The schema with the branch of its union hoisted: `nullable` is set, the union is replaced by that of
    the branch, and for any other keyword the schema comes before the branch. -/
theorem get?_of_hoisted (hkey : key ≠ "nullable") (h : hoisted? key es = some inner) (k : String) :
    Entries.get? (collapseNullBranches key es) k =
      if k = "nullable" then some (.bool true)
      else if k = key then inner.get? key
      else (es.get? k).or (inner.get? k) := by
  obtain ⟨branches, hget, hnull, honly⟩ := hoisted?_eq_some_iff.1 h
  have hout : collapseNullBranches key es = hoist (.object inner) ((setNullable es).erase key) := by
    simp only [collapseNullBranches, hget, List.any_eq_true.2 hnull, if_true, honly, setBranches]
  rw [hout, get?_hoist, Entries.get?_erase]
  by_cases hn : k = "nullable"
  · subst hn
    rw [if_neg hkey.symm, if_pos rfl, setNullable, Entries.get?_put_self, Option.some_or]
  · by_cases hk : k = key
    · subst hk
      rw [if_pos rfl, if_neg hn, if_pos rfl, Option.none_or]
    · rw [if_neg hk, if_neg hn, if_neg hk, get?_setNullable_of_ne hn]

/-- A keyword of the branch is still in force, but where the schema has another value for it. -/
theorem inForce_iff (hkey : key ≠ "nullable") (h : hoisted? key es = some inner)
    (hk : k ≠ "nullable") (hv : inner.get? k = some v) :
    (∃ w, Entries.get? (collapseNullBranches key es) k = some w ∧ Json.equal w v = true) ↔
      k = key ∨ ∀ w, es.get? k = some w → Json.equal w v = true := by
  rw [get?_of_hoisted hkey h, if_neg hk]
  by_cases hunion : k = key
  · subst hunion
    rw [if_pos rfl]
    exact ⟨fun _ => .inl rfl, fun _ => ⟨v, hv, Json.equal_refl v⟩⟩
  · rw [if_neg hunion, hv]
    cases hes : es.get? k with
    | none => simp
    | some w => simp [hunion]

/-- Hoisting the only branch beside null out of a union. The schema admits null, keeps every other
    keyword that it had, and has for the union what the branch has there: no null branch is left just
    when the union of the branch has none. Of the keywords of the branch those are still in force
    for which the schema had no value, or the same one; any other value of the branch is lost. -/
theorem hoist_inForce (hkey : key ≠ "nullable") {branches : List Json}
    (hget : es.get? key = some (.array branches)) (hnull : ∃ b ∈ branches, isNullSchema b = true)
    (honly : branches.filter (!isNullSchema ·) = [.object inner]) :
    Entries.get? (collapseNullBranches key es) "nullable" = some (.bool true) ∧
      (∀ k v, k ≠ key → k ≠ "nullable" → es.get? k = some v →
        Entries.get? (collapseNullBranches key es) k = some v) ∧
      Entries.get? (collapseNullBranches key es) key = inner.get? key ∧
      (hasBranch isNullSchema key (collapseNullBranches key es) = false ↔
        hasBranch isNullSchema key inner = false) ∧
      ∀ k v, k ≠ "nullable" → inner.get? k = some v →
        ((∃ w, Entries.get? (collapseNullBranches key es) k = some w ∧ Json.equal w v = true) ↔
          k = key ∨ ∀ w, es.get? k = some w → Json.equal w v = true) := by
  have h : hoisted? key es = some inner := hoisted?_eq_some_iff.2 ⟨branches, hget, hnull, honly⟩
  have hunion : Entries.get? (collapseNullBranches key es) key = inner.get? key := by
    rw [get?_of_hoisted hkey h, if_neg hkey, if_pos rfl]
  refine ⟨?_, fun k v hk hn hv => ?_, hunion, ?_, fun k v hk hv => inForce_iff hkey h hk hv⟩
  · rw [get?_of_hoisted hkey h, if_pos rfl]
  · rw [get?_of_hoisted hkey h, if_neg hn, if_neg hk, hv, Option.some_or]
  · rw [hasBranch, hasBranch, hunion]

/-- The other branch of a union with null, which says what it requires. -/
def requiringBranch : Entries Json :=
  [("required", .array [.string "b"]), ("minProperties", .number (.int 2))]

/-- A schema that requires one member, and the members of a branch unless it is null. -/
def requiringSchema : Entries Json :=
  [("type", .string "object"), ("required", .array [.string "a"]),
    ("anyOf", .array [.object requiringBranch, .object [("type", .string "null")]])]

theorem hoist_inForce_requiringSchema :
    Entries.get? (collapseNullBranches "anyOf" requiringSchema) "nullable" = some (.bool true) ∧
      Entries.get? (collapseNullBranches "anyOf" requiringSchema) "required"
        = some (.array [.string "a"]) ∧
      (∃ w, Entries.get? (collapseNullBranches "anyOf" requiringSchema) "minProperties" = some w ∧
        Json.equal w (.number (.int 2)) = true) ∧
      ¬ ∃ w, Entries.get? (collapseNullBranches "anyOf" requiringSchema) "required" = some w ∧
        Json.equal w (.array [.string "b"]) = true := by
  have hget : requiringSchema.get? "anyOf" =
      some (.array [.object requiringBranch, .object [("type", .string "null")]]) := rfl
  have honly : [.object requiringBranch, .object [("type", .string "null")]].filter
      (!isNullSchema ·) = [.object requiringBranch] := by decide +kernel
  obtain ⟨hnullable, hkept, -, -, hforce⟩ := hoist_inForce (by decide) hget
    ⟨.object [("type", .string "null")], by simp, by decide⟩ honly
  refine ⟨hnullable, hkept _ _ (by decide) (by decide) rfl,
    (hforce "minProperties" _ (by decide) rfl).2 (.inr (by simp [requiringSchema, Entries.get?])), ?_⟩
  rw [hforce "required" _ (by decide) rfl]
  rintro (heq | hsame)
  · exact absurd heq (by decide)
  · exact absurd (hsame (.array [.string "a"]) rfl) (by decide +kernel)

/-- What the branch requires is not in the normal form, since the schema requires something itself. -/
theorem normalize_requiringSchema :
    ofDocument (documentOf (.object requiringSchema)) = .ok .v31 ∧
      normalize (documentOf (.object requiringSchema)) = .ok (documentOf (.object
        [("type", .string "object"), ("required", .array [.string "a"]), ("nullable", .bool true),
          ("minProperties", .number (.int 2))])) := by
  refine ⟨ofDocument_documentOf _, ?_⟩
  rw [normalize_eq (ofDocument_documentOf _), Except.ok.injEq]
  decide +kernel

end Dialect

end OpenApi
