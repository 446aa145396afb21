import Mathlib.Data.List.Nodup
import Mathlib.Data.List.Perm.Subperm
import OpenApi.Proofs.Run
import Std.Data.String.ToNat

set_option autoImplicit false

/-! # Free names

`numberedName` looks for the first free name among a base followed by numbers. The names that it has
passed are taken out of those that are used, which keeps it going, and since all candidates differ none
of these can be the name that it ends with. `IsFirstFree` says which name that is without any search, and
`freeName_eq_iff` that it is the one found. A promotion takes it: `Build.promote_takes`. -/

namespace OpenApi

/-! ## Numbered names -/

/-- Names with different numbers differ. -/
theorem append_toString_inj {base : String} {i j : Nat}
    (h : base ++ toString i = base ++ toString j) : i = j :=
  Nat.repr_injective (String.append_right_inj base |>.1 h)

/-- The numbered name is free, its number is not less than the first one, and the names with the numbers
    between are used. -/
theorem numberedName_spec (base : String) (i : Nat) (used : List String) :
    numberedName base i used ∉ used ∧
      ∃ j, i ≤ j ∧ numberedName base i used = base ++ toString j ∧
        ∀ k, i ≤ k → k < j → base ++ toString k ∈ used := by
  fun_induction numberedName base i used with
  | case1 i used candidate hmem ih =>
      obtain ⟨hfree, j, hj, heq, hbetween⟩ := ih
      refine ⟨?_, j, Nat.le_of_succ_le hj, heq, fun k hik hkj => ?_⟩
      · intro h
        have hne : numberedName base (i + 1) (used.erase candidate) ≠ candidate := by
          intro he
          have hij : j = i := append_toString_inj (heq.symm.trans he)
          omega
        exact hfree ((List.mem_erase_of_ne hne).2 h)
      · rcases Nat.eq_or_lt_of_le hik with rfl | hlt
        · exact hmem
        · exact List.mem_of_mem_erase (hbetween k hlt hkj)
  | case2 i used candidate hmem =>
      exact ⟨hmem, i, Nat.le_refl i, rfl, fun k hik hki => absurd hik (Nat.not_le_of_lt hki)⟩

/-! ## The first free name -/

/-- The first name that is not used, of the hint in Pascal case and this followed by two, three and
    so on. -/
inductive IsFirstFree (used : List String) (hint : String) : String → Prop
  | plain : Text.pascalCase hint ∉ used → IsFirstFree used hint (Text.pascalCase hint)
  | numbered {i : Nat} : Text.pascalCase hint ∈ used → 2 ≤ i →
      Text.pascalCase hint ++ toString i ∉ used →
      (∀ k, 2 ≤ k → k < i → Text.pascalCase hint ++ toString k ∈ used) →
      IsFirstFree used hint (Text.pascalCase hint ++ toString i)

variable {used : List String} {hint name : String}

theorem IsFirstFree.not_mem (h : IsFirstFree used hint name) : name ∉ used := by
  cases h with
  | plain hfree => exact hfree
  | numbered _ _ hfree _ => exact hfree

theorem IsFirstFree.unique {name' : String} (h : IsFirstFree used hint name)
    (h' : IsFirstFree used hint name') : name = name' := by
  cases h with
  | plain hfree =>
      cases h' with
      | plain => rfl
      | numbered hused => exact absurd hused hfree
  | @numbered i hused hi hfree hbefore =>
      cases h' with
      | plain hfree' => exact absurd hused hfree'
      | @numbered i' _ hi' hfree' hbefore' =>
          rcases Nat.lt_trichotomy i i' with hlt | rfl | hlt
          · exact absurd (hbefore' i hi hlt) hfree
          · rfl
          · exact absurd (hbefore i' hi' hlt) hfree'

/-- The base and the names with smaller numbers are all used, and so the number exceeds the count of the
    used names by one at most. -/
theorem IsFirstFree.number_le (h : IsFirstFree used hint name) : name = Text.pascalCase hint ∨
    ∃ i ≤ used.length + 1, name = Text.pascalCase hint ++ toString i := by
  cases h with
  | plain => exact .inl rfl
  | @numbered i hused hi _ hbefore =>
      refine .inr ⟨i, ?_, rfl⟩
      let tried := Text.pascalCase hint ::
        (List.range' 2 (i - 2)).map (Text.pascalCase hint ++ toString ·)
      have hnodup : tried.Nodup := by
        refine List.nodup_cons.2
          ⟨fun hmem => ?_, List.Nodup.map (fun _ _ => append_toString_inj) List.nodup_range'⟩
        obtain ⟨k, -, hk⟩ := List.mem_map.1 hmem
        simp at hk
      have hsub : tried ⊆ used := by
        refine List.cons_subset.2 ⟨hused, fun n hn => ?_⟩
        obtain ⟨k, hk, rfl⟩ := List.mem_map.1 hn
        have hrange := List.mem_range'_1.1 hk
        exact hbefore k hrange.1 (by omega)
      have hlength := (List.subperm_of_subset hnodup hsub).length_le
      simp only [tried, List.length_cons, List.length_map, List.length_range'] at hlength
      omega

theorem isFirstFree_freeName (used : List String) (hint : String) :
    IsFirstFree used hint (freeName used hint) := by
  show IsFirstFree used hint (if Text.pascalCase hint ∈ used
    then numberedName (Text.pascalCase hint) 2 used else Text.pascalCase hint)
  split
  · next hused =>
      obtain ⟨hfree, j, hj, heq, hbefore⟩ := numberedName_spec (Text.pascalCase hint) 2 used
      rw [heq] at hfree ⊢
      exact .numbered hused hj hfree hbefore
  · next hfree => exact .plain hfree

theorem freeName_eq_iff : freeName used hint = name ↔ IsFirstFree used hint name :=
  ⟨fun h => h ▸ isFirstFree_freeName used hint, (isFirstFree_freeName used hint).unique⟩

theorem freeName_not_mem (used : List String) (hint : String) : freeName used hint ∉ used :=
  (isFirstFree_freeName used hint).not_mem

/-! ## Taking a name -/

namespace Build

/-- A promotion takes the first free name that its hint leads to, after at most one more try than there are
    used names. The name was not used before, and when the new model is filled exactly this name has
    become used. -/
theorem promote_takes (hint : String) (fill : ModelId → String → Build Unit) (b : Builder) :
    (∀ n, IsFirstFree b.usedNames hint n ↔ n = freeName b.usedNames hint) ∧
    (freeName b.usedNames hint = Text.pascalCase hint ∨
      ∃ i ≤ b.usedNames.length + 1, freeName b.usedNames hint = Text.pascalCase hint ++ toString i) ∧
    freeName b.usedNames hint ∉ b.usedNames ∧
    ∃ b₁ : Builder, b₁.usedNames = freeName b.usedNames hint :: b.usedNames ∧
      run (promote hint fill) b =
        run (do
          fill b.registry.nodes.size (freeName b.usedNames hint)
          pure (freeName b.usedNames hint, b.registry.nodes.size)) b₁ := by
  have hfirst := isFirstFree_freeName b.usedNames hint
  refine ⟨fun n => freeName_eq_iff.symm.trans eq_comm, hfirst.number_le, hfirst.not_mem, _, ?_,
    run_promote hint fill b⟩
  exact List.insert_of_not_mem hfirst.not_mem

/-- A hint that ends in a digit. -/
example : freeName ["Pet2", "Pet22", "Pet23"] "pet2" = "Pet24" := by decide +kernel

end Build

end OpenApi
