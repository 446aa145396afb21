import Mathlib.Data.List.Perm.Basic
import OpenApi.Proofs.Finishing

set_option autoImplicit false

/-! # Flattening the composites

`Registry.Acceptable` says which composites can be told apart, by the kinds of their constituents and
without following any chain by `chase`: at most one constituent is an array of something other than
scalars, and an `allOf` consists of references to models. `Registry.Refuses` says why a composite is
refused. `buildGraph_flatten` shows that flattening the graph of a document accepts it just when all
its composites are acceptable, that it names the first one that is not, and that it changes nothing but
the split of the composites. -/

namespace OpenApi

section Chase

variable {α : Type} [DecidableEq α]

/-- `chase` stops at a point of the chain. -/
theorem chase_reachable (step : α → Option α) (fresh : List α) (a : α) :
    Relation.ReflTransGen (fun a b => step a = some b) a (chase step fresh a) := by
  fun_induction chase step fresh a with
  | case1 => exact .refl
  | case2 fresh a b hb _ ih => exact .head hb ih
  | case3 fresh a b hb => exact .single hb

end Chase

namespace Registry

variable {r : Registry} {id t l : ModelId} {m : Model}

/-! ## What an array holds at its end -/

/-- References and elements lead from the node to a primitive or an enum. -/
inductive EndsInScalar (r : Registry) : ModelId → Prop
  | scalar {id : ModelId} {m : Model} : r.node? id = some m → m.kind.isScalar → EndsInScalar r id
  | reference {id t : ModelId} : r.next? id = some t → EndsInScalar r t → EndsInScalar r id
  | elements {id l : ModelId} {m : Model} : r.node? id = some m → m.kind = .array →
      m.link = some l → EndsInScalar r l → EndsInScalar r id

/-- An array that does not come down to scalars. -/
def IsObjectArray (r : Registry) (id : ModelId) : Prop :=
  (∃ m, r.node? id = some m ∧ m.kind = .array) ∧ ¬ r.EndsInScalar id

/-- A reference to a named model that is no scalar. -/
def RefersToModel (r : Registry) (id : ModelId) : Prop :=
  ∃ m t, r.node? id = some m ∧ m.kind = .reference ∧ r.node? (r.canonical id) = some t ∧
    t.kind.isScalar = false

theorem isScalar_iff : r.isScalar id = true ↔
    ∃ m, r.node? (r.canonical id) = some m ∧ m.kind.isScalar = true := by
  rw [isScalar, holds, Option.any_eq_true]

theorem endsInScalar_next (h : r.next? id = some t) : r.EndsInScalar id ↔ r.EndsInScalar t := by
  refine ⟨fun hid => ?_, .reference h⟩
  obtain ⟨m, hm, hk, -⟩ := next?_eq_some_iff.1 h
  cases hid with
  | scalar hm' hs =>
      rw [hm] at hm'
      cases hm'
      rw [hk] at hs
      cases hs
  | reference ht hrest =>
      rw [h] at ht
      cases ht
      exact hrest
  | elements hm' hk' =>
      rw [hm] at hm'
      cases hm'
      rw [hk] at hk'
      cases hk'

theorem endsInScalar_leads {e : ModelId} {k : Nat} (h : Leads r.next? e k id) :
    r.EndsInScalar id ↔ r.EndsInScalar e := by
  induction h with
  | here => exact Iff.rfl
  | step hb _ ih => exact (endsInScalar_next hb).trans ih

theorem element?_eq_some_iff : r.element? id = some t ↔
    ∃ m l, r.node? id = some m ∧ m.kind = .array ∧ m.link = some l ∧ r.canonical l = t := by
  unfold element?
  constructor
  · intro h
    obtain ⟨m, hm, h⟩ := Option.bind_eq_some_iff.1 h
    obtain ⟨_, hk, h⟩ := Option.bind_eq_some_iff.1 h
    obtain ⟨l, hl, h⟩ := Option.bind_eq_some_iff.1 h
    cases h
    exact ⟨m, l, hm, (Option.guard_eq_some' _).1 hk, hl, rfl⟩
  · rintro ⟨m, l, hm, hk, hl, rfl⟩
    refine Option.bind_eq_some_iff.2 ⟨m, hm, Option.bind_eq_some_iff.2 ⟨(), ?_, ?_⟩⟩
    · exact (Option.guard_eq_some' _).2 hk
    · exact Option.bind_eq_some_iff.2 ⟨l, hl, rfl⟩

end Registry

namespace Builder.Linkable

open Registry

variable {c : Components} {b : Builder} {id : ModelId} {m : Model}

/-! ## The judgements in a linked graph -/

theorem leads_canonical (hb : b.Linkable c) (hm : b.registry.node? id = some m) :
    (∃ k, Leads b.registry.next? (b.registry.canonical id) k id) ∧
      b.registry.Settled (b.registry.canonical id) := by
  obtain ⟨e, k, hleads, hsettled⟩ := hb.complete.resolved.leads hm
  rw [canonical_of_leads hb.complete.ready.sound.lookup_lt hleads]
  exact ⟨⟨k, hleads⟩, hsettled⟩

theorem endsInScalar_canonical (hb : b.Linkable c) (hm : b.registry.node? id = some m) :
    b.registry.EndsInScalar id ↔ b.registry.EndsInScalar (b.registry.canonical id) := by
  obtain ⟨⟨k, hk⟩, -⟩ := hb.leads_canonical hm
  exact endsInScalar_leads hk

/-- The nodes that elements lead to are there and settled. -/
theorem settled_element (hb : b.Linkable c) {t : ModelId} (h : b.registry.element? id = some t) :
    b.registry.Settled t := by
  obtain ⟨m, l, hm, -, hl, rfl⟩ := element?_eq_some_iff.1 h
  have hsettled := hb.links hm hl
  rw [hsettled.canonical]
  exact hsettled

/-- Where references and elements lead to a scalar, the chain of elements ends there. -/
theorem leads_of_endsInScalar (hb : b.Linkable c) (h : b.registry.EndsInScalar id) :
    ∃ e k, Leads b.registry.element? e k (b.registry.canonical id) ∧
      ∃ m, b.registry.node? e = some m ∧ m.kind.isScalar := by
  induction h with
  | @scalar id m hm hs =>
      have hsettled := settled_of_isScalar hm hs
      rw [hsettled.canonical]
      refine ⟨id, 0, .here ?_, m, hm, hs⟩
      cases hn : b.registry.element? id with
      | none => rfl
      | some t =>
          obtain ⟨m', -, hm', hk, -⟩ := element?_eq_some_iff.1 hn
          rw [hm] at hm'
          cases hm'
          rw [hk] at hs
          cases hs
  | @reference id t ht _ ih =>
      obtain ⟨m, hm, hk, hl, -⟩ := next?_eq_some_iff.1 ht
      rw [hb.complete.resolved.canonical_reference hm hk hl]
      exact ih
  | @elements id l m hm hk hl _ ih =>
      have hsettled := settled_of_ne_reference hm (by simp [hk])
      obtain ⟨e, k, hleads, hscalar⟩ := ih
      rw [hsettled.canonical]
      exact ⟨e, k + 1, .step (element?_eq_some_iff.2 ⟨m, l, hm, hk, hl, rfl⟩) hleads, hscalar⟩

/-- The innermost elements are scalars just when references and elements lead to one. -/
theorem isScalar_innermost_iff (hb : b.Linkable c) (hm : b.registry.node? id = some m) :
    b.registry.isScalar (b.registry.innermost id) = true ↔ b.registry.EndsInScalar id := by
  constructor
  · intro h
    rw [hb.endsInScalar_canonical hm]
    obtain ⟨n, hn, hscalar⟩ := isScalar_iff.1 h
    -- back along the elements, from the innermost ones
    have hback : ∀ {i}, Relation.ReflTransGen (fun a b' => b.registry.element? a = some b') i
        (b.registry.innermost id) → b.registry.Settled i → b.registry.EndsInScalar i := by
      intro i hi
      induction hi using Relation.ReflTransGen.head_induction_on with
      | refl =>
          intro hsettled
          rw [hsettled.canonical] at hn
          exact .scalar hn hscalar
      | head hstep _ ih =>
          intro _
          have hends := ih (hb.settled_element hstep)
          obtain ⟨m, l, hm, hk, hl, rfl⟩ := element?_eq_some_iff.1 hstep
          rw [(hb.links hm hl).canonical] at hends
          exact .elements hm hk hl hends
    exact hback (chase_reachable _ _ _) (hb.leads_canonical hm).2
  · intro h
    obtain ⟨e, k, hleads, n, hn, hscalar⟩ := hb.leads_of_endsInScalar h
    have hinner : b.registry.innermost id = e := by
      refine chase_of_leads (fun hstep => (hb.settled_element hstep).lt) hleads ?_
      intro j x hj hx hlt
      have hne : x ≠ b.registry.canonical id := by
        rintro rfl
        exact Nat.ne_of_lt hj (hx.unique hleads).1
      exact (List.mem_erase_of_ne hne).2 (List.mem_range.2 hlt)
    have hsettled := settled_of_isScalar hn hscalar
    rw [hinner, isScalar_iff, hsettled.canonical]
    exact ⟨n, hn, hscalar⟩

theorem isObjectArray_iff (hb : b.Linkable c) :
    b.registry.isObjectArray id = true ↔ b.registry.IsObjectArray id := by
  rw [isObjectArray, Bool.and_eq_true, holds, Option.any_eq_true]
  simp only [decide_eq_true_eq, Bool.not_eq_true', ← Bool.not_eq_true]
  constructor
  · rintro ⟨⟨m, hm, hk⟩, hscalar⟩
    exact ⟨⟨m, hm, hk⟩, fun h => hscalar ((hb.isScalar_innermost_iff hm).2 h)⟩
  · rintro ⟨⟨m, hm, hk⟩, hends⟩
    exact ⟨⟨m, hm, hk⟩, fun h => hends ((hb.isScalar_innermost_iff hm).1 h)⟩

theorem refersToModel_iff (hb : b.Linkable c) :
    b.registry.refersToModel id = true ↔ b.registry.RefersToModel id := by
  rw [refersToModel, Bool.and_eq_true, holds, Option.any_eq_true]
  simp only [decide_eq_true_eq, Bool.not_eq_true', ← Bool.not_eq_true, isScalar_iff]
  constructor
  · rintro ⟨⟨m, hm, hk⟩, hscalar⟩
    obtain ⟨t, ht, -⟩ := (hb.leads_canonical hm).2
    exact ⟨m, t, hm, hk, ht, Bool.eq_false_iff.2 fun hs => hscalar ⟨t, ht, hs⟩⟩
  · rintro ⟨m, t, hm, hk, ht, hscalar⟩
    refine ⟨⟨m, hm, hk⟩, ?_⟩
    rintro ⟨t', ht', hs⟩
    rw [ht] at ht'
    cases ht'
    rw [hscalar] at hs
    cases hs

end Builder.Linkable

/-! ## Which composites are accepted -/

theorem countP_le_one_iff {α : Type} (p : α → Bool) (xs : List α) :
    xs.countP p ≤ 1 ↔ xs.Pairwise fun a b => ¬ (p a = true ∧ p b = true) := by
  induction xs with
  | nil => simp
  | cons x xs ih =>
      rw [List.countP_cons, List.pairwise_cons, ← ih]
      cases hx : p x with
      | false => simp
      | true =>
          have hzero : xs.countP p + 1 ≤ 1 ↔ ∀ y ∈ xs, ¬ p y = true := by
            rw [← List.countP_eq_zero]
            omega
          simp only [if_true, hzero, true_and, iff_self_and]
          intro h
          have := List.countP_eq_zero.2 h
          omega

namespace Registry

variable {r : Registry} {m : Model}

/-- No two constituents are arrays of more than scalars, which could not be told apart. -/
def Distinguishable (r : Registry) (m : Model) : Prop :=
  m.properties.Pairwise fun p q => ¬ (r.IsObjectArray p ∧ r.IsObjectArray q)

/-- A composite that can be flattened. -/
structure Acceptable (r : Registry) (m : Model) : Prop where
  /-- At most one constituent is an array of more than scalars. -/
  arrays : r.Distinguishable m
  /-- An `allOf` consists of references to models. -/
  parts : m.kind = .composite .allOf → ∀ p ∈ m.properties, r.RefersToModel p

/-- Why a composite cannot be flattened. That its arrays cannot be told apart comes first. -/
inductive Refuses (r : Registry) (m : Model) : BuildError → Prop
  | arrays : ¬ r.Distinguishable m → Refuses r m (.ambiguousComposite m.name)
  | parts {before after : List ModelId} {p : ModelId} : r.Distinguishable m →
      m.kind = .composite .allOf → m.properties = before ++ p :: after →
      (∀ q ∈ before, r.RefersToModel q) → ¬ r.RefersToModel p →
      Refuses r m (.invalidAllOf m.name (r.nodes.nameAt p))

theorem Refuses.not_acceptable {e : BuildError} (h : r.Refuses m e) : ¬ r.Acceptable m := by
  intro hacc
  cases h with
  | arrays harrays => exact harrays hacc.arrays
  | parts _ hk hp _ hnot => exact hnot (hacc.parts hk _ (by simp [hp]))

end Registry

namespace Builder.Linkable

open Registry

variable {c : Components} {b : Builder} {id : ModelId} {m : Model}

/-- Arrays are among the constituents that do not refer to models. -/
theorem distinguishable_iff (hb : b.Linkable c) :
    (b.registry.primitivesOf m).countP b.registry.isObjectArray ≤ 1 ↔
      b.registry.Distinguishable m := by
  have hcount : (b.registry.primitivesOf m).countP b.registry.isObjectArray
      = m.properties.countP b.registry.isObjectArray := by
    rw [primitivesOf, List.countP_filter]
    refine List.countP_congr fun p _ => ?_
    rw [Bool.and_eq_true, and_iff_left_iff_imp, Bool.not_eq_true', ← Bool.not_eq_true]
    intro harray hrefers
    obtain ⟨⟨m, hm, hk⟩, -⟩ := hb.isObjectArray_iff.1 harray
    obtain ⟨m', -, hm', hk', -⟩ := hb.refersToModel_iff.1 hrefers
    rw [hm] at hm'
    cases hm'
    rw [hk] at hk'
    cases hk'
  rw [hcount, countP_le_one_iff, Distinguishable]
  simp only [hb.isObjectArray_iff]

theorem refuses_of_refusal? (hb : b.Linkable c) {e : BuildError}
    (h : b.registry.refusal? m = some e) : b.registry.Refuses m e := by
  unfold refusal? at h
  split at h
  · next hcount =>
      cases h
      exact .arrays (hb.distinguishable_iff.not.1 (Nat.not_le.2 hcount))
  · next hcount =>
      have hdist := hb.distinguishable_iff.1 (Nat.not_lt.1 hcount)
      split at h
      · next hk =>
          rw [primitivesOf, List.head?_filter, Option.map_eq_some_iff] at h
          obtain ⟨p, hp, rfl⟩ := h
          obtain ⟨hnot, before, after, hsplit, hbefore⟩ := List.find?_eq_some_iff_append.1 hp
          refine .parts hdist hk hsplit (fun q hq => hb.refersToModel_iff.1 ?_) fun hrefers => ?_
          · simpa using hbefore q hq
          · simp [hb.refersToModel_iff.2 hrefers] at hnot
      · cases h

theorem refusal?_eq_none_iff (hb : b.Linkable c) :
    b.registry.refusal? m = none ↔ b.registry.Acceptable m := by
  constructor
  · intro h
    unfold refusal? at h
    split at h
    · cases h
    · next hcount =>
        refine ⟨hb.distinguishable_iff.1 (Nat.not_lt.1 hcount), fun hk p hp => ?_⟩
        rw [if_pos hk, Option.map_eq_none_iff, List.head?_eq_none_iff, primitivesOf,
          List.filter_eq_nil_iff] at h
        exact hb.refersToModel_iff.1 (by simpa using h p hp)
  · intro hacc
    cases h : b.registry.refusal? m with
    | none => rfl
    | some e => exact absurd hacc (hb.refuses_of_refusal? h).not_acceptable

/-- The composites are the nodes of composite kind: all of them are registered. -/
theorem mem_composites_iff (hb : b.Linkable c) : id ∈ b.registry.composites ↔
    ∃ m, b.registry.node? id = some m ∧ m.kind.isComposite = true := by
  rw [composites, List.mem_filter, holds, Option.any_eq_true]
  constructor
  · exact And.right
  · rintro ⟨m, hm, hk⟩
    obtain ⟨-, hl⟩ := hb.complete.ready.sound.composites hm hk
    exact ⟨List.mem_map.2 ⟨_, Entries.mem_of_get? hl, rfl⟩, m, hm, hk⟩

end Builder.Linkable

/-! ## Flattening one after the other -/

namespace Registry

variable {r done r' : Registry} {ids : List ModelId} {m : Model}

/-- The nodes after the composites in a list have been split. -/
theorem node?_foldl_split (r : Registry) (ids : List ModelId) (done : Registry) (i : ModelId) :
    (ids.foldl (fun done id => done.update id r.split) done).node? i =
      (done.node? i).map fun m => if i ∈ ids then r.split m else m := by
  induction ids generalizing done with
  | nil => simp
  | cons id ids ih =>
      rw [List.foldl_cons, ih, node?_update]
      by_cases hi : id = i
      · subst hi
        rw [if_pos rfl, Option.map_map]
        congr 1
        funext m
        -- a node that is split twice is split as before
        simp [split, modelsOf, primitivesOf]
      · have hi' : i ≠ id := fun h => hi h.symm
        simp [hi, hi']

theorem named_foldl_split (r : Registry) (ids : List ModelId) (done : Registry) :
    (ids.foldl (fun done id => done.update id r.split) done).named = done.named := by
  induction ids generalizing done with
  | nil => rfl
  | cons id ids ih => exact ih _

theorem size_foldl_split (r : Registry) (ids : List ModelId) (done : Registry) :
    (ids.foldl (fun done id => done.update id r.split) done).nodes.size = done.nodes.size := by
  induction ids generalizing done with
  | nil => rfl
  | cons id ids ih => exact (ih _).trans (size_update done id r.split)

/-- The composites are split when none of them is refused. -/
theorem flattenEach_ok (hids : ∀ id ∈ ids, ∃ m, r.node? id = some m ∧ r.refusal? m = none)
    (done : Registry) :
    (r.flattenEach ids done).value = .ok (ids.foldl (fun done id => done.update id r.split) done) := by
  induction ids generalizing done with
  | nil => rfl
  | cons id ids ih =>
      obtain ⟨m, hm, hnone⟩ := hids id List.mem_cons_self
      rw [flattenEach, hm]
      simp only [hnone]
      exact ih (fun i hi => hids i (List.mem_cons_of_mem _ hi)) _

/-- Otherwise the first one that is refused is named. -/
theorem flattenEach_error (hids : ∀ id ∈ ids, ∃ m, r.node? id = some m)
    (hrefused : ∃ id ∈ ids, ∃ m, r.node? id = some m ∧ r.refusal? m ≠ none) (done : Registry) :
    ∃ before id after m e, ids = before ++ id :: after ∧ r.node? id = some m ∧
      r.refusal? m = some e ∧ (r.flattenEach ids done).value = .error e ∧
      ∀ i ∈ before, ∀ n, r.node? i = some n → r.refusal? n = none := by
  induction ids generalizing done with
  | nil => simp at hrefused
  | cons id ids ih =>
      obtain ⟨m, hm⟩ := hids id List.mem_cons_self
      cases hr : r.refusal? m with
      | some e =>
          refine ⟨[], id, ids, m, e, rfl, hm, hr, ?_, by simp⟩
          rw [flattenEach, hm]
          simp only [hr]
          rfl
      | none =>
          have hrest : ∃ i ∈ ids, ∃ m, r.node? i = some m ∧ r.refusal? m ≠ none := by
            obtain ⟨i, hi, n, hn, hne⟩ := hrefused
            rcases List.mem_cons.1 hi with rfl | hi
            · rw [hm] at hn
              cases hn
              exact absurd hr hne
            · exact ⟨i, hi, n, hn, hne⟩
          obtain ⟨before, i, after, n, e, hsplit, hn, he, hvalue, hbefore⟩ :=
            ih (fun i hi => hids i (List.mem_cons_of_mem _ hi)) hrest (done.update id r.split)
          refine ⟨id :: before, i, after, n, e, by rw [hsplit, List.cons_append], hn, he, ?_, ?_⟩
          · rw [flattenEach, hm]
            simp only [hr]
            exact hvalue
          · intro j hj k hk
            rcases List.mem_cons.1 hj with rfl | hj
            · rw [hm] at hk
              cases hk
              exact hr
            · exact hbefore j hj k hk

/-- Nothing is different but the composites: their constituents are split in order into those that
    refer to models and the others. -/
structure Splits (r r' : Registry) : Prop where
  named : r'.named = r.named
  size : r'.nodes.size = r.nodes.size
  others : ∀ {id : ModelId} {m : Model}, r.node? id = some m → m.kind.isComposite = false →
    r'.node? id = some m
  composites : ∀ {id : ModelId} {m : Model}, r.node? id = some m → m.kind.isComposite = true →
    ∃ models rest : List ModelId,
      r'.node? id = some { m with composedModels := models, composedPrimitives := rest } ∧
      models.Sublist m.properties ∧ rest.Sublist m.properties ∧
      (models ++ rest).Perm m.properties ∧
      (∀ p ∈ models, r.RefersToModel p) ∧ ∀ p ∈ rest, ¬ r.RefersToModel p

end Registry

namespace Builder.Linkable

open Registry

variable {c : Components} {b : Builder}

theorem splits_foldl (hb : b.Linkable c) : b.registry.Splits
    (b.registry.composites.foldl (fun done id => done.update id b.registry.split) b.registry) where
  named := named_foldl_split _ _ _
  size := size_foldl_split _ _ _
  others {id m} hm hk := by
    have hnot : id ∉ b.registry.composites := by
      rw [hb.mem_composites_iff]
      rintro ⟨m', hm', hk'⟩
      rw [hm] at hm'
      cases hm'
      rw [hk] at hk'
      cases hk'
    rw [node?_foldl_split, hm, Option.map_some, if_neg hnot]
  composites {id m} hm hk := by
    have hmem : id ∈ b.registry.composites := hb.mem_composites_iff.2 ⟨m, hm, hk⟩
    refine ⟨b.registry.modelsOf m, b.registry.primitivesOf m, ?_, List.filter_sublist,
      List.filter_sublist, ?_, ?_, ?_⟩
    · rw [node?_foldl_split, hm, Option.map_some, if_pos hmem, split]
    · exact List.filter_append_perm _ _
    · exact fun p hp => hb.refersToModel_iff.1 (List.mem_filter.1 hp).2
    · intro p hp hrefers
      have hnot := (List.mem_filter.1 hp).2
      simp [hb.refersToModel_iff.2 hrefers] at hnot

theorem exists_node_of_mem_composites (hb : b.Linkable c) :
    ∀ id ∈ b.registry.composites, ∃ m, b.registry.node? id = some m := fun _ hid =>
  let ⟨m, hm, _⟩ := hb.mem_composites_iff.1 hid
  ⟨m, hm⟩

/-- When all composites are acceptable, the answer is their split. -/
theorem flatten_ok (hb : b.Linkable c) (hall : ∀ id m, b.registry.node? id = some m →
      m.kind.isComposite = true → b.registry.Acceptable m) :
    ∃ r', b.registry.flatten.value = .ok r' ∧ b.registry.Splits r' := by
  refine ⟨_, flattenEach_ok (fun id hid => ?_) b.registry, hb.splits_foldl⟩
  obtain ⟨m, hm, hk⟩ := hb.mem_composites_iff.1 hid
  exact ⟨m, hm, hb.refusal?_eq_none_iff.2 (hall id m hm hk)⟩

/-- Otherwise the error is that of the first composite which is not acceptable. -/
theorem flatten_error (hb : b.Linkable c) {i : ModelId} {n : Model}
    (hn : b.registry.node? i = some n) (hk : n.kind.isComposite = true)
    (hnot : ¬ b.registry.Acceptable n) :
    ∃ before id after m e, b.registry.composites = before ++ id :: after ∧
      b.registry.node? id = some m ∧ m.kind.isComposite = true ∧
      b.registry.flatten.value = .error e ∧ b.registry.Refuses m e ∧
      ∀ j ∈ before, ∀ m', b.registry.node? j = some m' → b.registry.Acceptable m' := by
  have hrefused : ∃ id ∈ b.registry.composites, ∃ m, b.registry.node? id = some m ∧
      b.registry.refusal? m ≠ none :=
    ⟨i, hb.mem_composites_iff.2 ⟨n, hn, hk⟩, n, hn, hb.refusal?_eq_none_iff.not.2 hnot⟩
  obtain ⟨before, id, after, m, e, hsplit, hm, he, hvalue, hbefore⟩ :=
    flattenEach_error hb.exists_node_of_mem_composites hrefused b.registry
  have hmem : id ∈ b.registry.composites := by
    rw [hsplit]
    exact List.mem_append_right _ List.mem_cons_self
  obtain ⟨m', hm', hk'⟩ := hb.mem_composites_iff.1 hmem
  rw [hm] at hm'
  cases hm'
  exact ⟨before, id, after, m, e, hsplit, hm, hk', hvalue, hb.refuses_of_refusal? he,
    fun j hj m' hm' => hb.refusal?_eq_none_iff.1 (hbefore j hj m' hm')⟩

/-- What is flattened had only acceptable composites, and these are split. -/
theorem of_flatten_ok (hb : b.Linkable c) {r' : Registry}
    (h : b.registry.flatten.value = .ok r') :
    (∀ id m, b.registry.node? id = some m → m.kind.isComposite = true →
      b.registry.Acceptable m) ∧ b.registry.Splits r' := by
  have hall : ∀ id m, b.registry.node? id = some m → m.kind.isComposite = true →
      b.registry.Acceptable m := by
    intro id m hm hk
    by_contra hnot
    obtain ⟨-, -, -, -, e, -, -, -, hvalue, -⟩ := hb.flatten_error hm hk hnot
    rw [hvalue] at h
    cases h
  obtain ⟨r'', hr'', hsplits⟩ := hb.flatten_ok hall
  rw [h] at hr''
  cases hr''
  exact ⟨hall, hsplits⟩

/-- A composite in the list of all has a place in the index of names, and the composites before it in
    the one come before it in the other. -/
theorem composite_in_named {before after : List ModelId} {id : ModelId}
    (hsplit : b.registry.composites = before ++ id :: after) :
    ∃ earlier name later, b.registry.named = earlier ++ (name, id) :: later ∧
      ∀ entry ∈ earlier, ∀ m, b.registry.node? entry.2 = some m → m.kind.isComposite = true →
        entry.2 ∈ before := by
  rw [composites, List.filter_eq_append_iff] at hsplit
  obtain ⟨front, back, hnamed, rfl, hback⟩ := hsplit
  obtain ⟨between, back', rfl, hbetween, -, -⟩ := List.filter_eq_cons_iff.1 hback
  rw [← List.append_assoc] at hnamed
  obtain ⟨earlier, rest, hentries, hearlier, hrest⟩ := List.map_eq_append_iff.1 hnamed
  obtain ⟨⟨name, i⟩, later, rfl, rfl, -⟩ := List.map_eq_cons_iff.1 hrest
  refine ⟨earlier, name, later, hentries, fun entry hentry m hm hk => ?_⟩
  have hholds : b.registry.holds entry.2 (·.kind.isComposite) = true := by
    rw [holds, hm, Option.any_some, hk]
  have hmem : entry.2 ∈ front ++ between := hearlier ▸ List.mem_map_of_mem hentry
  rcases List.mem_append.1 hmem with hmem | hmem
  · exact List.mem_filter.2 ⟨hmem, hholds⟩
  · exact absurd hholds (hbetween _ hmem)

end Builder.Linkable

namespace Document

open Build Builder Registry

variable {d : Document} {options : Options} {b : Builder} {ops : List Operation}

/-! ## Flattening the graph of a document -/

/-- The graph of a document keeps the invariant of linking, and everything in it is linked. -/
theorem buildGraph_linkable (hc : (Entries.keys d.componentsOrNone.schemas).Nodup)
    (h : run (d.buildGraph options) {} = (.ok ops, b)) :
    b.Linkable d.componentsOrNone ∧ ∀ i, ¬ b.Unlinked i := by
  obtain ⟨b₁, e, b₂, hadd, hcollect, hlink⟩ := buildGraph_ok h
  obtain ⟨-, hb₂⟩ := collect_linkable hc hadd hcollect
  obtain ⟨hlinkable, -, -, hclosed⟩ := hb₂.linkAll hlink
  exact ⟨hlinkable, hclosed⟩

/-- In the graph of a document every composite is registered under its name. Flattening the graph
    succeeds just when all composites are acceptable. When it fails, the error says why the first
    composite is refused that is not acceptable, in the order of the names; when it succeeds, nothing
    is different but that the composites are split. -/
theorem buildGraph_flatten (hc : (Entries.keys d.componentsOrNone.schemas).Nodup)
    (h : run (d.buildGraph options) {} = (.ok ops, b)) :
    (∀ id m, b.registry.node? id = some m → m.kind.isComposite = true →
      b.registry.lookup m.name = some id) ∧
    ((∃ r', b.registry.flatten.value = .ok r') ↔ ∀ id m, b.registry.node? id = some m →
      m.kind.isComposite = true → b.registry.Acceptable m) ∧
    (∀ e, b.registry.flatten.value = .error e → ∃ earlier name id later m,
      b.registry.named = earlier ++ (name, id) :: later ∧ b.registry.node? id = some m ∧
      m.kind.isComposite = true ∧ b.registry.Refuses m e ∧
      ∀ entry ∈ earlier, ∀ m', b.registry.node? entry.2 = some m' → m'.kind.isComposite = true →
        b.registry.Acceptable m') ∧
    ∀ r', b.registry.flatten.value = .ok r' → b.registry.Splits r' := by
  obtain ⟨hb, -⟩ := buildGraph_linkable hc h
  refine ⟨fun id m hm hk => (hb.complete.ready.sound.composites hm hk).2, ⟨?_, ?_⟩, ?_, ?_⟩
  · rintro ⟨r', hr'⟩
    exact (hb.of_flatten_ok hr').1
  · intro hall
    obtain ⟨r', hr', -⟩ := hb.flatten_ok hall
    exact ⟨r', hr'⟩
  · intro e he
    -- an error comes from a composite that is not acceptable
    have hsome : ∃ i n, b.registry.node? i = some n ∧ n.kind.isComposite = true ∧
        ¬ b.registry.Acceptable n := by
      by_contra hnone
      obtain ⟨r', hr', -⟩ := hb.flatten_ok fun i n hn hk =>
        Classical.byContradiction fun hnot => hnone ⟨i, n, hn, hk, hnot⟩
      rw [he] at hr'
      cases hr'
    obtain ⟨i, n, hn, hk, hnot⟩ := hsome
    obtain ⟨before, id, after, m, e', hsplit, hm, hk', hvalue, hrefuses, hbefore⟩ :=
      hb.flatten_error hn hk hnot
    rw [he] at hvalue
    cases hvalue
    obtain ⟨earlier, name, later, hnamed, hearlier⟩ := Builder.Linkable.composite_in_named hsplit
    exact ⟨earlier, name, id, later, m, hnamed, hm, hk', hrefuses, fun entry hentry m' hm' hk'' =>
      hbefore _ (hearlier entry hentry m' hm' hk'') m' hm'⟩
  · exact fun r' hr' => (hb.of_flatten_ok hr').2

/-- A document with a union of a model and a text, and an `allOf` of the model. -/
def unionDocument : Document where
  openapi := "3.0.0"
  info := { title := "Unions", version := "1" }
  components := some
    { schemas :=
        [("Leaf", .inline { type := some (.single .object) }),
          ("Union", .inline
            { oneOf := [.ref "#/components/schemas/Leaf" none,
                .inline { type := some (.single .string) }] }),
          ("Whole", .inline { allOf := [.ref "#/components/schemas/Leaf" none] })] }
  paths := []

theorem buildGraph_flatten_union : ∃ ops b r',
    run (unionDocument.buildGraph {}) {} = (.ok ops, b) ∧ b.registry.flatten.value = .ok r' ∧
      b.registry.composites ≠ [] ∧ b.registry.Splits r' := by
  obtain ⟨ops, hrun⟩ := exists_run_eq (m := unionDocument.buildGraph {}) (b := {})
    (by decide +kernel)
  have hflat : (run (unionDocument.buildGraph {}) {}).2.registry.flatten.value.isOk = true := by
    decide +kernel
  have hsome : (run (unionDocument.buildGraph {}) {}).2.registry.composites ≠ [] := by
    decide +kernel
  obtain ⟨r', hr'⟩ := exists_eq_ok_of_isOk hflat
  exact ⟨ops, _, r', hrun, hr', hsome, (buildGraph_flatten (by decide) hrun).2.2.2 r' hr'⟩

end Document

end OpenApi
