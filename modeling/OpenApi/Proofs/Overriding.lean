import OpenApi.Operation.Collect
import OpenApi.Proofs.Results

set_option autoImplicit false

/-! # Parameters that override others

The parameters of an operation take the places of those of its path with the same name and place. What
is in force for a key is `ParameterSpec.inForce?`, and `ParameterSpec.Merges` describes the merged list
in full: its keys in order, the first parameter of each key, and what stands behind another one of its
key. The last are just the repetitions in the list of the path, which nothing takes out. So the merged
list has one parameter for each key, the one in force, when the list of the path repeats no key
(`mergedParameters_merges`), and only then: of two parameters of a path with one key, an operation
overrides the first and leaves the second (`mergedParameters_limits`). -/

namespace OpenApi

namespace ParameterSpec

/-! ## What is in force -/

/-- What tells the parameters of an operation apart. -/
def key (p : ParameterSpec) : String × Place := (p.name, p.place)

/-- The parameter in force for a key: the last one that the operation has for it, and otherwise that of
    the path. -/
def inForce? (shared own : List ParameterSpec) (k : String × Place) : Option ParameterSpec :=
  (own.reverse.find? (·.key = k)).or (shared.find? (·.key = k))

/-- The parameters that stand behind another one of their key, where the keys in `seen` stand before
    all. -/
def repeated (seen : List (String × Place)) : List ParameterSpec → List ParameterSpec
  | [] => []
  | p :: ps => if p.key ∈ seen then p :: repeated seen ps else repeated (p.key :: seen) ps

/-- What the parameters of a path and those of an operation are merged into. -/
structure Merges (shared own merged : List ParameterSpec) : Prop where
  /-- The keys of the path come first, and then the others in the order of their first arrival. -/
  keys : merged.map key
    = shared.map key ++ (distinct (own.map key)).filter (· ∉ shared.map key)
  /-- The first parameter of each key is the one in force. -/
  inForce : ∀ k, merged.find? (·.key = k) = inForce? shared own k
  /-- What stands behind another parameter of its key stood there in the path. -/
  repeated : repeated [] merged = repeated [] shared

/-! ## Lists without repeated keys -/

theorem repeated_eq_nil_iff {seen : List (String × Place)} {ps : List ParameterSpec} :
    repeated seen ps = [] ↔ (ps.map key).Nodup ∧ ∀ p ∈ ps, p.key ∉ seen := by
  induction ps generalizing seen with
  | nil => simp [repeated]
  | cons p ps ih =>
      rw [repeated]
      by_cases hp : p.key ∈ seen
      · simp [hp]
      · rw [if_neg hp, ih, List.map_cons, List.nodup_cons, List.forall_mem_cons]
        constructor
        · rintro ⟨hps, hseen⟩
          refine ⟨⟨fun hmem => ?_, hps⟩, hp, fun q hq => List.not_mem_of_not_mem_cons (hseen q hq)⟩
          obtain ⟨q, hq, hkey⟩ := List.mem_map.1 hmem
          exact List.ne_of_not_mem_cons (hseen q hq) hkey
        · rintro ⟨⟨hnew, hps⟩, -, hseen⟩
          refine ⟨hps, fun q hq => List.not_mem_cons_of_ne_of_not_mem (fun hkey => ?_) (hseen q hq)⟩
          exact hnew (List.mem_map.2 ⟨q, hq, hkey⟩)

theorem repeated_nil_eq_nil_iff {ps : List ParameterSpec} :
    repeated [] ps = [] ↔ (ps.map key).Nodup := by
  simp [repeated_eq_nil_iff]

end ParameterSpec

open ParameterSpec

/-! ## One parameter -/

section Override

variable {p : ParameterSpec} {qs : List ParameterSpec} {k : String × Place}

theorem overrideParameter_cons (p q : ParameterSpec) (qs : List ParameterSpec) :
    overrideParameter p (q :: qs) =
      if q.key = p.key then p :: qs else q :: overrideParameter p qs := by
  have hkey : q.name = p.name ∧ q.place = p.place ↔ q.key = p.key := by simp [key]
  simp only [overrideParameter, hkey]

theorem find?_overrideParameter :
    (overrideParameter p qs).find? (·.key = k) =
      if p.key = k then some p else qs.find? (·.key = k) := by
  induction qs with
  | nil => by_cases h : p.key = k <;> simp [overrideParameter, h]
  | cons q qs ih =>
      rw [overrideParameter_cons]
      by_cases hq : q.key = p.key
      · by_cases h : p.key = k <;> simp [hq, h]
      · rw [if_neg hq, List.find?_cons, List.find?_cons, ih]
        by_cases h : q.key = k
        · have hp : ¬ p.key = k := fun hp => hq (h.trans hp.symm)
          simp [h, hp]
        · simp [h]

theorem keys_overrideParameter :
    (overrideParameter p qs).map key =
      if p.key ∈ qs.map key then qs.map key else qs.map key ++ [p.key] := by
  induction qs with
  | nil => simp [overrideParameter]
  | cons q qs ih =>
      rw [overrideParameter_cons]
      by_cases hq : q.key = p.key
      · simp [hq]
      · have hne : ¬ p.key = q.key := fun he => hq he.symm
        rw [if_neg hq, List.map_cons, ih, List.map_cons]
        by_cases hmem : p.key ∈ qs.map key <;> simp [hmem, hne]

/-- A parameter takes the place of the first one of its key only. -/
theorem repeated_overrideParameter {seen : List (String × Place)} (hp : p.key ∉ seen) :
    repeated seen (overrideParameter p qs) = repeated seen qs := by
  induction qs generalizing seen with
  | nil => simp [overrideParameter, repeated, hp]
  | cons q qs ih =>
      rw [overrideParameter_cons]
      by_cases hq : q.key = p.key
      · rw [if_pos hq, repeated, repeated, if_neg hp, hq, if_neg hp]
      · have hne : ¬ p.key = q.key := fun he => hq he.symm
        rw [if_neg hq, repeated, repeated, ih hp, ih (List.not_mem_cons_of_ne_of_not_mem hne hp)]

end Override

/-! ## All parameters of an operation -/

/-- Overriding one parameter after the other. -/
theorem merges_foldl (shared own : List ParameterSpec) :
    Merges shared own (own.foldl (fun merged p => overrideParameter p merged) shared) := by
  induction own generalizing shared with
  | nil => exact ⟨by simp [distinct], fun k => by simp [inForce?], rfl⟩
  | cons p own ih =>
      obtain ⟨hkeys, hforce, hrepeated⟩ := ih (overrideParameter p shared)
      rw [List.foldl_cons]
      refine ⟨?_, fun k => ?_, ?_⟩
      · rw [hkeys, keys_overrideParameter, List.map_cons, distinct]
        by_cases hp : p.key ∈ shared.map key
        · -- the key is not new, and no other parameter of it is
          have hdrop : ∀ k, k ∉ shared.map key → k ≠ p.key := fun k hk he => hk (he ▸ hp)
          rw [if_pos hp, List.filter_cons_of_neg (by simpa using hp), List.filter_filter]
          congr 1
          refine List.filter_congr fun k _ => ?_
          by_cases hk : k ∈ shared.map key
          · simp [hk]
          · simp [hk, hdrop k hk]
        · rw [if_neg hp, List.filter_cons_of_pos (by simpa using hp), List.append_assoc,
            List.singleton_append, List.filter_filter]
          congr 2
          refine List.filter_congr fun k _ => ?_
          by_cases hk : k = p.key <;> simp [hk]
      · rw [hforce, inForce?, inForce?, find?_overrideParameter, List.reverse_cons,
          List.find?_append, Option.or_assoc]
        by_cases hk : p.key = k <;> simp [hk]
      · rw [hrepeated, repeated_overrideParameter List.not_mem_nil]

theorem ParameterSpec.Merges.nodup_iff {shared own merged : List ParameterSpec}
    (h : Merges shared own merged) : (merged.map key).Nodup ↔ (shared.map key).Nodup := by
  rw [← repeated_nil_eq_nil_iff, h.repeated, repeated_nil_eq_nil_iff]

/-- In a list without repetitions every member is its own first arrival. -/
theorem distinct_append_of_nodup {α : Type} [DecidableEq α] {as : List α} (h : as.Nodup)
    (bs : List α) : distinct (as ++ bs) = as ++ (distinct bs).filter (· ∉ as) := by
  induction as with
  | nil => simp
  | cons a as ih =>
      obtain ⟨ha, has⟩ := List.nodup_cons.1 h
      have hself : as.filter (· ≠ a) = as :=
        List.filter_eq_self.2 fun b hb => by simpa using fun he : b = a => ha (he ▸ hb)
      rw [List.cons_append, distinct, ih has, List.filter_append, hself, List.filter_filter,
        List.cons_append]
      congr 2
      refine List.filter_congr fun b _ => ?_
      simp [not_or]

/-- Once their references are followed, the parameters of a path and those of an operation are merged.
    The keys of the path come first and the others in the order of their first arrival, the first
    parameter of each key is the one in force, and what else there is of a key are the repetitions
    in the list of the path. The merged list therefore repeats a key just when the list of the path
    does. Where it does not, it has the keys of both lists in the order of their first arrival, and
    consists of the parameters in force. -/
theorem mergedParameters_merges {c : Components} {shared own : List (RefOr ParameterSpec)}
    {ps os : List ParameterSpec} (hshared : shared.mapM c.resolveParameter = .ok ps)
    (hown : own.mapM c.resolveParameter = .ok os) :
    ∃ merged, mergedParameters c shared own = .ok merged ∧ Merges ps os merged ∧
      ((merged.map key).Nodup ↔ (ps.map key).Nodup) ∧
      ((ps.map key).Nodup → merged.map key = distinct (ps.map key ++ os.map key) ∧
        ∀ p, p ∈ merged ↔ inForce? ps os p.key = some p) := by
  have hmerges := merges_foldl ps os
  refine ⟨_, ?_, hmerges, hmerges.nodup_iff, fun hnodup => ⟨?_, fun p => ?_⟩⟩
  · rw [mergedParameters, hshared, hown]
    rfl
  · simp [hmerges.keys, distinct_append_of_nodup hnodup]
  · rw [← hmerges.inForce, find?_eq_some_iff_of_nodup (hmerges.nodup_iff.2 hnodup),
      and_iff_left rfl]

/-- A parameter that limits the number of results. -/
def limitParameter (place : Place) (description : String) : ParameterSpec where
  name := "limit"
  place := place
  description := some description

/-- A reusable limit. -/
def limitComponents : Components where
  parameters := [("Limit", .inline (limitParameter .query "shared"))]

/-- The limits of an operation: two in the query and one in a header. -/
def ownLimits : List ParameterSpec :=
  [limitParameter .query "first", limitParameter .header "header", limitParameter .query "last"]

/-- The limit of a path is overridden twice, and the one in a header is new. -/
theorem mergedParameters_merges_limits : ∃ ps merged,
    [RefOr.ref "#/components/parameters/Limit"].mapM limitComponents.resolveParameter = .ok ps ∧
      (ownLimits.map RefOr.inline).mapM limitComponents.resolveParameter = .ok ownLimits ∧
      (ps.map key).Nodup ∧
      mergedParameters limitComponents [.ref "#/components/parameters/Limit"]
        (ownLimits.map RefOr.inline) = .ok merged ∧
      merged.map key = [("limit", .query), ("limit", .header)] ∧
      limitParameter .query "last" ∈ merged ∧ limitParameter .query "shared" ∉ merged := by
  obtain ⟨ps, hps, hkeys⟩ := exists_ok_of_map (f := List.map key)
    (x := [RefOr.ref "#/components/parameters/Limit"].mapM limitComponents.resolveParameter)
    (y := [("limit", .query)]) (by decide +kernel)
  have hnodup : (ps.map key).Nodup := by simp [hkeys]
  have hown : (ownLimits.map RefOr.inline).mapM limitComponents.resolveParameter = .ok ownLimits := rfl
  obtain ⟨merged, hmerged, -, -, h⟩ := mergedParameters_merges hps hown
  obtain ⟨hmergedKeys, hmem⟩ := h hnodup
  refine ⟨ps, merged, hps, hown, hnodup, hmerged, ?_, ?_, ?_⟩
  · rw [hmergedKeys, hkeys]
    decide
  · rw [hmem]
    rfl
  · rw [hmem]
    simp [inForce?, ownLimits, limitParameter, key]

/-- A path that has two limits of one key, which one operation overrides: the second one of the path is
    still there, beside the one that is in force. -/
theorem mergedParameters_limits :
    mergedParameters {} [.inline (limitParameter .query "number"), .inline (limitParameter .query "text")]
        [.inline (limitParameter .query "own")]
      = .ok [limitParameter .query "own", limitParameter .query "text"] ∧
    ¬ ([limitParameter .query "own", limitParameter .query "text"].map key).Nodup ∧
    inForce? [limitParameter .query "number", limitParameter .query "text"]
        [limitParameter .query "own"] ("limit", .query) = some (limitParameter .query "own") := by
  refine ⟨rfl, by decide, rfl⟩

end OpenApi
