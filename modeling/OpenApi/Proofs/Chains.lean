import Mathlib.Data.Option.Basic
import OpenApi.Proofs.Run

set_option autoImplicit false

/-! # Chains of references

References are followed twice: by the document from path to path, and by the graph from node to node.
`Leads` and `Components.LeadsTo` are the chains that come to an end, with their lengths. Since every
step is determined, each point of such a chain has its own distance to the end. No point is therefore
met twice, and following the chain by `chase`, or by `Reference.follow`, arrives at its end. -/

namespace OpenApi

section Chase

variable {α : Type}

/-- The chain of `step` from a point ends at `e` after `k` steps. -/
inductive Leads (step : α → Option α) (e : α) : Nat → α → Prop
  | here : step e = none → Leads step e 0 e
  | step {k : Nat} {a b : α} : step a = some b → Leads step e k b → Leads step e (k + 1) a

/-- The end of a chain and its length are determined. -/
theorem Leads.unique {step : α → Option α} {e e' a : α} {k k' : Nat} (h : Leads step e k a)
    (h' : Leads step e' k' a) : k = k' ∧ e = e' := by
  induction h generalizing k' with
  | here hnone =>
      cases h' with
      | here => exact ⟨rfl, rfl⟩
      | step hb => rw [hnone] at hb; cases hb
  | step hb _ ih =>
      cases h' with
      | here hnone => rw [hnone] at hb; cases hb
      | step hb' hrest =>
          rw [hb] at hb'
          cases hb'
          obtain ⟨rfl, rfl⟩ := ih hrest
          exact ⟨rfl, rfl⟩

variable [DecidableEq α]

/-- `chase` arrives at the end of a chain, as long as the points of the chain are fresh. -/
theorem chase_of_leads {step : α → Option α} {P : α → Prop} (hP : ∀ {a b}, step a = some b → P b)
    {e a : α} {k : Nat} (h : Leads step e k a) {fresh : List α}
    (hfresh : ∀ j x, j < k → Leads step e j x → P x → x ∈ fresh) : chase step fresh a = e := by
  induction h generalizing fresh with
  | here hnone => exact chase_of_step_eq_none hnone
  | @step k a b hb hrest ih =>
      have hmem : b ∈ fresh := hfresh k b (Nat.lt_succ_self k) hrest (hP hb)
      unfold chase
      simp only [hb, hmem, if_true]
      refine ih fun j x hj hx hPx => ?_
      -- the points behind `b` are nearer to the end than `b`
      have hne : x ≠ b := by
        rintro rfl
        exact Nat.ne_of_lt hj (hx.unique hrest).1
      exact (List.mem_erase_of_ne hne).2 (hfresh j x (Nat.lt_succ_of_lt hj) hx hPx)

end Chase

/-! ## Chains of nodes -/

namespace Registry

variable {r : Registry}

/-- Where a reference leads. -/
def next? (r : Registry) : ModelId → Option ModelId := r.nodes.next? r.lookup

theorem next?_eq_some_iff {id target : ModelId} :
    r.next? id = some target ↔ ∃ m, r.node? id = some m ∧ m.kind = .reference ∧
      r.lookup m.baseType = some target ∧ target ≠ id := by
  unfold next? Nodes.next?
  constructor
  · intro h
    obtain ⟨m, hm, h⟩ := Option.bind_eq_some_iff.1 h
    obtain ⟨_, hk, h⟩ := Option.bind_eq_some_iff.1 h
    obtain ⟨t, ht, h⟩ := Option.bind_eq_some_iff.1 h
    obtain ⟨_, hne, h⟩ := Option.bind_eq_some_iff.1 h
    cases h
    exact ⟨m, hm, (Option.guard_eq_some' _).1 hk, ht, (Option.guard_eq_some' _).1 hne⟩
  · rintro ⟨m, hm, hk, ht, hne⟩
    unfold node? at hm
    refine Option.bind_eq_some_iff.2 ⟨m, hm, Option.bind_eq_some_iff.2 ⟨(), ?_, ?_⟩⟩
    · exact (Option.guard_eq_some' _).2 hk
    · refine Option.bind_eq_some_iff.2 ⟨target, ht, Option.bind_eq_some_iff.2 ⟨(), ?_, rfl⟩⟩
      exact (Option.guard_eq_some' _).2 hne

/-- Only references lead on. -/
theorem next?_eq_none {id : ModelId} {m : Model} (hm : r.node? id = some m)
    (h : m.kind = .reference → r.lookup m.baseType = some id) : r.next? id = none := by
  cases hn : r.next? id with
  | none => rfl
  | some t =>
      obtain ⟨m', hm', hk, ht, hne⟩ := next?_eq_some_iff.1 hn
      rw [hm] at hm'
      cases hm'
      rw [h hk] at ht
      cases ht
      exact absurd rfl hne

theorem canonical_of_next?_eq_none {id : ModelId} (h : r.next? id = none) : r.canonical id = id := by
  unfold canonical Nodes.canonical
  rw [show r.nodes.next? r.lookup id = none from h]

/-- The node that says what a node is stands at the end of its references. -/
theorem canonical_of_leads (hr : ∀ {n id}, r.lookup n = some id → id < r.nodes.size) {id e : ModelId}
    {k : Nat} (h : Leads r.next? e k id) : r.canonical id = e := by
  have hid := h
  cases h with
  | here hnone => exact canonical_of_next?_eq_none hnone
  | @step k _ t ht hrest =>
      unfold canonical Nodes.canonical
      rw [show r.nodes.next? r.lookup id = some t from ht]
      have hsize {a b : ModelId} (hab : r.next? a = some b) : b < r.nodes.size := by
        obtain ⟨m, -, -, hl, -⟩ := next?_eq_some_iff.1 hab
        exact hr hl
      refine chase_of_leads hsize hid fun j x hj hx hlt => ?_
      have hne : x ≠ id := by
        rintro rfl
        exact Nat.ne_of_lt hj (hx.unique hid).1
      exact (List.mem_erase_of_ne hne).2 (List.mem_range.2 hlt)

end Registry

/-! ## Chains of paths -/

namespace Components

variable {c : Components}

/-- The chain of references from a path ends at the definition of the component `e`, after `k` steps
    through references. -/
inductive LeadsTo (c : Components) (e : String) : Nat → String → Prop
  | here {path : String} {s : Schema} : c.target path = .ok (e, .inline s) → LeadsTo c e 0 path
  | through {k : Nat} {path name next : String} {nullable : Option Bool} :
      c.target path = .ok (name, .ref next nullable) → LeadsTo c e k next → LeadsTo c e (k + 1) path

theorem target_eq_ok_iff {path name : String} {s : SchemaOrRef} :
    c.target path = .ok (name, s) ↔
      Reference.name? "schemas" path = .ok name ∧ Entries.get? c.schemas name = some s := by
  unfold target
  constructor
  · intro h
    split at h
    · cases h
    · next n hn =>
        split at h
        · next x hx =>
            cases h
            exact ⟨hn, hx⟩
        · cases h
  · rintro ⟨hn, hs⟩
    rw [hn]
    simp only [hs]

theorem targetName_eq_ok_iff {path name : String} :
    c.targetName path = .ok name ↔ ∃ s, c.target path = .ok (name, s) := by
  unfold targetName
  rcases c.target path with e | ⟨n, s⟩
  · simp [Except.map]
  · simp [Except.map]

/-- Paths with the same target have the same chain. -/
theorem LeadsTo.congr {e path path' : String} {k : Nat} (h : c.LeadsTo e k path)
    (ht : c.target path' = c.target path) : c.LeadsTo e k path' := by
  cases h with
  | here hs => exact .here (ht.trans hs)
  | through hs hrest => exact .through (ht.trans hs) hrest

/-- The end of a chain and its length are determined. -/
theorem LeadsTo.unique {e e' path : String} {k k' : Nat} (h : c.LeadsTo e k path)
    (h' : c.LeadsTo e' k' path) : k = k' ∧ e = e' := by
  induction h generalizing k' with
  | here hs =>
      cases h' with
      | here hs' =>
          rw [hs] at hs'
          cases hs'
          exact ⟨rfl, rfl⟩
      | through hs' => rw [hs] at hs'; cases hs'
  | through hs _ ih =>
      cases h' with
      | here hs' => rw [hs] at hs'; cases hs'
      | through hs' hrest =>
          rw [hs] at hs'
          cases hs'
          obtain ⟨rfl, rfl⟩ := ih hrest
          exact ⟨rfl, rfl⟩

/-- What `follow` arrives at is the end of the chain. -/
theorem leadsTo_of_followFrom {fresh : Entries SchemaOrRef} {path e : String} {s : Schema}
    (hsub : ∀ n x, Entries.get? fresh n = some x → Entries.get? c.schemas n = some x)
    (h : Reference.followFrom "schemas" SchemaOrRef.view c.schemas fresh path = .ok (e, s)) :
    ∃ k, c.LeadsTo e k path := by
  fun_induction Reference.followFrom "schemas" SchemaOrRef.view c.schemas fresh path with
  | case1 => cases h
  | case2 => cases h
  | case3 fresh path name hname entry hentry definition hview =>
      cases h
      refine ⟨0, .here (s := s) (target_eq_ok_iff.2 ⟨hname, ?_⟩)⟩
      rw [hsub _ _ hentry]
      cases entry with
      | ref => cases hview
      | inline => cases hview; rfl
  | case4 fresh path name hname entry hentry next hview ih =>
      obtain ⟨k, hk⟩ := ih (fun n x hx => hsub n x (by
        rw [Entries.get?_erase] at hx
        split at hx
        · cases hx
        · exact hx)) h
      cases entry with
      | inline => cases hview
      | ref path' nullable =>
          cases hview
          exact ⟨k + 1, .through (target_eq_ok_iff.2 ⟨hname, hsub _ _ hentry⟩) hk⟩

/-- One step of `follow`: from a path to a component that is fresh. -/
theorem followFrom_fresh {fresh : Entries SchemaOrRef} {path name : String} {entry : SchemaOrRef}
    (hname : Reference.name? "schemas" path = .ok name) (hentry : Entries.get? fresh name = some entry) :
    Reference.followFrom "schemas" SchemaOrRef.view c.schemas fresh path =
      match entry.view with
      | .inr s => .ok (name, s)
      | .inl next => Reference.followFrom "schemas" SchemaOrRef.view c.schemas
          (Entries.erase fresh name) next := by
  rw [Reference.followFrom.eq_def, hname]
  dsimp only
  split
  · next hnone => rw [hentry] at hnone; cases hnone
  · next entry' hentry' =>
      rw [hentry] at hentry'
      cases hentry'
      cases entry with
      | ref => rfl
      | inline => rfl

/-- `follow` arrives at the end of a chain, as long as the components of the chain are fresh. -/
theorem followFrom_of_leadsTo {e path : String} {k : Nat} (h : c.LeadsTo e k path)
    {fresh : Entries SchemaOrRef}
    (hfresh : ∀ j p n s, j ≤ k → c.LeadsTo e j p → c.target p = .ok (n, s) →
      Entries.get? fresh n = some s) :
    ∃ s, Reference.followFrom "schemas" SchemaOrRef.view c.schemas fresh path = .ok (e, s) := by
  induction h generalizing fresh with
  | @here path s hs =>
      refine ⟨s, ?_⟩
      rw [followFrom_fresh (target_eq_ok_iff.1 hs).1
        (hfresh 0 path _ _ (Nat.le_refl 0) (.here hs) hs)]
      rfl
  | @through k path name next nullable hs hrest ih =>
      have herased : ∀ j p n s, j ≤ k → c.LeadsTo e j p → c.target p = .ok (n, s) →
          Entries.get? (Entries.erase fresh name) n = some s := by
        intro j p n s hj hp hn
        have hne : n ≠ name := by
          rintro rfl
          -- a path with the same target would have the length of the whole chain
          have htarget : c.target p = c.target path := by
            rw [hn, hs, (target_eq_ok_iff.1 hn).2.symm.trans (target_eq_ok_iff.1 hs).2 |>
              Option.some.inj]
          have hlen := (hp.unique ((LeadsTo.through hs hrest).congr htarget)).1
          omega
        rw [Entries.get?_erase, if_neg hne]
        exact hfresh j p n s (Nat.le_succ_of_le hj) hp hn
      obtain ⟨s, hfollow⟩ := ih herased
      refine ⟨s, ?_⟩
      rw [followFrom_fresh (target_eq_ok_iff.1 hs).1
        (hfresh (k + 1) path _ _ (Nat.le_refl _) (.through hs hrest) hs)]
      exact hfollow

/-- The canonical name of a path is that of the definition at the end of its chain; there is none for
    a chain that is circular or leaves the components. -/
theorem canonicalName_eq_ok_iff {path e : String} :
    c.canonicalName path = .ok e ↔ ∃ k, c.LeadsTo e k path := by
  unfold canonicalName Reference.follow
  constructor
  · intro h
    cases hf : Reference.followFrom "schemas" SchemaOrRef.view c.schemas c.schemas path with
    | error err =>
        rw [hf] at h
        cases h
    | ok p =>
        rw [hf] at h
        cases h
        exact leadsTo_of_followFrom (fun _ _ hx => hx) hf
  · rintro ⟨k, h⟩
    obtain ⟨s, hs⟩ := followFrom_of_leadsTo h fun _ _ _ _ _ _ hn => (target_eq_ok_iff.1 hn).2
    rw [hs]
    rfl

end Components

end OpenApi
