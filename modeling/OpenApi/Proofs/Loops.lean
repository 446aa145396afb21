import OpenApi.Proofs.Chains

set_option autoImplicit false

/-! # Chains that run into a loop

The references of an arbitrary graph need not come to an end: a chain may run into a loop, of several
nodes or of one that names itself. `RestsFirst` says where following such a chain comes to rest: at the first
of its points from which no step leads on or which lies on a loop. `Registry.canonical_restsFirst`
shows that this is the node which the graph calls canonical, and that following it once more
stays there. -/

namespace OpenApi

section Chain

variable {α : Type} {step : α → Option α} {a b e p : α} {i j k m n : Nat}

/-- The point of the chain from `a` after a number of steps, if it goes on so far. -/
def after (step : α → Option α) (a : α) : Nat → Option α
  | 0 => some a
  | n + 1 => (after step a n).bind step

/-- The chain from a point comes back to it. -/
def OnLoop (step : α → Option α) (a : α) : Prop := ∃ n, 0 < n ∧ after step a n = some a

/-- A point from which no step leads on, or which lies on a loop. -/
def Rests (step : α → Option α) (a : α) : Prop := step a = none ∨ OnLoop step a

/-- The first point of the chain from `a` that rests is `e`, after `n` steps. -/
structure RestsFirst (step : α → Option α) (a : α) (n : Nat) (e : α) : Prop where
  reached : after step a n = some e
  rests : Rests step e
  first : ∀ i p, i < n → after step a i = some p → ¬ Rests step p

theorem after_add (step : α → Option α) (a : α) (m n : Nat) :
    after step a (m + n) = (after step a m).bind fun b => after step b n := by
  induction n with
  | zero => simp [after]
  | succ n ih =>
      rw [← Nat.add_assoc, after, ih, Option.bind_assoc]
      rfl

theorem after_of_after (h : after step a m = some b) (n : Nat) :
    after step a (m + n) = after step b n := by
  rw [after_add, h, Option.bind_some]

/-- A chain goes on from all points before one that it reaches. -/
theorem step_ne_none_of_after (hp : after step a i = some p) (hb : after step a n = some b)
    (hi : i < n) : step p ≠ none := by
  intro hnone
  obtain ⟨d, rfl⟩ := Nat.exists_eq_add_of_lt hi
  rw [Nat.add_assoc, Nat.add_comm d 1, after_of_after hp, after_add, after, after, Option.bind_some,
    hnone] at hb
  cases hb

/-- A chain meets its points on a loop again behind any number of steps. -/
theorem OnLoop.later (h : OnLoop step p) (hp : after step a i = some p) (k : Nat) :
    ∃ n, k ≤ n ∧ after step a n = some p := by
  obtain ⟨m, hm, hback⟩ := h
  induction k with
  | zero => exact ⟨i, Nat.zero_le i, hp⟩
  | succ k ih =>
      obtain ⟨n, hn, hat⟩ := ih
      exact ⟨n + m, by omega, by rw [after_of_after hat, hback]⟩

/-- Once the chain is after `k + 1` steps where it was after `i`, it goes through the points of the steps
    `i` to `k` only. -/
theorem exists_after_eq (hi : i ≤ k) (hagain : after step a (k + 1) = after step a i) (d : Nat) :
    ∃ q, i ≤ q ∧ q ≤ k ∧ after step a (i + d) = after step a q := by
  induction d with
  | zero => exact ⟨i, Nat.le_refl i, hi, rfl⟩
  | succ d ih =>
      obtain ⟨q, hiq, hqk, hq⟩ := ih
      have hnext : after step a (i + (d + 1)) = after step a (q + 1) := by
        rw [← Nat.add_assoc, after, hq, after]
      rcases Nat.eq_or_lt_of_le hqk with rfl | hlt
      · exact ⟨i, Nat.le_refl i, hi, hnext.trans hagain⟩
      · exact ⟨q + 1, by omega, hlt, hnext⟩

/-- A chain has one first point that rests. -/
theorem RestsFirst.unique {e' : α} (h : RestsFirst step a n e) (h' : RestsFirst step a m e') :
    e = e' := by
  rcases Nat.lt_trichotomy n m with hlt | rfl | hlt
  · exact absurd h.rests (h'.first n e hlt h.reached)
  · exact Option.some.inj (h.reached.symm.trans h'.reached)
  · exact absurd h'.rests (h.first m e' hlt h'.reached)

/-- A point that rests is the first one of its own chain. -/
theorem RestsFirst.here (h : Rests step e) : RestsFirst step e 0 e :=
  ⟨rfl, h, fun _ _ hi => absurd hi (Nat.not_lt_zero _)⟩

/-! ## Where a chain comes to rest -/

/-- At the end of a chain. -/
theorem restsFirst_of_step_eq_none (he : after step a k = some e) (hnone : step e = none) :
    RestsFirst step a k e := by
  refine ⟨he, .inl hnone, fun i p hi hp hrests => ?_⟩
  rcases hrests with hstop | hloop
  · exact step_ne_none_of_after hp he hi hstop
  · -- a chain that comes back to `p` is never over
    obtain ⟨n, hn, hlater⟩ := hloop.later hp (k + 1)
    exact step_ne_none_of_after he hlater hn hnone

/-- At the first point that is met again: the points up to step `k` differ, and the next one is that of
    step `i`. -/
theorem restsFirst_of_repeat
    (hdistinct : ∀ i j p, i < j → j ≤ k → after step a i = some p → after step a j ≠ some p)
    (hi : i ≤ k) (he : after step a i = some e) (hagain : after step a (k + 1) = some e) :
    RestsFirst step a i e := by
  have hloop : OnLoop step e := by
    refine ⟨k + 1 - i, by omega, ?_⟩
    rw [← after_of_after he, Nat.add_sub_cancel' (by omega), hagain]
  refine ⟨he, .inr hloop, fun j p hj hp hrests => ?_⟩
  rcases hrests with hstop | hback
  · exact step_ne_none_of_after hp he hj hstop
  · -- a point before step `i` that comes back is one of the points from there on
    obtain ⟨n, hn, hlater⟩ := hback.later hp i
    obtain ⟨d, rfl⟩ := Nat.exists_eq_add_of_le hn
    obtain ⟨q, hiq, hqk, hq⟩ := exists_after_eq hi (hagain.trans he.symm) d
    exact hdistinct j q p (Nat.lt_of_lt_of_le hj hiq) hqk hp (hq.symm.trans hlater)

/-! ## Following a chain -/

variable [DecidableEq α]

/-- After `k` steps from `s` the chain is at `a`: it has met no point twice, and those it has met are
    the ones that are no longer fresh. -/
structure Passes (step : α → Option α) (s : α) (fresh : List α) (k : Nat) (a : α) : Prop where
  reached : after step s k = some a
  distinct : ∀ i j p, i < j → j ≤ k → after step s i = some p → after step s j ≠ some p
  stale : ∀ i p, i ≤ k → after step s i = some p → p ∉ fresh
  covers : ∀ c p, step c = some p → p ∈ fresh ∨ ∃ i ≤ k, after step s i = some p
  nodup : fresh.Nodup

variable {s : α} {fresh : List α}

/-- One step on, to a point that is fresh. -/
theorem Passes.advance (h : Passes step s fresh k a) (hb : step a = some b) (hfresh : b ∈ fresh) :
    Passes step s (fresh.erase b) (k + 1) b := by
  have hnext : after step s (k + 1) = some b := by rw [after, h.reached, Option.bind_some, hb]
  have hmet {i : Nat} {p : α} (hi : i ≤ k + 1) (hp : after step s i = some p) : i ≤ k ∨ p = b := by
    rcases Nat.eq_or_lt_of_le hi with rfl | hlt
    · exact .inr (Option.some.inj (hp.symm.trans hnext))
    · exact .inl (Nat.le_of_lt_succ hlt)
  refine ⟨hnext, fun i j p hij hj hp hagain => ?_, fun i p hi hp hmem => ?_, fun c p hc => ?_,
    h.nodup.erase b⟩
  · rcases hmet hj hagain with hj | rfl
    · exact h.distinct i j p hij hj hp hagain
    · exact h.stale i p (by omega) hp hfresh
  · rcases hmet hi hp with hi | rfl
    · exact h.stale i p hi hp (List.mem_of_mem_erase hmem)
    · exact h.nodup.not_mem_erase hmem
  · rcases h.covers c p hc with hmem | ⟨i, hi, hp⟩
    · by_cases heq : p = b
      · exact .inr ⟨k + 1, Nat.le_refl _, heq ▸ hnext⟩
      · exact .inl ((List.mem_erase_of_ne heq).2 hmem)
    · exact .inr ⟨i, Nat.le_succ_of_le hi, hp⟩

/-- Following a chain without the steps from a point to itself, `chase` comes to the first point that
    rests, and takes no more steps than there are fresh points. -/
theorem Passes.restsFirst_chase {next : α → Option α} (hnext : ∀ a, next a = (step a).filter (· ≠ a))
    (h : Passes step s fresh k a) :
    ∃ n ≤ k + fresh.length, RestsFirst step s n (chase next fresh a) := by
  have hstep {a b : α} (hab : next a = some b) : step a = some b := by
    rw [hnext, Option.filter_eq_some_iff] at hab
    exact hab.1
  fun_induction chase next fresh a generalizing k with
  | case1 fresh a hnone =>
      refine ⟨k, Nat.le_add_right _ _, ?_⟩
      cases ha : step a with
      | none => exact restsFirst_of_step_eq_none h.reached ha
      | some b =>
          obtain rfl : b = a := by
            by_contra hne
            simp [hnext, ha, hne] at hnone
          refine restsFirst_of_repeat h.distinct (Nat.le_refl k) h.reached ?_
          rw [after, h.reached, Option.bind_some, ha]
  | case2 fresh a b hb hmem ih =>
      obtain ⟨n, hn, hrests⟩ := ih (h.advance (hstep hb) hmem)
      have hlt := length_erase_lt_of_mem hmem
      exact ⟨n, by omega, hrests⟩
  | case3 fresh a b hb hmem =>
      obtain ⟨i, hi, hmet⟩ := (h.covers a b (hstep hb)).resolve_left hmem
      refine ⟨i, by omega, restsFirst_of_repeat h.distinct hi hmet ?_⟩
      rw [after, h.reached, Option.bind_some, hstep hb]

end Chain

/-! ## References in an arbitrary graph -/

namespace Registry

variable {r : Registry} {id : ModelId}

/-- The node that a reference names, which may be itself. -/
def referent? (r : Registry) (id : ModelId) : Option ModelId :=
  (r.node? id).bind fun m => if m.kind = .reference then r.lookup m.baseType else none

theorem referent?_eq_some_iff {target : ModelId} : r.referent? id = some target ↔
    ∃ m, r.node? id = some m ∧ m.kind = .reference ∧ r.lookup m.baseType = some target := by
  simp [referent?, Option.bind_eq_some_iff]

/-- Following references takes no step from a node to itself. -/
theorem next?_eq_filter (r : Registry) (id : ModelId) :
    r.next? id = (r.referent? id).filter (· ≠ id) := by
  refine Option.ext fun target => ?_
  rw [next?_eq_some_iff, Option.filter_eq_some_iff, referent?_eq_some_iff, decide_eq_true_eq]
  constructor
  · rintro ⟨m, hm, hk, ht, hne⟩
    exact ⟨⟨m, hm, hk, ht⟩, hne⟩
  · rintro ⟨⟨m, hm, hk, ht⟩, hne⟩
    exact ⟨m, hm, hk, ht, hne⟩

theorem canonical_eq_chase (r : Registry) (id : ModelId) :
    r.canonical id = chase r.next? ((List.range r.nodes.size).erase id) id := by
  unfold canonical Nodes.canonical
  split
  · next hnone => exact (chase_of_step_eq_none hnone).symm
  · rfl

section Index

variable (hindex : ∀ n id, (n, id) ∈ r.named → id < r.nodes.size)
include hindex

/-- A reference names a node that is there. -/
theorem referent?_lt {target : ModelId} (h : r.referent? id = some target) :
    target < r.nodes.size := by
  obtain ⟨m, -, -, ht⟩ := referent?_eq_some_iff.1 h
  exact hindex _ _ (Entries.mem_of_get? ht)

/-- The chain of references from a node stays within the graph. -/
theorem after_referent?_lt (hid : id < r.nodes.size) {k : Nat} {p : ModelId}
    (h : after r.referent? id k = some p) : p < r.nodes.size := by
  cases k with
  | zero => exact Option.some.inj h ▸ hid
  | succ k =>
      obtain ⟨q, -, hq⟩ := Option.bind_eq_some_iff.1 h
      exact referent?_lt hindex hq

/-- At the start the node itself has been met, and all others are fresh. -/
theorem passes_start (id : ModelId) :
    Passes r.referent? id ((List.range r.nodes.size).erase id) 0 id where
  reached := rfl
  distinct i j p hij hj := absurd hij (by omega)
  stale i p hi hp := by
    obtain rfl := Nat.le_zero.1 hi
    cases hp
    exact List.nodup_range.not_mem_erase
  covers c p hc := by
    by_cases heq : p = id
    · exact .inr ⟨0, Nat.le_refl 0, heq ▸ rfl⟩
    · exact .inl ((List.mem_erase_of_ne heq).2 (List.mem_range.2 (referent?_lt hindex hc)))
  nodup := List.nodup_range.erase id

/-- The canonical node is where the chain of references comes to rest, after fewer steps than there
    are nodes. -/
theorem restsFirst_canonical (hid : id < r.nodes.size) :
    ∃ k < r.nodes.size, RestsFirst r.referent? id k (r.canonical id) := by
  obtain ⟨k, hk, hrests⟩ := (passes_start hindex id).restsFirst_chase r.next?_eq_filter
  rw [← canonical_eq_chase] at hrests
  have hlt := length_erase_lt_of_mem (List.mem_range.2 hid)
  rw [List.length_range] at hlt
  exact ⟨k, by omega, hrests⟩

/-- In a graph whose index of names points to its own nodes, and whatever these refer to, the chain
    of references from a node stays within the graph, and the canonical node is the first one at which it
    comes to rest, after fewer steps than there are nodes. It is thus the first node of the chain on a
    loop, if the chain runs into one. The canonical node is its own canonical node, and so is every node
    that is no reference. -/
theorem canonical_restsFirst (hid : id < r.nodes.size) :
    (∀ k p, after r.referent? id k = some p → p < r.nodes.size) ∧
    (∃ k < r.nodes.size, RestsFirst r.referent? id k (r.canonical id)) ∧
    (∀ k e, after r.referent? id k = some e → OnLoop r.referent? e →
      (∀ i p, i < k → after r.referent? id i = some p → ¬ OnLoop r.referent? p) →
      r.canonical id = e) ∧
    r.canonical (r.canonical id) = r.canonical id ∧
    (∀ m, r.node? id = some m → m.kind ≠ .reference → r.canonical id = id) := by
  obtain ⟨n, hn, hrests⟩ := restsFirst_canonical hindex hid
  refine ⟨fun k p hp => after_referent?_lt hindex hid hp, ⟨n, hn, hrests⟩, ?_, ?_, ?_⟩
  · intro k e he hloop hfirst
    refine hrests.unique ⟨he, .inr hloop, fun i p hi hp hp' => ?_⟩
    rcases hp' with hstop | hback
    · exact step_ne_none_of_after hp he hi hstop
    · exact hfirst i p hi hp hback
  · obtain ⟨_, -, hagain⟩ :=
      restsFirst_canonical hindex (after_referent?_lt hindex hid hrests.reached)
    exact hagain.unique (.here hrests.rests)
  · intro m hm hk
    refine hrests.unique (.here (.inl ?_))
    rw [referent?, hm, Option.bind_some, if_neg hk]

end Index

/-- Two aliases that name each other, an alias that leads to them, and a node that is no reference. -/
def aliasLoop : Registry where
  nodes := #[
    { name := "Alias", kind := .reference, baseType := "First" },
    { name := "First", kind := .reference, baseType := "Second" },
    { name := "Second", kind := .reference, baseType := "First" },
    Model.any "Other"]
  named := [("Alias", 0), ("First", 1), ("Second", 2), ("Other", 3)]

theorem canonical_restsFirst_aliasLoop :
    (∀ n id, (n, id) ∈ aliasLoop.named → id < aliasLoop.nodes.size) ∧
    OnLoop aliasLoop.referent? 1 ∧ OnLoop aliasLoop.referent? 2 ∧ ¬ OnLoop aliasLoop.referent? 0 ∧
    aliasLoop.canonical 0 = 1 ∧ aliasLoop.canonical 1 = 1 ∧ aliasLoop.canonical 2 = 2 ∧
    aliasLoop.canonical 3 = 3 := by
  have hindex : ∀ n id, (n, id) ∈ aliasLoop.named → id < aliasLoop.nodes.size := by
    have hall : ∀ entry ∈ aliasLoop.named, entry.2 < aliasLoop.nodes.size := by decide
    exact fun n id h => hall (n, id) h
  have hfirst : OnLoop aliasLoop.referent? 1 := ⟨2, by decide, by decide⟩
  have hsecond : OnLoop aliasLoop.referent? 2 := ⟨2, by decide, by decide⟩
  -- no reference leads back to the alias
  have hback : ∀ q, aliasLoop.referent? q ≠ some 0 := by
    intro q h
    obtain ⟨m, hm, -, -⟩ := referent?_eq_some_iff.1 h
    have hall : ∀ q < aliasLoop.nodes.size, aliasLoop.referent? q ≠ some 0 := by decide
    exact hall q (node?_eq_some_lt hm) h
  have halias : ¬ OnLoop aliasLoop.referent? 0 := by
    rintro ⟨n, hn, h⟩
    obtain ⟨n, rfl⟩ := Nat.exists_eq_add_one_of_ne_zero (Nat.ne_of_gt hn)
    obtain ⟨q, -, hq⟩ := Option.bind_eq_some_iff.1 h
    exact hback q hq
  obtain ⟨-, -, hloop, hidem, -⟩ := canonical_restsFirst hindex (show 0 < _ by decide)
  have hcanonical : aliasLoop.canonical 0 = 1 := by
    refine hloop 1 1 (by decide) hfirst fun i p hi hp => ?_
    obtain rfl := Nat.lt_one_iff.1 hi
    cases hp
    exact halias
  refine ⟨hindex, hfirst, hsecond, halias, hcanonical, ?_, ?_, ?_⟩
  · rwa [hcanonical] at hidem
  · exact (canonical_restsFirst hindex (by decide)).2.2.1 0 2 rfl hsecond fun _ _ hi =>
      absurd hi (Nat.not_lt_zero _)
  · exact (canonical_restsFirst hindex (by decide)).2.2.2.2 (Model.any "Other") rfl (by decide)

end Registry

end OpenApi
