import Mathlib.Data.List.Basic
import Mathlib.Data.List.Pairwise
import OpenApi.Operation.Identity
import OpenApi.Proofs.Results

set_option autoImplicit false

/-! # When operations get their identities

A `Ledger` records exactly what the operations before have taken. With the check of assigned names on, the
next operation gets its identity when it is `Compatible` with each of them, and the operations of a
list get theirs when any two of them are compatible: `identifyAll_isOk_iff`. -/

namespace OpenApi

/-! ## Lists in order -/

/-- A relation holds pairwise when each member has it to those before it. -/
theorem pairwise_iff_forall_before {α : Type} {R : α → α → Prop} {as : List α} :
    as.Pairwise R ↔ ∀ before x after, as = before ++ x :: after → ∀ a ∈ before, R a x := by
  constructor
  · rintro h before x after rfl a ha
    exact (List.pairwise_append.1 h).2.2 a ha x List.mem_cons_self
  · intro h
    refine List.pairwise_iff_forall_sublist.2 fun {a b} hsub => ?_
    obtain ⟨front, back, rfl, ha, hb⟩ := List.cons_sublist_iff.1 hsub
    obtain ⟨between, after, rfl⟩ := List.append_of_mem (List.singleton_sublist.1 hb)
    exact h (front ++ between) b after (List.append_assoc ..).symm a (List.mem_append_left _ ha)

theorem exists_mem_concat_iff {α : Type} {p : α → Prop} {as : List α} {x : α} :
    (∃ a ∈ as ++ [x], p a) ↔ (∃ a ∈ as, p a) ∨ p x := by
  simp [or_and_right, exists_or]

/-! ## Identities -/

namespace Operation

/-- The name that tells an operation from all others: the assigned one, and otherwise its own. -/
def identityName (op : Operation) : String := op.assignedName?.getD op.ownName

/-- The operation under its identity. -/
def underIdentity (op : Operation) : Operation :=
  op.identified (op.assignedName?.getD op.operationId) op.identityName

/-- Two operations without assigned names have one id under one tag. -/
def SharesTaggedId (a b : Operation) : Prop :=
  a.assignedName? = none ∧ b.assignedName? = none ∧ a.operationId = b.operationId ∧
    ∃ tag ∈ a.tags, tag ∈ b.tags

instance (a b : Operation) : Decidable (a.SharesTaggedId b) :=
  inferInstanceAs (Decidable (_ ∧ _ ∧ _ ∧ ∃ tag ∈ a.tags, tag ∈ b.tags))

/-- Two operations without assigned names and without tags have one id. -/
def SharesUntaggedId (a b : Operation) : Prop :=
  a.assignedName? = none ∧ b.assignedName? = none ∧ a.operationId = b.operationId ∧
    a.tags = [] ∧ b.tags = []

/-- Two operations do not stand in each other's way. -/
structure Compatible (a b : Operation) : Prop where
  tagged : ¬ a.SharesTaggedId b
  named : a.identityName ≠ b.identityName

theorem identityName_of_some {op : Operation} {name : String} (h : op.assignedName? = some name) :
    op.identityName = name := by
  rw [identityName, h, Option.getD_some]

theorem identityName_of_none {op : Operation} (h : op.assignedName? = none) :
    op.identityName = op.ownName := by
  rw [identityName, h, Option.getD_none]

theorem ownName_of_untagged {op : Operation} (h : op.tags = []) : op.ownName = op.operationId := by
  rw [ownName, h]

/-- Without tags the id is the name as well. -/
theorem SharesUntaggedId.identityName_eq {a b : Operation} (h : a.SharesUntaggedId b) :
    a.identityName = b.identityName := by
  obtain ⟨ha, hb, hid, hatags, hbtags⟩ := h
  rw [identityName_of_none ha, identityName_of_none hb, ownName_of_untagged hatags,
    ownName_of_untagged hbtags, hid]

end Operation

/-! ## What is taken -/

namespace Ledger

/-- A ledger has taken what some operations need, and nothing else. -/
structure Records (l : Ledger) (done : List Operation) : Prop where
  untagged : ∀ id, id ∈ l.untagged ↔
    ∃ a ∈ done, a.assignedName? = none ∧ a.tags = [] ∧ a.operationId = id
  tagged : ∀ tag id, (tag, id) ∈ l.tagged ↔
    ∃ a ∈ done, a.assignedName? = none ∧ tag ∈ a.tags ∧ a.operationId = id
  names : ∀ name, name ∈ Entries.keys l.names ↔ ∃ a ∈ done, a.identityName = name

theorem Records.empty : Records {} [] :=
  ⟨fun _ => by simp, fun _ _ => by simp, fun _ => by simp [Entries.keys]⟩

variable {l l' : Ledger} {id name : String} {assigned : Bool} {events : List Event}

/-- A name that is claimed while assigned names are checked was free. -/
theorem claim_true_ok_iff : l.claim true name assigned = .ok (l', events) ↔
    name ∉ Entries.keys l.names ∧ l' = { l with names := l.names ++ [(name, assigned)] } ∧
      events = [] := by
  rw [← Entries.get?_eq_none_iff]
  unfold claim
  split
  · next hnone => simp [hnone, eq_comm]
  · next earlier hsome =>
      rw [hsome]
      split <;> simp

theorem takeUntagged_ok_iff : l.takeUntagged id = .ok l' ↔
    id ∉ l.untagged ∧ l' = { l with untagged := id :: l.untagged } := by
  unfold takeUntagged
  split
  · next h => simp [h]
  · next h => simp [h, eq_comm]

theorem takeTagged_ok_iff {tags : List String} :
    l.takeTagged id tags = .ok l' ↔ tags.Nodup ∧ (∀ tag ∈ tags, (tag, id) ∉ l.tagged) ∧
      l' = { l with tagged := (tags.map (·, id)).reverse ++ l.tagged } := by
  induction tags generalizing l with
  | nil =>
      rw [takeTagged]
      simp [eq_comm]
  | cons tag rest ih =>
      rw [takeTagged]
      split
      · next h => simp [h]
      · next h =>
          -- what has just been taken is in the way of the same tag only
          have hfree : (∀ t ∈ rest, (t, id) ∉ (tag, id) :: l.tagged) ↔
              tag ∉ rest ∧ ∀ t ∈ rest, (t, id) ∉ l.tagged := by
            simp only [List.mem_cons, Prod.mk.injEq, and_true, not_or]
            exact ⟨fun hall => ⟨fun hmem => (hall tag hmem).1 rfl, fun t ht => (hall t ht).2⟩,
              fun hall t ht => ⟨fun he => hall.1 (he ▸ ht), hall.2 t ht⟩⟩
          rw [ih, hfree, List.nodup_cons, List.forall_mem_cons, and_iff_right h, List.map_cons,
            List.reverse_cons, List.append_assoc]
          constructor
          · rintro ⟨hrest, ⟨htag, htaken⟩, hl⟩
            exact ⟨⟨htag, hrest⟩, htaken, hl⟩
          · rintro ⟨⟨htag, hrest⟩, htaken, hl⟩
            exact ⟨hrest, ⟨htag, htaken⟩, hl⟩

/-- An operation takes its id when it repeats no tag and the id is free, under each of its tags or, if it
    has none, among the operations without tags. -/
theorem takeId_ok_iff {tags : List String} : l.takeId id tags = .ok l' ↔
    tags.Nodup ∧ (tags = [] → id ∉ l.untagged) ∧ (∀ tag ∈ tags, (tag, id) ∉ l.tagged) ∧
      l' = { l with
        untagged := if tags = [] then id :: l.untagged else l.untagged
        tagged := (tags.map (·, id)).reverse ++ l.tagged } := by
  cases tags with
  | nil =>
      rw [takeId, List.isEmpty_nil, if_pos rfl, takeUntagged_ok_iff]
      simp
  | cons tag rest =>
      rw [takeId, List.isEmpty_cons, if_neg Bool.false_ne_true, takeTagged_ok_iff]
      simp

theorem takeId_names {tags : List String} (h : l.takeId id tags = .ok l') : l'.names = l.names := by
  obtain ⟨-, -, -, rfl⟩ := takeId_ok_iff.1 h
  rfl

/-- A claim that succeeds leaves everything but the names as it is, and those that are taken as well. -/
theorem claim_ok {verify : Bool} (h : l.claim verify name assigned = .ok (l', events)) :
    l' = { l with names := Entries.putNew name assigned l.names } := by
  unfold claim at h
  unfold Entries.putNew Entries.has
  split at h
  · next hnone =>
      cases h
      rw [hnone]
      rfl
  · next earlier hsome =>
      rw [hsome]
      split at h
      · split at h
        · cases h
        · cases h
          rfl
      · cases h

end Ledger

namespace Operation

open Ledger

variable {l l' : Ledger} {op named : Operation} {done : List Operation} {events : List Event}
  {verify : Bool}

/-! ## One operation -/

theorem identify_of_some {name : String} (hname : op.assignedName? = some name) :
    op.identify verify l = .ok (l', events, named) ↔
      l.claim verify op.identityName true = .ok (l', events) ∧ named = op.underIdentity := by
  rw [identityName_of_some hname, underIdentity, identityName_of_some hname, identify, hname,
    bind_ok_iff]
  constructor
  · rintro ⟨claimed, hclaim, ⟨⟩⟩
    exact ⟨hclaim, rfl⟩
  · rintro ⟨hclaim, rfl⟩
    exact ⟨_, hclaim, rfl⟩

theorem identify_of_none (hname : op.assignedName? = none) :
    op.identify verify l = .ok (l', events, named) ↔
      ∃ taken, l.takeId op.operationId op.tags = .ok taken ∧
        taken.claim verify op.identityName false = .ok (l', events) ∧ named = op.underIdentity := by
  rw [identityName_of_none hname, underIdentity, identityName_of_none hname, identify, hname,
    bind_ok_iff]
  refine exists_congr fun taken => and_congr_right fun _ => ?_
  rw [bind_ok_iff]
  constructor
  · rintro ⟨claimed, hclaim, ⟨⟩⟩
    exact ⟨hclaim, rfl⟩
  · rintro ⟨hclaim, rfl⟩
    exact ⟨_, hclaim, rfl⟩

/-- An operation that gets an identity has it only because of what it is. -/
theorem identify_named (h : op.identify verify l = .ok (l', events, named)) :
    named = op.underIdentity := by
  cases hname : op.assignedName? with
  | none =>
      obtain ⟨-, -, -, hnamed⟩ := (identify_of_none hname).1 h
      exact hnamed
  | some name => exact ((identify_of_some hname).1 h).2

/-- The name that an operation has in the end is taken, unless another has it already. -/
theorem identify_names (h : op.identify verify l = .ok (l', events, named)) :
    l'.names = Entries.putNew op.identityName op.assignedName?.isSome l.names := by
  cases hname : op.assignedName? with
  | some name =>
      obtain ⟨hclaim, -⟩ := (identify_of_some hname).1 h
      rw [claim_ok hclaim]
      rfl
  | none =>
      obtain ⟨taken, htake, hclaim, -⟩ := (identify_of_none hname).1 h
      rw [claim_ok hclaim, takeId_names htake]
      rfl

/-- What an operation takes to get its identity is recorded. -/
theorem identify_records (hl : l.Records done)
    (h : op.identify verify l = .ok (l', events, named)) : l'.Records (done ++ [op]) := by
  have hnames : ∀ name, name ∈ Entries.keys l'.names ↔
      ∃ a ∈ done ++ [op], a.identityName = name := by
    intro name
    rw [identify_names h, Entries.mem_keys_putNew, hl.names name, exists_mem_concat_iff, or_comm,
      eq_comm]
  cases hname : op.assignedName? with
  | some name =>
      obtain ⟨hclaim, -⟩ := (identify_of_some hname).1 h
      obtain rfl := claim_ok hclaim
      refine ⟨fun id => ?_, fun tag id => ?_, hnames⟩
      · rw [exists_mem_concat_iff, ← hl.untagged id]
        simp [hname]
      · rw [exists_mem_concat_iff, ← hl.tagged tag id]
        simp [hname]
  | none =>
      obtain ⟨taken, htake, hclaim, -⟩ := (identify_of_none hname).1 h
      obtain ⟨-, -, -, rfl⟩ := takeId_ok_iff.1 htake
      obtain rfl := claim_ok hclaim
      refine ⟨fun id => ?_, fun tag id => ?_, hnames⟩
      · have huntagged := hl.untagged id
        rw [exists_mem_concat_iff, ← huntagged]
        by_cases hempty : op.tags = [] <;> simp [hempty, hname, eq_comm, or_comm]
      · rw [exists_mem_concat_iff, ← hl.tagged tag id]
        simp [hname, or_comm]

/-- An operation without an assigned name takes its id when it repeats no tag and none before it has
    the id, without tags or under one of its own. -/
theorem takeId_isOk_iff (hl : l.Records done) (hname : op.assignedName? = none) :
    (∃ taken, l.takeId op.operationId op.tags = .ok taken) ↔
      op.tags.Nodup ∧ (∀ a ∈ done, ¬ a.SharesUntaggedId op) ∧ ∀ a ∈ done, ¬ a.SharesTaggedId op := by
  have huntagged : (op.tags = [] → op.operationId ∉ l.untagged) ↔
      ∀ a ∈ done, ¬ a.SharesUntaggedId op := by
    constructor
    · rintro h a ha ⟨haname, -, hid, hatags, htags⟩
      exact h htags ((hl.untagged _).2 ⟨a, ha, haname, hatags, hid⟩)
    · intro h htags hmem
      obtain ⟨a, ha, haname, hatags, hid⟩ := (hl.untagged _).1 hmem
      exact h a ha ⟨haname, hname, hid, hatags, htags⟩
  have htagged : (∀ tag ∈ op.tags, (tag, op.operationId) ∉ l.tagged) ↔
      ∀ a ∈ done, ¬ a.SharesTaggedId op := by
    constructor
    · rintro h a ha ⟨haname, -, hid, tag, hatag, htag⟩
      exact h tag htag ((hl.tagged _ _).2 ⟨a, ha, haname, hatag, hid⟩)
    · intro h tag htag hmem
      obtain ⟨a, ha, haname, hatag, hid⟩ := (hl.tagged _ _).1 hmem
      exact h a ha ⟨haname, hname, hid, tag, hatag, htag⟩
  simp only [takeId_ok_iff, huntagged, htagged, exists_and_left, exists_eq, and_true]

/-- While assigned names are checked, an operation gets its identity when it repeats no tag, unless its
    name is assigned, and is compatible with those before it. -/
theorem identify_checked_isOk_iff (hl : l.Records done) :
    (∃ l' events, op.identify true l = .ok (l', events, op.underIdentity)) ↔
      (op.assignedName? = none → op.tags.Nodup) ∧ ∀ a ∈ done, a.Compatible op := by
  have hfree : op.identityName ∉ Entries.keys l.names ↔
      ∀ a ∈ done, a.identityName ≠ op.identityName := by
    rw [hl.names]
    push Not
    rfl
  cases hname : op.assignedName? with
  | some name =>
      constructor
      · rintro ⟨l', events, h⟩
        obtain ⟨hclaim, -⟩ := (identify_of_some hname).1 h
        have hnames := hfree.1 (claim_true_ok_iff.1 hclaim).1
        refine ⟨nofun, fun a ha => ⟨fun hshares => ?_, hnames a ha⟩⟩
        rw [hshares.2.1] at hname
        cases hname
      · rintro ⟨-, h⟩
        have hnames := hfree.2 fun a ha => (h a ha).named
        exact ⟨_, _, (identify_of_some hname).2 ⟨claim_true_ok_iff.2 ⟨hnames, rfl, rfl⟩, rfl⟩⟩
  | none =>
      constructor
      · rintro ⟨l', events, h⟩
        obtain ⟨taken, htake, hclaim, -⟩ := (identify_of_none hname).1 h
        obtain ⟨htags, -, htagged⟩ := (takeId_isOk_iff hl hname).1 ⟨taken, htake⟩
        have hnames := (claim_true_ok_iff.1 hclaim).1
        rw [takeId_names htake] at hnames
        exact ⟨fun _ => htags, fun a ha => ⟨htagged a ha, hfree.1 hnames a ha⟩⟩
      · rintro ⟨htags, h⟩
        obtain ⟨taken, htake⟩ := (takeId_isOk_iff hl hname).2
          ⟨htags rfl, fun a ha hshares => (h a ha).named hshares.identityName_eq,
            fun a ha => (h a ha).tagged⟩
        have hnames := hfree.2 fun a ha => (h a ha).named
        rw [← takeId_names htake] at hnames
        exact ⟨_, _, (identify_of_none hname).2
          ⟨taken, htake, claim_true_ok_iff.2 ⟨hnames, rfl, rfl⟩, rfl⟩⟩

/-! ## All operations -/

variable {ops ops' : List Operation}

/-- A list gets its identities head first. -/
theorem identifyFrom_cons_ok_iff : (identifyFrom verify l (op :: ops)).value = .ok ops' ↔
    ∃ l' events named rest, op.identify verify l = .ok (l', events, named) ∧
      (identifyFrom verify l' ops).value = .ok rest ∧ ops' = named :: rest := by
  rw [identifyFrom]
  cases hid : op.identify verify l with
  | error e =>
      refine ⟨(nomatch ·), ?_⟩
      rintro ⟨l', events, named, rest, ⟨⟩, -, -⟩
  | ok answer =>
      obtain ⟨l', events, named⟩ := answer
      cases hrest : (identifyFrom verify l' ops).value with
      | error e =>
          refine ⟨fun h => ?_, ?_⟩
          · simp [hrest, Except.map] at h
          · rintro ⟨_, _, _, rest, ⟨⟩, hr, -⟩
            rw [hrest] at hr
            cases hr
      | ok rest =>
          refine ⟨fun h => ⟨l', events, named, rest, rfl, hrest, ?_⟩, ?_⟩
          · simp only [hrest, Except.map, Except.ok.injEq] at h
            exact h.symm
          · rintro ⟨_, _, _, rest', ⟨⟩, hr, rfl⟩
            rw [hrest] at hr
            cases hr
            simp only [hrest, Except.map]

/-- Operations that get identities have them only because of what they are. -/
theorem identifyFrom_named (h : (identifyFrom verify l ops).value = .ok ops') :
    ops' = ops.map underIdentity := by
  induction ops generalizing l ops' with
  | nil =>
      cases h
      rfl
  | cons op rest ih =>
      obtain ⟨l', events, named, rest', hid, hrest, rfl⟩ := identifyFrom_cons_ok_iff.1 h
      rw [List.map_cons, ← identify_named hid, ← ih hrest]

/-- When an invariant of the ledger decides whether the next operation gets its identity, and each that
    does keeps it, the operations of a list get theirs when each is admitted after those before it. -/
theorem identifyFrom_isOk_iff {I : Ledger → List Operation → Prop}
    {A : List Operation → Operation → Prop}
    (hstep : ∀ {l : Ledger} {done : List Operation} {op : Operation}, I l done →
      ((∃ l' events, op.identify verify l = .ok (l', events, op.underIdentity)) ↔ A done op))
    (hkeep : ∀ {l l' : Ledger} {done : List Operation} {op named : Operation} {events : List Event},
      I l done → op.identify verify l = .ok (l', events, named) → I l' (done ++ [op]))
    (hl : I l done) :
    (∃ ops', (identifyFrom verify l ops).value = .ok ops') ↔
      ∀ before op after, ops = before ++ op :: after → A (done ++ before) op := by
  induction ops generalizing l done with
  | nil =>
      refine iff_of_true ⟨[], rfl⟩ fun before op after heq => ?_
      cases before <;> cases heq
  | cons op rest ih =>
      constructor
      · rintro ⟨ops', h⟩
        obtain ⟨l', events, named, rest', hid, hvalue, -⟩ := identifyFrom_cons_ok_iff.1 h
        obtain rfl := identify_named hid
        intro before x after heq
        cases before with
        | nil =>
            cases heq
            rw [List.append_nil]
            exact (hstep hl).1 ⟨l', events, hid⟩
        | cons y before =>
            cases heq
            have hx := (ih (hkeep hl hid)).1 ⟨rest', hvalue⟩ before x after rfl
            rwa [List.append_assoc] at hx
      · intro h
        have hop := h [] op rest rfl
        rw [List.append_nil] at hop
        obtain ⟨l', events, hid⟩ := (hstep hl).2 hop
        obtain ⟨rest', hvalue⟩ := (ih (hkeep hl hid)).2 fun before x after heq => by
          rw [List.append_assoc]
          exact h (op :: before) x after (by rw [heq]; rfl)
        exact ⟨_, identifyFrom_cons_ok_iff.2 ⟨l', events, _, rest', hid, hvalue, rfl⟩⟩

/-- The operations of a list get their identities exactly when no two of them share an id under a tag
    and no two end with the same name. -/
theorem identifyAll_isOk_iff (htags : ∀ op ∈ ops, op.tags.Nodup) :
    (∃ ops', (identifyAll true ops).value = .ok ops') ↔
      (ops.Pairwise fun a b => ¬ a.SharesTaggedId b) ∧ (ops.map identityName).Nodup := by
  have hcompatible : (∃ ops', (identifyAll true ops).value = .ok ops') ↔
      ops.Pairwise Compatible := by
    rw [identifyAll, identifyFrom_isOk_iff (I := Records) identify_checked_isOk_iff identify_records
      Records.empty, pairwise_iff_forall_before]
    constructor
    · intro h before op after heq
      exact (h before op after heq).2
    · rintro h before op after rfl
      exact ⟨fun _ => htags op (by simp), h before op after rfl⟩
  rw [hcompatible, List.Nodup, List.pairwise_map, ← List.pairwise_and_iff]
  exact ⟨fun h => h.imp fun hab => ⟨hab.tagged, hab.named⟩,
    fun h => h.imp fun hab => ⟨hab.1, hab.2⟩⟩

end Operation

end OpenApi
