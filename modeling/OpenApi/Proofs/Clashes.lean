import OpenApi.Proofs.Identities

set_option autoImplicit false

/-! # Clashes that are let pass

While the check of assigned names is off, operations may end with one unique name. Of those that claim
a name a `Ledger` keeps only whether the first had it assigned, and it judges every later claim by
that. `Remembers` says so, and `AdmittedAfter` what the next operation then needs: one without an
assigned name gets its name if it is free or if the first of that name had it assigned, whoever else
has it by then. `identifyAll_unverified` puts this together for a whole list. -/

namespace OpenApi

namespace Operation

/-- The first of some operations that ends with `name`. -/
def firstNamed? (ops : List Operation) (name : String) : Option Operation :=
  ops.find? (·.identityName = name)

/-- What an operation needs to get its identity after others, while assigned names are not checked. -/
structure AdmittedAfter (op : Operation) (done : List Operation) : Prop where
  tags : op.assignedName? = none → op.tags.Nodup
  untagged : ∀ a ∈ done, ¬ a.SharesUntaggedId op
  tagged : ∀ a ∈ done, ¬ a.SharesTaggedId op
  named : op.assignedName? = none →
    ∀ first, firstNamed? done op.identityName = some first → first.assignedName?.isSome

theorem firstNamed?_append (ops later : List Operation) (name : String) :
    firstNamed? (ops ++ later) name = (firstNamed? ops name).or (firstNamed? later name) :=
  List.find?_append

theorem firstNamed?_cons (op : Operation) (ops : List Operation) (name : String) :
    firstNamed? (op :: ops) name =
      if op.identityName = name then some op else firstNamed? ops name := by
  rw [firstNamed?, List.find?_cons]
  by_cases h : op.identityName = name <;> simp [h, firstNamed?]

theorem firstNamed?_eq_some {ops : List Operation} {op : Operation} {name : String}
    (h : firstNamed? ops name = some op) : op ∈ ops ∧ op.identityName = name :=
  ⟨List.mem_of_find?_eq_some h, by simpa using List.find?_some h⟩

end Operation

/-! ## What a ledger remembers -/

namespace Ledger

open Operation

/-- A ledger has recorded what some operations took, and of each name whether the first of them
    had it assigned. -/
structure Remembers (l : Ledger) (done : List Operation) : Prop extends l.Records done where
  first : ∀ name, l.names.get? name = (firstNamed? done name).map (·.assignedName?.isSome)

theorem Remembers.empty : Remembers {} [] := ⟨Records.empty, fun _ => rfl⟩

variable {l l' : Ledger} {name : String} {assigned verify : Bool} {events : List Event}
  {done : List Operation} {op named : Operation}

/-- An operation that gets an identity is remembered after those before. -/
theorem Remembers.identified (hl : l.Remembers done)
    (h : op.identify verify l = .ok (l', events, named)) : l'.Remembers (done ++ [op]) := by
  refine ⟨identify_records hl.toRecords h, fun name => ?_⟩
  rw [identify_names h, Entries.get?_putNew, hl.first, firstNamed?_append, firstNamed?_cons]
  by_cases heq : op.identityName = name
  · subst heq
    rw [if_pos rfl, if_pos rfl]
    cases firstNamed? done op.identityName <;> rfl
  · rw [if_neg heq, if_neg (Ne.symm heq)]
    cases firstNamed? done name <;> rfl

/-- While assigned names are not checked, a name is claimed by whom it is assigned to, or when it is
    free, or when the first to claim it had it assigned. -/
theorem claim_false_isOk_iff :
    (∃ l' events, l.claim false name assigned = .ok (l', events)) ↔
      (assigned = false → ∀ earlier, l.names.get? name = some earlier → earlier = true) := by
  unfold claim
  split
  · next hnone => simp [hnone]
  · next earlier hsome =>
      rw [hsome]
      cases earlier <;> cases assigned <;> simp

/-- What the first to claim a name said is what the first of that name has. -/
theorem Remembers.first_assigned_iff (hl : l.Remembers done) :
    (∀ earlier, l.names.get? name = some earlier → earlier = true) ↔
      ∀ first, firstNamed? done name = some first → first.assignedName?.isSome := by
  rw [hl.first]
  constructor
  · intro h first hfirst
    exact h _ (Option.map_eq_some_iff.2 ⟨first, hfirst, rfl⟩)
  · intro h earlier hearlier
    obtain ⟨first, hfirst, rfl⟩ := Option.map_eq_some_iff.1 hearlier
    exact h first hfirst

/-- A name is not claimed when neither the first to claim it had it assigned nor the next has. -/
theorem claim_of_unassigned (h : l.names.get? name = some false) :
    l.claim verify name false = .error (.duplicateOperation name) := by
  rw [claim, h]
  rfl

end Ledger

namespace Operation

open Ledger

variable {l l' : Ledger} {op a b named : Operation} {events : List Event} {verify : Bool}
  {done before between : List Operation}

/-! ## One operation -/

/-- An operation with an assigned name is always admitted. -/
theorem admittedAfter_of_some {name : String} (hname : op.assignedName? = some name) :
    op.AdmittedAfter done := by
  have hassigned : op.assignedName? ≠ none := by
    rw [hname]
    exact nofun
  exact ⟨fun h => absurd h hassigned, fun a _ hshares => hassigned hshares.2.1,
    fun a _ hshares => hassigned hshares.2.1, fun h => absurd h hassigned⟩

/-- While assigned names are not checked, an operation gets its identity when it is admitted after those
    before it. -/
theorem identify_unchecked_isOk_iff (hl : l.Remembers done) :
    (∃ l' events, op.identify false l = .ok (l', events, op.underIdentity)) ↔
      op.AdmittedAfter done := by
  cases hname : op.assignedName? with
  | some name =>
      refine iff_of_true ?_ (admittedAfter_of_some hname)
      obtain ⟨l', events, hclaim⟩ :
          ∃ l' events, l.claim false op.identityName true = .ok (l', events) :=
        claim_false_isOk_iff.2 nofun
      exact ⟨l', events, (identify_of_some hname).2 ⟨hclaim, rfl⟩⟩
  | none =>
      constructor
      · rintro ⟨l', events, h⟩
        obtain ⟨taken, htake, hclaim, -⟩ := (identify_of_none hname).1 h
        obtain ⟨htags, huntagged, htagged⟩ :=
          (takeId_isOk_iff hl.toRecords hname).1 ⟨taken, htake⟩
        have hearlier := claim_false_isOk_iff.1 ⟨l', events, hclaim⟩ rfl
        rw [takeId_names htake] at hearlier
        exact ⟨fun _ => htags, huntagged, htagged, fun _ => hl.first_assigned_iff.1 hearlier⟩
      · intro h
        obtain ⟨taken, htake⟩ :=
          (takeId_isOk_iff hl.toRecords hname).2 ⟨h.tags hname, h.untagged, h.tagged⟩
        have hearlier := hl.first_assigned_iff.2 (h.named hname)
        rw [← takeId_names htake] at hearlier
        obtain ⟨l', events, hclaim⟩ := claim_false_isOk_iff.2 fun _ => hearlier
        exact ⟨l', events, (identify_of_none hname).2 ⟨taken, htake, hclaim, rfl⟩⟩

/-- When the first of its name has none assigned, an operation without an assigned name clashes. -/
theorem identify_of_unassigned (hl : l.Remembers done) (hname : op.assignedName? = none)
    (htags : op.tags.Nodup) (htagged : ∀ a ∈ done, ¬ a.SharesTaggedId op)
    (hfirst : firstNamed? done op.identityName = some a) (ha : a.assignedName? = none) :
    op.identify verify l = .error (.duplicateOperation op.ownName) := by
  by_cases hshares : ∃ a ∈ done, a.SharesUntaggedId op
  · -- the id is refused before the name is claimed
    obtain ⟨a, ha, haname, -, hid, hatags, hempty⟩ := hshares
    have htake : l.takeId op.operationId op.tags = .error (.duplicateOperation op.operationId) := by
      rw [hempty, takeId, List.isEmpty_nil, if_pos rfl, takeUntagged,
        if_pos ((hl.untagged _).2 ⟨a, ha, haname, hatags, hid⟩)]
    rw [identify, hname, ownName_of_untagged hempty]
    simp only [htake]
    rfl
  · push Not at hshares
    obtain ⟨taken, htake⟩ := (takeId_isOk_iff hl.toRecords hname).2 ⟨htags, hshares, htagged⟩
    have hnames : taken.names.get? op.ownName = some false := by
      rw [takeId_names htake, hl.first, ← identityName_of_none hname, hfirst, Option.map_some, ha]
      rfl
    rw [identify, hname]
    simp only [htake, bind, Except.bind, claim_of_unassigned hnames]

/-- Two operations without assigned names end with one name only after one that had it assigned. -/
theorem AdmittedAfter.exists_assigned (h : b.AdmittedAfter (before ++ a :: between))
    (ha : a.assignedName? = none) (hb : b.assignedName? = none)
    (heq : a.identityName = b.identityName) :
    ∃ o ∈ before, o.assignedName?.isSome ∧ o.identityName = a.identityName := by
  have hnamed := h.named hb
  rw [firstNamed?_append, firstNamed?_cons, if_pos heq] at hnamed
  cases hfirst : firstNamed? before b.identityName with
  | none =>
      have hassigned := hnamed a (by rw [hfirst, Option.none_or])
      rw [ha] at hassigned
      cases hassigned
  | some o =>
      obtain ⟨hmem, hname⟩ := firstNamed?_eq_some hfirst
      exact ⟨o, hmem, hnamed o (by rw [hfirst, Option.some_or]), hname.trans heq.symm⟩

/-! ## All operations -/

variable {ops ops' : List Operation}

/-- Once the first operations have their identities, an error of the next is that of the list. -/
theorem identifyFrom_append_error {e : BuildError} (hl : l.Remembers done)
    (hbefore : (identifyFrom verify l before).value = .ok ops')
    (he : ∀ l', l'.Remembers (done ++ before) → op.identify verify l' = .error e)
    (after : List Operation) :
    (identifyFrom verify l (before ++ op :: after)).value = .error e := by
  induction before generalizing l done ops' with
  | nil =>
      rw [List.append_nil] at he
      rw [List.nil_append, identifyFrom, he l hl]
      rfl
  | cons x before ih =>
      obtain ⟨l', events, named, rest, hid, hvalue, -⟩ := identifyFrom_cons_ok_iff.1 hbefore
      have hrest := ih (hl.identified hid) hvalue fun l' hl' => he l' (by
        rwa [List.append_assoc] at hl')
      rw [List.cons_append, identifyFrom, hid]
      simp only [hrest, Except.map]

/-- While assigned names are not checked, the operations of a list get their identities exactly when each
    is admitted after those before it. Two without assigned names then end with one unique name only
    after an operation that had it assigned; and one clashes whenever the first of its name had none
    assigned, wherever in the list both stand. -/
theorem identifyAll_unverified (ops : List Operation) :
    ((∃ ops', (identifyAll false ops).value = .ok ops') ↔
      ∀ before op after, ops = before ++ op :: after → op.AdmittedAfter before) ∧
    (∀ ops', (identifyAll false ops).value = .ok ops' →
      ∀ before a between b after, ops' = before ++ a :: (between ++ b :: after) →
        a.assignedName? = none → b.assignedName? = none → a.uniqueName = b.uniqueName →
        ∃ o ∈ before, o.assignedName?.isSome ∧ o.uniqueName = a.uniqueName) ∧
    ∀ before b after, ops = before ++ b :: after →
      (∃ done, (identifyAll false before).value = .ok done) →
      b.assignedName? = none → b.tags.Nodup → (∀ a ∈ before, ¬ a.SharesTaggedId b) →
      ∀ a, firstNamed? before b.identityName = some a → a.assignedName? = none →
        (identifyAll false ops).value = .error (.duplicateOperation b.ownName) := by
  have hiff : (∃ ops', (identifyAll false ops).value = .ok ops') ↔
      ∀ before op after, ops = before ++ op :: after → op.AdmittedAfter before :=
    identifyFrom_isOk_iff (I := Remembers) identify_unchecked_isOk_iff Remembers.identified
      Remembers.empty
  refine ⟨hiff, ?_, ?_⟩
  · intro ops' h before a between b after heq ha hb hname
    have hadmitted := hiff.1 ⟨ops', h⟩
    rw [identifyFrom_named h] at heq
    obtain ⟨before, fromA, rfl, rfl, hfromA⟩ := List.map_eq_append_iff.1 heq
    obtain ⟨a, afterA, rfl, rfl, hafterA⟩ := List.map_eq_cons_iff.1 hfromA
    obtain ⟨between, fromB, rfl, rfl, hfromB⟩ := List.map_eq_append_iff.1 hafterA
    obtain ⟨b, after, rfl, rfl, rfl⟩ := List.map_eq_cons_iff.1 hfromB
    have hb' : b.AdmittedAfter (before ++ a :: between) :=
      hadmitted (before ++ a :: between) b after (by simp)
    obtain ⟨o, ho, hassigned, honame⟩ := hb'.exists_assigned ha hb hname
    exact ⟨o.underIdentity, List.mem_map_of_mem ho, hassigned, honame⟩
  · rintro before b after rfl ⟨done, hdone⟩ hb htags htagged a hfirst ha
    exact identifyFrom_append_error Remembers.empty hdone
      (fun l' hl' => identify_of_unassigned hl' hb htags htagged hfirst ha) after

/-! ## Three operations of one name -/

/-- An operation that lists something. -/
def listing (operationId : String) (tags : List String) (extensions : Entries Json) : Operation where
  path := "/"
  method := .get
  operationId := operationId
  name := default
  uniqueName := ""
  tags := tags
  vendorExtensions := extensions

/-- Its name is assigned. -/
def assignedListing : Operation := listing "all" [] [(assignedNameKey, .string "users.list")]

/-- Its name is its id. -/
def plainListing : Operation := listing "users.list" [] []

/-- Its name is its id after its tag. -/
def taggedListing : Operation := listing "list" ["users"] []

/-- Operations that all end with the name `users.list`. -/
def listings : List Operation := [assignedListing, plainListing, taggedListing]

theorem exists_identifyAll_listings : ∃ ops', (identifyAll false listings).value = .ok ops' := by
  obtain ⟨ops', h, -⟩ := exists_ok_of_map (f := fun _ => ())
    (show (identifyAll false listings).value.toOption.map (fun _ => ()) = some () by decide +kernel)
  exact ⟨ops', h⟩

/-- The second and the third end with one unique name and have none assigned. -/
theorem identifyAll_listings :
    ∃ ops', (identifyAll false listings).value = .ok ops' ∧
      ops'.map (·.assignedName?) = [some "users.list", none, none] ∧
      ops'.map (·.uniqueName) = ["users.list", "users.list", "users.list"] := by
  obtain ⟨ops', h⟩ := exists_identifyAll_listings
  obtain rfl := identifyFrom_named h
  exact ⟨_, h, by decide +kernel, by decide +kernel⟩

/-- After the one that has it assigned, two others end with the name; on their own they clash. -/
theorem identifyAll_unverified_listings :
    (∃ o ∈ [assignedListing.underIdentity],
      o.assignedName?.isSome ∧ o.uniqueName = plainListing.underIdentity.uniqueName) ∧
    (identifyAll false [plainListing, taggedListing]).value =
      .error (.duplicateOperation "users.list") := by
  refine ⟨?_, ?_⟩
  · obtain ⟨ops', h⟩ := exists_identifyAll_listings
    obtain rfl := identifyFrom_named h
    exact (identifyAll_unverified listings).2.1 _ h [assignedListing.underIdentity]
      plainListing.underIdentity [] taggedListing.underIdentity [] rfl rfl rfl rfl
  · exact (identifyAll_unverified [plainListing, taggedListing]).2.2 [plainListing] taggedListing []
      rfl ⟨_, rfl⟩ rfl (by decide) (by decide) plainListing rfl rfl

end Operation

end OpenApi
