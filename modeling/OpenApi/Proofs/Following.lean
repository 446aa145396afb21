import Mathlib.Data.List.TakeWhile
import OpenApi.Proofs.Chains
import OpenApi.Proofs.Results

set_option autoImplicit false

/-! # How a chain of references ends

`Reference.Hops` is the chain that starts at a path: each hop goes to the entry that the path names, and
on to the path that this entry refers to. `Reference.Ends` says how such a chain can end: at a
definition, at a path that names no entry, at a path that names nothing at all, or at the first
path that is met twice. A chain ends in one way only (`Ends.unique`), and `follow` answers with it
(`follow_eq_iff`), so that the answer is the same for everything that follows references. -/

namespace OpenApi

namespace Reference

/-! ## Reading a path -/

/-- The path of a name in a section. -/
def IsPath (expected path name : String) : Prop :=
  path = "#/components/" ++ expected ++ "/" ++ name ∧ name ≠ "" ∧ '/' ∉ name.toList

/-- What is wrong with a path that names nothing in a section. -/
inductive Misread (expected path : String) : ResolveError → Prop
  | malformed : (∀ found rest, path ≠ "#/components/" ++ found ++ "/" ++ rest) →
      Misread expected path (.malformed path)
  | wrongSection {found rest : String} : path = "#/components/" ++ found ++ "/" ++ rest →
      '/' ∉ found.toList → ¬ IsPath expected path rest →
      Misread expected path (.wrongSection expected found path)

variable {expected path name : String}

theorem stripPrefix?_eq_some_iff {ps cs rest : List Char} :
    stripPrefix? ps cs = some rest ↔ cs = ps ++ rest := by
  induction ps generalizing cs with
  | nil => simp [stripPrefix?]
  | cons p ps ih =>
      cases cs with
      | nil => simp [stripPrefix?]
      | cons c cs =>
          rw [stripPrefix?]
          by_cases h : p = c
          · simp [h, ih]
          · simp [h, Ne.symm h]

theorem toList_split (found rest : String) :
    ("#/components/" ++ found ++ "/" ++ rest).toList =
      root ++ (found.toList ++ '/' :: rest.toList) := by
  have hslash : "/".toList = ['/'] := by decide
  unfold root
  simp only [String.toList_append, hslash, List.append_assoc, List.singleton_append]

/-- A path is taken apart at the first slash behind what all paths start with. -/
theorem name?_of_split {found rest : String} (hpath : path = "#/components/" ++ found ++ "/" ++ rest)
    (hfound : '/' ∉ found.toList) :
    name? expected path =
      if found = expected ∧ rest ≠ "" ∧ '/' ∉ rest.toList then .ok rest
      else .error (.wrongSection expected found path) := by
  have hstrip : stripPrefix? root path.toList = some (found.toList ++ '/' :: rest.toList) := by
    rw [stripPrefix?_eq_some_iff, hpath, toList_split]
  have hbefore : ∀ c ∈ found.toList, decide (c ≠ '/') = true := by
    intro c hc
    exact decide_eq_true fun heq => hfound (heq ▸ hc)
  have htake : (found.toList ++ '/' :: rest.toList).takeWhile (· ≠ '/') = found.toList := by
    rw [List.takeWhile_append_of_pos hbefore, List.takeWhile_cons_of_neg (by simp), List.append_nil]
  have hdrop : (found.toList ++ '/' :: rest.toList).dropWhile (· ≠ '/') = '/' :: rest.toList := by
    rw [List.dropWhile_append_of_pos hbefore, List.dropWhile_cons_of_neg (by simp)]
  have hempty : rest.toList ≠ [] ↔ rest ≠ "" := by
    rw [ne_eq, String.toList_eq_nil_iff]
  simp only [name?, hstrip, htake, hdrop, String.toList_inj, String.ofList_toList, hempty]

theorem name?_of_unsplit (h : ∀ found rest, path ≠ "#/components/" ++ found ++ "/" ++ rest) :
    name? expected path = .error (.malformed path) := by
  cases hstrip : stripPrefix? root path.toList with
  | none => simp only [name?, hstrip]
  | some cs =>
      have hslash : '/' ∉ cs := by
        intro hmem
        obtain ⟨front, rest, rfl⟩ := List.append_of_mem hmem
        refine h (String.ofList front) (String.ofList rest) ?_
        rw [← String.toList_inj, toList_split, String.toList_ofList, String.toList_ofList]
        exact stripPrefix?_eq_some_iff.1 hstrip
      have hdrop : cs.dropWhile (· ≠ '/') = [] := by
        rw [List.dropWhile_eq_nil_iff]
        intro c hc
        exact decide_eq_true fun heq => hslash (heq ▸ hc)
      simp only [name?, hstrip, hdrop]

/-- A path that can be split can be split at a first slash. -/
theorem exists_split {found rest : String} (h : path = "#/components/" ++ found ++ "/" ++ rest) :
    ∃ found rest, path = "#/components/" ++ found ++ "/" ++ rest ∧ '/' ∉ found.toList := by
  have hmem : '/' ∈ found.toList ++ '/' :: rest.toList := by simp
  obtain ⟨front, back, hsplit, hfront⟩ := List.eq_append_cons_of_mem hmem
  refine ⟨String.ofList front, String.ofList back, ?_, by rwa [String.toList_ofList]⟩
  rw [← String.toList_inj, h, toList_split, toList_split, hsplit, String.toList_ofList,
    String.toList_ofList]

/-- The name that is read off a path. -/
theorem name?_eq_ok_iff (hexpected : '/' ∉ expected.toList) :
    name? expected path = .ok name ↔ IsPath expected path name := by
  constructor
  · intro h
    by_cases hsplit : ∃ found rest, path = "#/components/" ++ found ++ "/" ++ rest
    · obtain ⟨_, _, hpath⟩ := hsplit
      obtain ⟨found, rest, hpath, hfound⟩ := exists_split hpath
      rw [name?_of_split hpath hfound] at h
      split at h
      · next hname =>
          cases h
          exact ⟨hname.1 ▸ hpath, hname.2⟩
      · cases h
    · rw [name?_of_unsplit fun found rest hpath => hsplit ⟨found, rest, hpath⟩] at h
      cases h
  · rintro ⟨hpath, hname⟩
    rw [name?_of_split hpath hexpected, if_pos ⟨rfl, hname⟩]

/-- The error that is met where no name is read off a path. -/
theorem name?_eq_error_iff (hexpected : '/' ∉ expected.toList) {e : ResolveError} :
    name? expected path = .error e ↔ Misread expected path e := by
  constructor
  · intro h
    by_cases hsplit : ∃ found rest, path = "#/components/" ++ found ++ "/" ++ rest
    · obtain ⟨_, _, hpath⟩ := hsplit
      obtain ⟨found, rest, hpath, hfound⟩ := exists_split hpath
      have hread := h
      rw [name?_of_split hpath hfound] at h
      split at h
      · cases h
      · cases h
        refine .wrongSection hpath hfound fun hname => ?_
        rw [(name?_eq_ok_iff hexpected).2 hname] at hread
        cases hread
    · have hunsplit : ∀ found rest, path ≠ "#/components/" ++ found ++ "/" ++ rest :=
        fun found rest hpath => hsplit ⟨found, rest, hpath⟩
      rw [name?_of_unsplit hunsplit] at h
      cases h
      exact .malformed hunsplit
  · intro h
    cases h with
    | malformed hunsplit => exact name?_of_unsplit hunsplit
    | wrongSection hpath hfound hname =>
        rw [name?_of_split hpath hfound, if_neg]
        rintro ⟨rfl, hrest⟩
        exact hname ⟨hpath, hrest⟩

theorem IsPath.unique {name' : String} (h : IsPath expected path name)
    (h' : IsPath expected path name') : name = name' := by
  have heq := h.1.symm.trans h'.1
  exact String.append_right_inj _ |>.1 heq

/-- A path that is misread is the path of no name. -/
theorem Misread.not_isPath {e : ResolveError} (hexpected : '/' ∉ expected.toList)
    (h : Misread expected path e) (name : String) : ¬ IsPath expected path name := by
  intro hname
  have hread := (name?_eq_ok_iff hexpected).2 hname
  rw [(name?_eq_error_iff hexpected).2 h] at hread
  cases hread

/-! ## Chains -/

section Chain

variable {α β : Type} (expected : String) (view : β → String ⊕ α) (entries : Entries β)

/-- After a number of hops the chain from `path` is at another path. -/
inductive Hops (path : String) : Nat → String → Prop
  | start : Hops path 0 path
  | hop {k : Nat} {last next name : String} {entry : β} : Hops path k last →
      IsPath expected last name → entries.get? name = some entry → view entry = .inl next →
      Hops path (k + 1) next

/-- The chain goes no further than this path. -/
inductive Stops (last : String) : Except ResolveError (String × α) → Prop
  | definition {name : String} {entry : β} {a : α} : IsPath expected last name →
      entries.get? name = some entry → view entry = .inr a → Stops last (.ok (name, a))
  | notFound {name : String} : IsPath expected last name → entries.get? name = none →
      Stops last (.error (.notFound last))
  | misread {e : ResolveError} : Misread expected last e → Stops last (.error e)

/-- How the chain from `path` ends: where it goes no further, or at the first path that it comes
    back to. -/
inductive Ends (path : String) : Except ResolveError (String × α) → Prop
  | stops {k : Nat} {last : String} {result : Except ResolveError (String × α)} :
      Hops expected view entries path k last → Stops expected view entries last result →
      Ends path result
  | circular {i j : Nat} {last : String} : i < j → Hops expected view entries path i last →
      Hops expected view entries path j last →
      (∀ m n p, m < n → n < j → Hops expected view entries path m p →
        ¬ Hops expected view entries path n p) →
      Ends path (.error (.circular last))

variable {expected view entries} {path last : String} {result : Except ResolveError (String × α)}

/-- Where the chain is after a number of hops is determined. -/
theorem Hops.unique {k : Nat} {last' : String} (h : Hops expected view entries path k last)
    (h' : Hops expected view entries path k last') : last = last' := by
  induction h generalizing last' with
  | start =>
      cases h' with
      | start => rfl
  | hop _ hname hentry hview ih =>
      cases h' with
      | hop hrest hname' hentry' hview' =>
          cases ih hrest
          cases hname.unique hname'
          rw [hentry] at hentry'
          cases hentry'
          rw [hview] at hview'
          cases hview'
          rfl

/-- The chain was somewhere at each hop before. -/
theorem Hops.before {k m : Nat} (h : Hops expected view entries path k last) (hm : m ≤ k) :
    ∃ p, Hops expected view entries path m p := by
  induction h with
  | start =>
      obtain rfl : m = 0 := Nat.le_zero.1 hm
      exact ⟨path, .start⟩
  | @hop k _ _ _ _ hrest hname hentry hview ih =>
      by_cases hk : m = k + 1
      · subst hk
        exact ⟨_, .hop hrest hname hentry hview⟩
      · exact ih (by omega)

/-- From the same path on the chain is the same. -/
theorem Hops.again {i j k : Nat} {p : String} (hi : Hops expected view entries path i p)
    (hj : Hops expected view entries path j p) {n : Nat} (hn : n = i + k)
    (h : Hops expected view entries path n last) : Hops expected view entries path (j + k) last := by
  induction h generalizing k with
  | start =>
      obtain ⟨rfl, rfl⟩ : i = 0 ∧ k = 0 := by omega
      cases hi
      exact hj
  | @hop n _ _ _ _ hrest hname hentry hview ih =>
      cases k with
      | zero =>
          cases hn
          cases hi.unique (.hop hrest hname hentry hview)
          exact hj
      | succ k => exact .hop (ih (by omega)) hname hentry hview

/-! ## The end is determined -/

section Ending

variable (hexpected : '/' ∉ expected.toList)
include hexpected

theorem Stops.unique {result' : Except ResolveError (String × α)}
    (h : Stops expected view entries last result) (h' : Stops expected view entries last result') :
    result = result' := by
  cases h with
  | definition hname hentry hview =>
      cases h' with
      | definition hname' hentry' hview' =>
          cases hname.unique hname'
          rw [hentry] at hentry'
          cases hentry'
          rw [hview] at hview'
          cases hview'
          rfl
      | notFound hname' hnone =>
          cases hname.unique hname'
          rw [hentry] at hnone
          cases hnone
      | misread he => exact absurd hname (he.not_isPath hexpected _)
  | notFound hname hnone =>
      cases h' with
      | definition hname' hentry' =>
          cases hname.unique hname'
          rw [hnone] at hentry'
          cases hentry'
      | notFound => rfl
      | misread he => exact absurd hname (he.not_isPath hexpected _)
  | misread he =>
      cases h' with
      | definition hname' => exact absurd hname' (he.not_isPath hexpected _)
      | notFound hname' => exact absurd hname' (he.not_isPath hexpected _)
      | misread he' =>
          have hread := (name?_eq_error_iff hexpected).2 he
          rw [(name?_eq_error_iff hexpected).2 he'] at hread
          cases hread
          rfl

theorem Stops.no_hop {k : Nat} {p : String} (h : Stops expected view entries last result)
    (hlast : Hops expected view entries path k last) : ¬ Hops expected view entries path (k + 1) p := by
  intro hp
  cases hp with
  | hop hrest hname hentry hview =>
      cases hlast.unique hrest
      cases h with
      | definition hname' hentry' hview' =>
          cases hname.unique hname'
          rw [hentry] at hentry'
          cases hentry'
          rw [hview] at hview'
          cases hview'
      | notFound hname' hnone =>
          cases hname.unique hname'
          rw [hentry] at hnone
          cases hnone
      | misread he => exact he.not_isPath hexpected _ hname

/-- A chain that comes back to a path never stops. -/
theorem Stops.not_circular {i j k : Nat} {p : String} (h : Stops expected view entries last result)
    (hlast : Hops expected view entries path k last) (hij : i < j)
    (hi : Hops expected view entries path i p) (hj : Hops expected view entries path j p) : False := by
  by_cases hjk : j ≤ k
  · obtain ⟨n, rfl⟩ := Nat.exists_eq_add_of_le hjk
    -- one hop on from the same place on the loop the chain would be behind its stop
    obtain ⟨q, hq⟩ := hlast.before (show i + (n + 1) ≤ j + n by omega)
    have hnext : Hops expected view entries path (j + (n + 1)) q := hi.again hj rfl hq
    exact h.no_hop hexpected hlast hnext
  · obtain ⟨q, hq⟩ := hj.before (show k + 1 ≤ j by omega)
    exact h.no_hop hexpected hlast hq

theorem Ends.unique {result' : Except ResolveError (String × α)}
    (h : Ends expected view entries path result) (h' : Ends expected view entries path result') :
    result = result' := by
  cases h with
  | @stops k last _ hlast hstops =>
      cases h' with
      | @stops k' last' _ hlast' hstops' =>
          rcases Nat.lt_trichotomy k k' with hlt | rfl | hlt
          · obtain ⟨p, hp⟩ := hlast'.before hlt
            exact absurd hp (hstops.no_hop hexpected hlast)
          · cases hlast.unique hlast'
            exact hstops.unique hexpected hstops'
          · obtain ⟨p, hp⟩ := hlast.before hlt
            exact absurd hp (hstops'.no_hop hexpected hlast')
      | circular hij hi hj => exact (hstops.not_circular hexpected hlast hij hi hj).elim
  | @circular i j last hij hi hj hfirst =>
      cases h' with
      | stops hlast' hstops' => exact (hstops'.not_circular hexpected hlast' hij hi hj).elim
      | @circular i' j' last' hij' hi' hj' hfirst' =>
          -- both are the first to come back
          rcases Nat.lt_trichotomy j j' with hlt | rfl | hlt
          · exact absurd hj (hfirst' i j last hij hlt hi)
          · cases hj.unique hj'
            rfl
          · exact absurd hj' (hfirst i' j' last' hij' hlt hi')

end Ending

/-! ## What is answered -/

/-- What is known on the way: the entries that are fresh are those that no path before named, and no
    path was met twice. -/
structure Passing (expected : String) (view : β → String ⊕ α) (entries : Entries β) (path : String)
    (k : Nat) (last : String) (fresh : Entries β) : Prop where
  here : Hops expected view entries path k last
  found : ∀ name entry, fresh.get? name = some entry → entries.get? name = some entry
  used : ∀ m p name, m < k → Hops expected view entries path m p → IsPath expected p name →
    fresh.get? name = none
  unused : ∀ name, fresh.get? name = none → entries.get? name = none ∨
    ∃ m p, m < k ∧ Hops expected view entries path m p ∧ IsPath expected p name
  distinct : ∀ m n p, m < n → n < k → Hops expected view entries path m p →
    ¬ Hops expected view entries path n p

theorem Passing.start : Passing expected view entries path 0 path entries where
  here := .start
  found _ _ h := h
  used _ _ _ h := absurd h (Nat.not_lt_zero _)
  unused _ h := .inl h
  distinct _ _ _ _ h := absurd h (Nat.not_lt_zero _)

/-- A hop to the path that a fresh entry refers to uses the entry up. -/
theorem Passing.hop {k : Nat} {fresh : Entries β} {name next : String} {entry : β}
    (h : Passing expected view entries path k last fresh) (hname : IsPath expected last name)
    (hentry : fresh.get? name = some entry) (hview : view entry = .inl next) :
    Passing expected view entries path (k + 1) next (fresh.erase name) where
  here := h.here.hop hname (h.found _ _ hentry) hview
  found n x hx := by
    rw [Entries.get?_erase] at hx
    split at hx
    · cases hx
    · exact h.found n x hx
  used m p n hm hp hn := by
    rw [Entries.get?_erase]
    split
    · rfl
    · next hne =>
        refine h.used m p n (Nat.lt_of_le_of_ne (Nat.le_of_lt_succ hm) ?_) hp hn
        rintro rfl
        cases hp.unique h.here
        exact hne (hn.unique hname)
  unused n hn := by
    rw [Entries.get?_erase] at hn
    split at hn
    · next heq => exact .inr ⟨k, last, Nat.lt_succ_self k, h.here, heq ▸ hname⟩
    · refine (h.unused n hn).imp_right ?_
      rintro ⟨m, p, hm, hp⟩
      exact ⟨m, p, Nat.lt_succ_of_lt hm, hp⟩
  distinct m n p hmn hn hm hp := by
    by_cases hk : n = k
    · subst hk
      cases hp.unique h.here
      rw [h.used m _ name hmn hm hname] at hentry
      cases hentry
    · exact h.distinct m n p hmn (by omega) hm hp

/-- From a path on the way, `followFrom` answers with the end of the chain. -/
theorem followFrom_ends (hexpected : '/' ∉ expected.toList) {k : Nat} {fresh : Entries β}
    (h : Passing expected view entries path k last fresh) :
    Ends expected view entries path (followFrom expected view entries fresh last) := by
  fun_induction followFrom expected view entries fresh last generalizing k with
  | case1 fresh last e hread =>
      exact .stops h.here (.misread ((name?_eq_error_iff hexpected).1 hread))
  | case2 fresh last name hread hnone =>
      have hname := (name?_eq_ok_iff hexpected).1 hread
      split
      · next hhas =>
          rcases h.unused name hnone with hmissing | ⟨m, p, hm, hp, hpname⟩
          · rw [Entries.has, hmissing] at hhas
            cases hhas
          · cases hpname.1.trans hname.1.symm
            exact .circular hm hp h.here h.distinct
      · next hhas =>
          refine .stops h.here (.notFound hname ?_)
          rwa [Entries.has, Bool.not_eq_true, Option.isSome_eq_false_iff, Option.isNone_iff_eq_none]
            at hhas
  | case3 fresh last name hread entry hentry a hview =>
      exact .stops h.here
        (.definition ((name?_eq_ok_iff hexpected).1 hread) (h.found _ _ hentry) hview)
  | case4 fresh last name hread entry hentry next hview ih =>
      exact ih (h.hop ((name?_eq_ok_iff hexpected).1 hread) hentry hview)

/-- Following a chain answers with its end, whatever the entries refer to. -/
theorem follow_eq_iff (hexpected : '/' ∉ expected.toList) :
    follow expected view entries path = result ↔ Ends expected view entries path result := by
  have hends : Ends expected view entries path (follow expected view entries path) :=
    followFrom_ends hexpected .start
  constructor
  · rintro rfl
    exact hends
  · intro h
    exact hends.unique hexpected h

end Chain

end Reference

namespace Components

open Reference

/-! ## References to schemas -/

section Schemas

variable {c : Components} {p q e : String} {m n : Option Bool} {s : Schema}

theorem canonicalName_eq_ok_iff_follow : c.canonicalName p = .ok e ↔
    ∃ s, Reference.follow "schemas" SchemaOrRef.view c.schemas p = .ok (e, s) := by
  rw [canonicalName, map_ok_iff]
  exact ⟨fun ⟨found, h, he⟩ => ⟨found.2, he ▸ h⟩, fun ⟨s, h⟩ => ⟨(e, s), h, rfl⟩⟩

theorem resolve_eq_ok_iff_follow : c.resolve (.ref p m) = .ok s ↔
    ∃ e, Reference.follow "schemas" SchemaOrRef.view c.schemas p = .ok (e, s) := by
  rw [resolve, map_ok_iff]
  exact ⟨fun ⟨found, h, hs⟩ => ⟨found.1, hs ▸ h⟩, fun ⟨e, h⟩ => ⟨(e, s), h, rfl⟩⟩

/-- What a chain arrives at is stored under the name that it arrives at. -/
theorem get?_of_follow (h : Reference.follow "schemas" SchemaOrRef.view c.schemas p = .ok (e, s)) :
    c.schemas.get? e = some (.inline s) := by
  cases (Reference.follow_eq_iff (by decide)).1 h with
  | stops _ hstops =>
      cases hstops with
      | @definition _ entry _ _ hentry hview =>
          cases entry with
          | ref => cases hview
          | inline => cases hview; exact hentry

/-- A reference has a canonical name when it has a definition. -/
theorem exists_canonicalName (h : c.resolve (.ref p m) = .ok s) : ∃ e, c.canonicalName p = .ok e := by
  obtain ⟨e, he⟩ := resolve_eq_ok_iff_follow.1 h
  exact ⟨e, canonicalName_eq_ok_iff_follow.2 ⟨s, he⟩⟩

/-- References to one component have one definition. -/
theorem resolve_eq_of_canonicalName (hp : c.canonicalName p = .ok e) (hq : c.canonicalName q = .ok e) :
    c.resolve (.ref p m) = c.resolve (.ref q n) := by
  obtain ⟨s, hs⟩ := canonicalName_eq_ok_iff_follow.1 hp
  obtain ⟨t, ht⟩ := canonicalName_eq_ok_iff_follow.1 hq
  have hst := (get?_of_follow hs).symm.trans (get?_of_follow ht)
  cases hst
  rw [resolve_eq_ok_iff_follow.2 ⟨e, hs⟩, resolve_eq_ok_iff_follow.2 ⟨e, ht⟩]

/-- The definition that a reference resolves to is that of its canonical name. -/
theorem resolve_of_canonicalName (h : c.canonicalName p = .ok e) :
    ∃ s, c.resolve (.ref p m) = .ok s ∧ (e, .inline s) ∈ c.schemas := by
  obtain ⟨s, hs⟩ := canonicalName_eq_ok_iff_follow.1 h
  exact ⟨s, resolve_eq_ok_iff_follow.2 ⟨e, hs⟩, Entries.mem_of_get? (get?_of_follow hs)⟩

end Schemas

/-! ## The ends of all references -/

/-- A result with two parts is known by them. -/
theorem eq_of_map_fst_snd {ε α β : Type} {r r' : Except ε (α × β)}
    (hfst : r.map Prod.fst = r'.map Prod.fst) (hsnd : r.map Prod.snd = r'.map Prod.snd) : r = r' := by
  rcases r with e | ⟨a, b⟩ <;> rcases r' with e' | ⟨a', b'⟩ <;> cases hfst
  · rfl
  · cases hsnd
    rfl

/-- What the target of a reference in a section resolves to is what its chain ends with. -/
theorem resolveIn_eq_iff {α : Type} {expected : String} (hexpected : '/' ∉ expected.toList)
    (entries : Entries (RefOr α)) (path : String) (answer : Except ResolveError α) :
    resolveIn expected entries (.ref path) = answer ↔
      ∃ result, Ends expected RefOr.view entries path result ∧ result.map Prod.snd = answer := by
  constructor
  · intro h
    exact ⟨_, (follow_eq_iff hexpected).1 rfl, h⟩
  · rintro ⟨result, hends, h⟩
    rw [resolveIn, (follow_eq_iff hexpected).2 hends, h]

/-- A path names a schema just when it is the path of a name. Whatever the components refer to, the
    chain of a path has one end: the canonical name of the path and the definition that it
    resolves to are the name and the definition there, and where the chain comes to no definition both
    fail with the same error. Parameters, request bodies and responses are followed in the same way,
    each within its section. -/
theorem resolve_ends (c : Components) (path : String) :
    (∀ name, name? "schemas" path = .ok name ↔
      path = "#/components/schemas/" ++ name ∧ name ≠ "" ∧ '/' ∉ name.toList) ∧
    (∀ result, Ends "schemas" SchemaOrRef.view c.schemas path result ↔
      c.canonicalName path = result.map Prod.fst ∧
        ∀ nullable, c.resolve (.ref path nullable) = result.map Prod.snd) ∧
    (∀ answer, c.resolveParameter (.ref path) = answer ↔
      ∃ result, Ends "parameters" RefOr.view c.parameters path result ∧
        result.map Prod.snd = answer) ∧
    (∀ answer, c.resolveRequestBody (.ref path) = answer ↔
      ∃ result, Ends "requestBodies" RefOr.view c.requestBodies path result ∧
        result.map Prod.snd = answer) ∧
    ∀ answer, c.resolveResponse (.ref path) = answer ↔
      ∃ result, Ends "responses" RefOr.view c.responses path result ∧
        result.map Prod.snd = answer := by
  refine ⟨fun name => name?_eq_ok_iff (by decide), fun result => ?_,
    resolveIn_eq_iff (by decide) _ _, resolveIn_eq_iff (by decide) _ _,
    resolveIn_eq_iff (by decide) _ _⟩
  rw [← follow_eq_iff (by decide)]
  constructor
  · rintro rfl
    exact ⟨rfl, fun _ => rfl⟩
  · rintro ⟨hname, hdefinition⟩
    exact eq_of_map_fst_snd hname (hdefinition none)

/-- The error of a chain that runs into a loop names the first path of the loop, not that of the
    chain. -/
example : canonicalName
    { schemas :=
        [("Tail", .ref "#/components/schemas/Loop" none),
          ("Loop", .ref "#/components/schemas/Back" none),
          ("Back", .ref "#/components/schemas/Loop" none)] }
    "#/components/schemas/Tail" = .error (.circular "#/components/schemas/Loop") := by
  decide +kernel

end Components

end OpenApi
