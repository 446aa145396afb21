import Mathlib.Data.List.Infix
import OpenApi.Proofs.Steps

set_option autoImplicit false

/-! # What the construction leaves alone

Building schemas adds nodes behind those that are there and names behind those that are registered.
`Builder.Grows` says what of a builder is still there in a later one, and `Steps.grows` that it holds
along every run of elementary changes. -/

namespace OpenApi

namespace Builder

/-- What elementary changes leave alone: the nodes that are not free with what waits for them, the name
    and the link of every node, everything that waits, and the registered names with their order. -/
structure Grows (free : ModelId → Prop) (b b' : Builder) : Prop where
  size : b.registry.nodes.size ≤ b'.registry.nodes.size
  node : ∀ {i : ModelId} {m : Model}, ¬ free i → b.registry.node? i = some m →
    b'.registry.node? i = some m
  kept : ∀ {i : ModelId} {m : Model}, b.registry.node? i = some m →
    ∃ m', b'.registry.node? i = some m' ∧ m'.name = m.name ∧ m'.link = m.link
  link : ∀ {i : ModelId} {m' : Model}, b'.registry.node? i = some m' → b.registry.nodes.size ≤ i →
    m'.link = none
  source : ∀ {i : ModelId} {source : ElementSource}, b.source? i = some source →
    b'.source? i = some source
  idle : ∀ {i : ModelId}, ¬ free i → b'.source? i = b.source? i
  named : b.registry.named <+: b'.registry.named

namespace Grows

variable {free free' : ModelId → Prop} {b b₁ b' : Builder}

theorem refl (b : Builder) : b.Grows free b where
  size := Nat.le_refl _
  node _ h := h
  kept h := ⟨_, h, rfl, rfl⟩
  link h hi := absurd (Registry.node?_eq_some_lt h) (Nat.not_lt.2 hi)
  source h := h
  idle _ := rfl
  named := List.prefix_refl _

theorem trans (h : b.Grows free b₁) (h' : b₁.Grows free b') : b.Grows free b' where
  size := Nat.le_trans h.size h'.size
  node hi hm := h'.node hi (h.node hi hm)
  kept hm := by
    obtain ⟨m₁, hm₁, hn₁, hl₁⟩ := h.kept hm
    obtain ⟨m', hm', hn', hl'⟩ := h'.kept hm₁
    exact ⟨m', hm', hn'.trans hn₁, hl'.trans hl₁⟩
  link {i} _ hm hi := by
    by_cases hlt : i < b₁.registry.nodes.size
    · obtain ⟨m₁, hm₁⟩ := Registry.exists_node?_of_lt hlt
      obtain ⟨m', hm', -, hl⟩ := h'.kept hm₁
      rw [hm] at hm'
      cases hm'
      rw [hl]
      exact h.link hm₁ hi
    · exact h'.link hm (Nat.not_lt.1 hlt)
  source hs := h'.source (h.source hs)
  idle hi := (h'.idle hi).trans (h.idle hi)
  named := h.named.trans h'.named

/-- What is registered stays registered. -/
theorem lookup (h : b.Grows free b') {n : String} {id : ModelId}
    (hn : b.registry.lookup n = some id) : b'.registry.lookup n = some id := by
  obtain ⟨new, hnew⟩ := h.named
  rw [Registry.lookup, ← hnew]
  exact Entries.get?_append_of_get? hn

end Grows

/-- A new node without a link is all that is new. -/
theorem grows_pushed {b : Builder} {free : ModelId → Prop} {m : Model} (hm : m.link = none) :
    b.Grows free (b.pushed m) where
  size := Nat.le_of_lt (Nat.lt_of_lt_of_eq (Nat.lt_succ_self _) (b.size_pushed _).symm)
  node _ h := Registry.node?_push_of_some h
  kept h := ⟨_, Registry.node?_push_of_some h, rfl, rfl⟩
  link h hi := by
    rcases node?_pushed h with h | ⟨-, rfl⟩
    · exact absurd (Registry.node?_eq_some_lt h) (Nat.not_lt.2 hi)
    · exact hm
  source h := h
  idle _ := rfl
  named := List.prefix_refl _

theorem Step.grows {c : Components} {free : ModelId → Prop} {b b' : Builder} (h : Step c free b b')
    (hb : b.Sound c) : b.Grows free b' := by
  cases h with
  | note e => exact ⟨Nat.le_refl _, fun _ h => h, fun h => ⟨_, h, rfl, rfl⟩,
      fun h hi => absurd (Registry.node?_eq_some_lt h) (Nat.not_lt.2 hi), fun h => h, fun _ => rfl,
      List.prefix_refl _⟩
  | push hblank hkind => exact grows_pushed hblank.link
  | @declare name hfree =>
      have hp : b.Grows free (b.pushed (Model.any name)) := grows_pushed rfl
      refine ⟨hp.size, hp.node, hp.kept, hp.link, hp.source, hp.idle, ?_⟩
      have hkey : name ∉ Entries.keys b.registry.named := fun h => hfree ((hb.used name).2 h)
      show _ <+: Entries.put name _ b.registry.named
      rw [Entries.put_of_not_mem hkey]
      exact List.prefix_append _ _
  | @update id f hfree hf =>
      refine ⟨Nat.le_of_eq (size_updated _ _ _).symm, ?_, ?_, ?_, fun h => h, fun _ => rfl,
        List.prefix_refl _⟩
      · intro i m hi hm
        have hne : i ≠ id := fun he => hi (he ▸ hfree)
        rw [updated, Registry.node?_update_of_ne hne, hm]
      · intro i m hm
        obtain ⟨n, hn, hname, hlink, -⟩ := node?_revised hf hm
        exact ⟨n, hn, hname, hlink⟩
      · intro i m' hm' hi
        have hlt := Registry.node?_eq_some_lt hm'
        rw [size_updated] at hlt
        exact absurd hlt (Nat.not_lt.2 hi)
  | @await id source m hfree hnone hm hk hl =>
      refine ⟨Nat.le_refl _, fun _ h => h, fun h => ⟨_, h, rfl, rfl⟩,
        fun h hi => absurd (Registry.node?_eq_some_lt h) (Nat.not_lt.2 hi), ?_, ?_,
        List.prefix_refl _⟩
      · intro i s hs
        rw [source?_awaiting]
        split
        · next hi =>
            rw [← hi, hnone] at hs
            cases hs
        · exact hs
      · intro i hi
        rw [source?_awaiting, if_neg fun he : id = i => hi (he ▸ hfree)]

theorem Steps.grows {c : Components} {free : ModelId → Prop} {b b' : Builder} (h : Steps c free b b')
    (hb : b.Sound c) : b.Grows free b' := by
  induction h with
  | refl => exact Grows.refl b
  | tail hsteps hstep ih => exact ih.trans (hstep.grows (Steps.sound hsteps hb))

/-- Runs that change only what is new follow each other as one such run. -/
theorem Steps.append {c : Components} {b b₁ b' : Builder}
    (h : Steps c (b.registry.nodes.size ≤ ·) b b₁) (h' : Steps c (b₁.registry.nodes.size ≤ ·) b₁ b')
    (hb : b.Sound c) : Steps c (b.registry.nodes.size ≤ ·) b b' :=
  h.trans (Steps.mono h' fun _ => Nat.le_trans (Steps.grows h hb).size)

end Builder

end OpenApi
