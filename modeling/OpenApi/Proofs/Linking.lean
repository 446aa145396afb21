import OpenApi.Proofs.Canonical

set_option autoImplicit false

/-! # Linking closes every container

`linkNode_linkable` says what visiting one node does: it keeps the invariant `Builder.Linkable`, leaves
every node as it is but for the link of the one visited, and what it adds is to be visited.
`linkFrom_closes` follows the visits to their end, where no container is without a link. -/

namespace OpenApi

namespace Registry

theorem Settled.lt {r : Registry} {id : ModelId} (h : r.Settled id) : id < r.nodes.size := by
  obtain ⟨m, hm, -⟩ := h
  exact node?_eq_some_lt hm

/-- What is settled stays so when the node and the names are still there. -/
theorem Settled.kept {r r' : Registry} {id : ModelId} (h : r.Settled id)
    (hnode : ∀ {m : Model}, r.node? id = some m →
      ∃ m', r'.node? id = some m' ∧ m'.kind = m.kind ∧ m'.baseType = m.baseType)
    (hlookup : ∀ {n : String}, r.lookup n = some id → r'.lookup n = some id) : r'.Settled id := by
  obtain ⟨m, hm, hk⟩ := h
  obtain ⟨m', hm', hkind, hbase⟩ := hnode hm
  exact ⟨m', hm', fun href => hbase ▸ hlookup (hk (hkind ▸ href))⟩

end Registry

namespace Builder

variable {c : Components} {free : ModelId → Prop} {b b' : Builder}

theorem Grows.settled (h : b.Grows free b') {id : ModelId} (hid : ¬ free id)
    (hs : b.registry.Settled id) : b'.registry.Settled id :=
  hs.kept (fun {m} hm => ⟨m, h.node hid hm, rfl, rfl⟩) h.lookup

/-! ## Setting a link -/

/-- The builder after a container is linked. -/
def linked (b : Builder) (id l : ModelId) : Builder :=
  b.updated id fun m => { m with link := some l }

/-- A container without a link. -/
def Unlinked (b : Builder) (id : ModelId) : Prop :=
  ∃ m, b.registry.node? id = some m ∧ m.kind.isContainer ∧ m.link = none

/-- Every node is as it was, but for the link of the one that is linked. -/
theorem node?_linked {id l i : ModelId} {m' : Model} (h : (b.linked id l).registry.node? i = some m') :
    ∃ m link, b.registry.node? i = some m ∧ m' = { m with link := link } ∧
      (i ≠ id ∧ link = m.link ∨ i = id ∧ link = some l) := by
  rw [linked, updated, Registry.node?_update] at h
  split at h
  · next hi =>
      obtain ⟨m, hm, rfl⟩ := Option.map_eq_some_iff.1 h
      exact ⟨m, _, hm, rfl, .inr ⟨hi.symm, rfl⟩⟩
  · next hi => exact ⟨m', _, h, rfl, .inl ⟨fun he => hi he.symm, rfl⟩⟩

theorem node?_linked_of_some (id l : ModelId) {i : ModelId} {m : Model}
    (h : b.registry.node? i = some m) :
    ∃ link, (b.linked id l).registry.node? i = some { m with link := link } ∧
      (i ≠ id ∧ link = m.link ∨ i = id ∧ link = some l) := by
  by_cases hi : i = id
  · subst hi
    exact ⟨_, Registry.node?_update_self h, .inr ⟨rfl, rfl⟩⟩
  · exact ⟨m.link, by rw [linked, updated, Registry.node?_update_of_ne hi, h], .inl ⟨hi, rfl⟩⟩

theorem size_linked (b : Builder) (id l : ModelId) :
    (b.linked id l).registry.nodes.size = b.registry.nodes.size :=
  size_updated _ _ _

/-- Linking a node whose elements do not wait any more is sound. -/
theorem Sound.linked (hb : b.Sound c) {id l : ModelId} (hs : b.source? id = none) :
    (b.linked id l).Sound c where
  index h := by
    obtain ⟨m, hm, hn⟩ := hb.index h
    obtain ⟨link, hm', -⟩ := node?_linked_of_some _ l hm
    exact ⟨_, hm', hn⟩
  distinct := hb.distinct
  used := hb.used
  -- a node differs from the one that was there in its link at most
  targets h hk := by
    obtain ⟨m, link, hm, rfl, -⟩ := node?_linked h
    have htarget := hb.targets hm hk
    exact htarget
  models hl h hk := by
    obtain ⟨m, link, hm, rfl, -⟩ := node?_linked h
    have hmodel := hb.models hl hm hk
    exact hmodel
  composites h hk := by
    obtain ⟨m, link, hm, rfl, -⟩ := node?_linked h
    have hcomposite := hb.composites hm hk
    exact hcomposite
  properties h hp := by
    obtain ⟨m, link, hm, rfl, -⟩ := node?_linked h
    have hlt := hb.properties hm hp
    rw [size_linked]
    exact hlt
  composed h := by
    obtain ⟨m, link, hm, rfl, -⟩ := node?_linked h
    have hcomposed := hb.composed hm
    exact hcomposed
  sources {i source} h := by
    obtain ⟨m, hm, hk, hl⟩ := hb.sources h
    obtain ⟨link, hm', ⟨-, rfl⟩ | ⟨rfl, -⟩⟩ := node?_linked_of_some id l hm
    · exact ⟨_, hm', hk, hl⟩
    · rw [show b.source? i = some source from h] at hs
      cases hs

theorem Sound.dropSource (hb : b.Sound c) (id : ModelId) : (b.dropSource id).Sound c where
  index := hb.index
  distinct := hb.distinct
  used := hb.used
  targets := hb.targets
  models := hb.models
  composites := hb.composites
  properties := hb.properties
  composed := hb.composed
  sources h := by
    rw [source?_dropSource] at h
    split at h
    · cases h
    · exact hb.sources h

theorem Resolved.dropSource (hb : b.Resolved c) (id : ModelId) : (b.dropSource id).Resolved c where
  ready := ⟨hb.ready.sound.dropSource id, hb.ready.declared⟩
  aliases := hb.aliases
  definitions := hb.definitions
  chains := hb.chains

/-! ## The invariant -/

/-- The components are represented, and the links that there are end at settled nodes. -/
structure Linkable (c : Components) (b : Builder) : Prop where
  complete : b.Complete c
  links : ∀ {id l : ModelId} {m : Model}, b.registry.node? id = some m → m.link = some l →
    b.registry.Settled l

theorem Linkable.grown (h : Steps c (b.registry.nodes.size ≤ ·) b b') (hb : b.Linkable c) :
    b'.Linkable c where
  complete := hb.complete.grown h
  links {id l m'} hm' hl := by
    have hgrows := Steps.grows h hb.complete.ready.sound
    by_cases hid : id < b.registry.nodes.size
    · obtain ⟨m, hm⟩ := Registry.exists_node?_of_lt hid
      obtain ⟨m'', hm'', -, hlink⟩ := hgrows.kept hm
      rw [hm'] at hm''
      cases hm''
      have hsettled := hb.links hm (hlink.symm.trans hl)
      exact hgrows.settled (Nat.not_le.2 hsettled.lt) hsettled
    · rw [hgrows.link hm' (Nat.not_lt.1 hid)] at hl
      cases hl

/-- Nothing is different in what was there, but that containers without a link may have one now. -/
structure LinksOnly (b b' : Builder) : Prop where
  size : b.registry.nodes.size ≤ b'.registry.nodes.size
  node : ∀ {id : ModelId} {m : Model}, b.registry.node? id = some m →
    ∃ m', b'.registry.node? id = some m' ∧
      (m' = m ∨ m.kind.isContainer ∧ m.link = none ∧ ∃ l, m' = { m with link := some l })
  named : b.registry.named <+: b'.registry.named

theorem LinksOnly.refl (b : Builder) : b.LinksOnly b :=
  ⟨Nat.le_refl _, fun hm => ⟨_, hm, .inl rfl⟩, List.prefix_refl _⟩

theorem LinksOnly.trans {b₁ : Builder} (h : b.LinksOnly b₁) (h' : b₁.LinksOnly b') :
    b.LinksOnly b' where
  size := Nat.le_trans h.size h'.size
  node hm := by
    obtain ⟨m₁, hm₁, rfl | ⟨hk, hl, l, rfl⟩⟩ := h.node hm
    · exact h'.node hm₁
    · obtain ⟨m', hm', rfl | ⟨-, hl', -⟩⟩ := h'.node hm₁
      · exact ⟨_, hm', .inr ⟨hk, hl, l, rfl⟩⟩
      · cases hl'
  named := h.named.trans h'.named

/-- Linking a container without a link makes the view more complete. -/
theorem whole_le_linked {id l : ModelId}
    (hid : ∀ {m : Model}, b.registry.node? id = some m → m.link = none) :
    b.whole.Le c (b.linked id l).whole where
  node := by
    rintro i m ⟨-, hm⟩
    obtain ⟨link, hm', -⟩ := node?_linked_of_some id l hm
    exact ⟨_, ⟨trivial, hm'⟩, ⟨rfl, rfl, rfl, rfl, rfl, rfl⟩, rfl⟩
  link := by
    rintro i l' ⟨m, hm, hl⟩
    obtain ⟨link, hm', ⟨-, rfl⟩ | ⟨rfl, -⟩⟩ := node?_linked_of_some id l hm
    · exact ⟨_, hm', hl⟩
    · rw [hid hm] at hl
      cases hl
  named hn := hn
  waits := by
    rintro i s ⟨hint, hs⟩
    exact .waiting ⟨hint, hs⟩

end Builder

namespace Build

open Builder View

variable {c : Components} {b b' : Builder}

/-! ## The elements of one container -/

theorem linkTarget_ok {hint : String} {s : SchemaOrRef} {l : ModelId} (hb : b.Resolved c)
    (h : run (linkTarget c hint s) b = (.ok l, b')) :
    Steps c (b.registry.nodes.size ≤ ·) b b' ∧ IsElement c b'.whole (some s) l ∧
      b'.registry.Settled l := by
  refine ⟨steps_of_run (linkTarget_steps c hint s hb.ready fun _ hi => hi) h, ?_⟩
  cases s with
  | ref path nullable =>
      obtain ⟨target, t, htarget, ht, rfl, rfl⟩ := run_linkTarget_ref_ok h
      obtain ⟨e, he, hl⟩ := hb.canonical_target htarget ht
      obtain ⟨m, hm, -⟩ := hb.ready.sound.index ht
      exact ⟨.reference he hl, hb.settled_canonical hm⟩
  | inline s =>
      by_cases hform : s.form.isPromoted
      · obtain ⟨rfl, hfill⟩ := run_linkTarget_promoted_ok hform h
        obtain ⟨m, hm, -, hdef⟩ := fill_defines c _ _ s (hb.ready.promoting hint)
          (hb.ready.sound.vacant_promoting hint) (fun _ => promoting_lookup b hint) hfill
        have hdef' := hdef.mono (b'.view_le_view fun _ _ => trivial) (Model.Alike.refl m)
        exact ⟨.inline ⟨trivial, hm⟩ hdef', hdef'.settled hm fun hn => hn⟩
      · rw [run_linkTarget_inPlace hform] at h
        obtain ⟨m, hm, -, hocc⟩ := occurrence_occurs c hint hint _ hb.ready h
        have hocc' := hocc.mono (b'.view_le_view fun _ _ => trivial) (Model.Alike.refl m)
        cases hocc' with
        | promoted hp => exact absurd hp hform
        | inPlace _ hdef => exact ⟨.inline ⟨trivial, hm⟩ hdef, hdef.settled hm fun hn => hn⟩

/-- Elements without a schema get a node that admits anything, and other elements what their schema is
    linked to; what this adds is to be visited. -/
theorem run_elements_ok {source : ElementSource} {l : ModelId} {added : List ModelId}
    (h : run (elements c source) b = (.ok (l, added), b')) :
    (source.schema = none ∧ l = b.registry.nodes.size ∧ added = [] ∧
      b' = b.pushed (Model.any source.hint)) ∨
    ∃ s, source.schema = some s ∧ run (linkTarget c source.hint s) b = (.ok l, b') ∧
      added = List.range' b.registry.nodes.size (b'.registry.nodes.size - b.registry.nodes.size) := by
  obtain ⟨hint, _ | s⟩ := source
  · obtain ⟨l', b₁, h₁, h⟩ := run_bind_ok h
    obtain ⟨heq, rfl⟩ := run_pure_ok h
    cases heq
    obtain ⟨rfl, rfl⟩ := run_push_ok h₁
    exact .inl ⟨rfl, rfl, rfl, rfl⟩
  · obtain ⟨r, b₁, h₁, h⟩ := run_bind_ok h
    cases h₁
    obtain ⟨l', b₂, h₂, h⟩ := run_bind_ok h
    obtain ⟨r, b₃, h₃, h⟩ := run_bind_ok h
    cases h₃
    obtain ⟨heq, rfl⟩ := run_pure_ok h
    cases heq
    exact .inr ⟨s, rfl, h₂, rfl⟩

/-- The elements of a container are represented, and what they have added is to be visited, or has
    nothing to visit. -/
theorem elements_ok {source : ElementSource} {l : ModelId} {added : List ModelId}
    (hb : b.Resolved c) (h : run (elements c source) b = (.ok (l, added), b')) :
    Steps c (b.registry.nodes.size ≤ ·) b b' ∧ IsElement c b'.whole source.schema l ∧
      b'.registry.Settled l ∧
      ∀ i, b.registry.nodes.size ≤ i → b'.Unlinked i → i ∈ added := by
  rcases run_elements_ok h with ⟨hs, rfl, rfl, rfl⟩ | ⟨s, hs, hrun, rfl⟩
  · have hnode := Registry.node?_push_self b.registry (Model.any source.hint)
    rw [hs]
    refine ⟨.single (.push (Model.any_blank _) (.inl rfl)), .any ⟨trivial, hnode⟩ rfl rfl,
      ⟨_, hnode, fun hk => by cases hk⟩, ?_⟩
    rintro i hi ⟨m, hm, hk, -⟩
    rcases node?_pushed hm with hm | ⟨-, rfl⟩
    · exact absurd (Registry.node?_eq_some_lt hm) (Nat.not_lt.2 hi)
    · cases hk
  · obtain ⟨hsteps, helem, hsettled⟩ := linkTarget_ok hb hrun
    rw [hs]
    refine ⟨hsteps, helem, hsettled, ?_⟩
    rintro i hi ⟨m, hm, -⟩
    have hlt := Registry.node?_eq_some_lt hm
    rw [List.mem_range'_1, Nat.add_sub_cancel' (Nat.le_trans hi (Nat.le_of_lt hlt))]
    exact ⟨hi, hlt⟩

/-! ## One visit -/

/-- A node that is no container without a link is left alone. -/
theorem run_linkNode_of_not_unlinked {id : ModelId} (h : ¬ b.Unlinked id) :
    run (linkNode c id) b = (.ok [], b) := by
  unfold linkNode
  rw [run_bind_of_ok (run_graph b), if_neg, run_pure]
  unfold Registry.holds
  rw [Option.any_eq_true]
  rintro ⟨m, hm, hp⟩
  rw [Bool.and_eq_true, Option.isNone_iff_eq_none] at hp
  exact h ⟨m, hm, hp⟩

/-- A container without a link is linked to its elements, which wait no more. -/
theorem run_linkNode_ok {id : ModelId} {added : List ModelId} (hid : b.Unlinked id)
    (h : run (linkNode c id) b = (.ok added, b')) :
    ∃ l b₁, run (elements c ((b.source? id).getD ⟨"value", none⟩)) (b.dropSource id)
      = (.ok (l, added), b₁) ∧ b₁.linked id l = b' := by
  obtain ⟨m, hm, hk, hl⟩ := hid
  unfold linkNode at h
  rw [run_bind_of_ok (run_graph b), if_pos (by simp [Registry.holds, hm, hk, hl])] at h
  obtain ⟨source, b₁, h₁, h⟩ := run_bind_ok h
  cases h₁
  obtain ⟨⟨l, added'⟩, b₂, h₂, h⟩ := run_bind_ok h
  obtain ⟨_, b₃, h₃, h⟩ := run_bind_ok h
  obtain ⟨rfl, rfl⟩ := run_pure_ok h
  exact ⟨l, b₂, h₂, run_update_ok h₃⟩

/-- What a successful visit does. -/
structure Visited (c : Components) (id : ModelId) (b b' : Builder) (added : List ModelId) : Prop where
  linkable : b'.Linkable c
  le : b.whole.Le c b'.whole
  linksOnly : b.LinksOnly b'
  unlinked : ∀ i, b'.Unlinked i → b.Unlinked i ∧ i ≠ id ∨ i ∈ added

section Visit

variable {b₁ : Builder} {id l : ModelId} {m : Model}

/-- What has grown since the source of a node was taken is what was there before. -/
theorem node?_of_grows (h : (b.dropSource id).Grows (b.registry.nodes.size ≤ ·) b₁) {i : ModelId}
    {m' : Model} (hm' : b.registry.node? i = some m') : b₁.registry.node? i = some m' :=
  h.node (Nat.not_le.2 (Registry.node?_eq_some_lt hm')) hm'

/-- The view becomes more complete when waiting elements have been built and are linked to. -/
theorem whole_le_visited (h : (b.dropSource id).Grows (b.registry.nodes.size ≤ ·) b₁)
    (hm : b.registry.node? id = some m) (hl : m.link = none)
    (helem : ∀ hint s, b.source? id = some ⟨hint, s⟩ → IsElement c b₁.whole s l) :
    b.whole.Le c (b₁.linked id l).whole := by
  have hm₁ := node?_of_grows h hm
  have hlinked : b₁.whole.Le c (b₁.linked id l).whole := whole_le_linked fun hm' => by
    rw [hm₁] at hm'
    cases hm'
    exact hl
  refine ⟨fun hnode => hlinked.node ⟨trivial, node?_of_grows h hnode.2⟩, ?_, h.lookup, ?_⟩
  · rintro i l' ⟨m', hm', hl'⟩
    exact hlinked.link ⟨m', node?_of_grows h hm', hl'⟩
  · rintro i s ⟨hint, hs⟩
    by_cases hi : i = id
    · subst hi
      obtain ⟨link, hm', ⟨hne, -⟩ | ⟨-, rfl⟩⟩ := node?_linked_of_some i l hm₁
      · exact absurd rfl hne
      · exact .linked ⟨_, hm', rfl⟩ ((helem hint s hs).mono hlinked)
    · refine .waiting ⟨hint, h.source ?_⟩
      rw [source?_dropSource, if_neg hi, hs]

/-- Links still end at settled nodes. -/
theorem links_visited (hb : b.Linkable c)
    (h : (b.dropSource id).Grows (b.registry.nodes.size ≤ ·) b₁) (hsettled : b₁.registry.Settled l)
    {i l' : ModelId} {m' : Model} (hm' : (b₁.linked id l).registry.node? i = some m')
    (hl' : m'.link = some l') : (b₁.linked id l).registry.Settled l' := by
  have hkept {j : ModelId} (hj : b₁.registry.Settled j) : (b₁.linked id l).registry.Settled j := by
    refine hj.kept (fun {n} hn => ?_) fun hn => hn
    obtain ⟨link, hn', -⟩ := node?_linked_of_some id l hn
    exact ⟨_, hn', rfl, rfl⟩
  obtain ⟨m₀, link, hm₀, rfl, ⟨-, rfl⟩ | ⟨-, rfl⟩⟩ := node?_linked hm'
  · -- nodes that were added have no link yet
    have hlt : i < b.registry.nodes.size := by
      by_contra hge
      rw [show m₀.link = none from h.link hm₀ (Nat.not_lt.1 hge)] at hl'
      cases hl'
    obtain ⟨m₂, hm₂⟩ := Registry.exists_node?_of_lt hlt
    rw [node?_of_grows h hm₂] at hm₀
    cases hm₀
    have hs := hb.links hm₂ hl'
    exact hkept (h.settled (Nat.not_le.2 hs.lt) hs)
  · cases hl'
    exact hkept hsettled

/-- Only the link of the visited container is new in what was there. -/
theorem linksOnly_visited (h : (b.dropSource id).Grows (b.registry.nodes.size ≤ ·) b₁)
    (hm : b.registry.node? id = some m) (hk : m.kind.isContainer) (hl : m.link = none) :
    b.LinksOnly (b₁.linked id l) := by
  refine ⟨?_, ?_, h.named⟩
  · rw [size_linked]
    exact h.size
  · intro i m' hm'
    obtain ⟨link, hm'', ⟨-, rfl⟩ | ⟨rfl, rfl⟩⟩ :=
      node?_linked_of_some id l (node?_of_grows h hm')
    · exact ⟨_, hm'', .inl rfl⟩
    · rw [hm] at hm'
      cases hm'
      exact ⟨_, hm'', .inr ⟨hk, hl, l, rfl⟩⟩

/-- A container without a link is an old one, or has been added. -/
theorem unlinked_visited (h : (b.dropSource id).Grows (b.registry.nodes.size ≤ ·) b₁)
    {i : ModelId} (hi : (b₁.linked id l).Unlinked i) :
    b.Unlinked i ∧ i ≠ id ∨ b.registry.nodes.size ≤ i ∧ b₁.Unlinked i := by
  obtain ⟨m', hm', hk', hl'⟩ := hi
  obtain ⟨m₀, link, hm₀, rfl, ⟨hne, rfl⟩ | ⟨-, rfl⟩⟩ := node?_linked hm'
  · by_cases hlt : i < b.registry.nodes.size
    · obtain ⟨m₂, hm₂⟩ := Registry.exists_node?_of_lt hlt
      rw [node?_of_grows h hm₂] at hm₀
      cases hm₀
      exact .inl ⟨⟨_, hm₂, hk', hl'⟩, hne⟩
    · exact .inr ⟨Nat.not_lt.1 hlt, m₀, hm₀, hk', hl'⟩
  · cases hl'

end Visit

theorem linkNode_visited {id : ModelId} {added : List ModelId} (hb : b.Linkable c)
    (h : run (linkNode c id) b = (.ok added, b')) : Visited c id b b' added := by
  by_cases hid : b.Unlinked id
  · obtain ⟨l, b₁, hr, rfl⟩ := run_linkNode_ok hid h
    obtain ⟨m, hm, hk, hl⟩ := hid
    -- between taking the source and linking, the graph grows by the elements
    have hres := hb.complete.resolved.dropSource id
    obtain ⟨hsteps, helem, hsettled, hadded⟩ := elements_ok hres hr
    have hgrows : (b.dropSource id).Grows (b.registry.nodes.size ≤ ·) b₁ :=
      Steps.grows hsteps hres.ready.sound
    have hle := whole_le_visited hgrows hm hl fun hint s hs => by
      rw [hs] at helem
      exact helem
    have hidle : b₁.source? id = none := by
      rw [hgrows.idle (Nat.not_le.2 (Registry.node?_eq_some_lt hm)), source?_dropSource, if_pos rfl]
    have hready : Ready c (b₁.linked id l) :=
      ⟨(Steps.sound hsteps hres.ready.sound).linked hidle, fun n hn => by
        obtain ⟨t, ht⟩ := hb.complete.ready.declared n hn
        exact ⟨t, hgrows.lookup ht⟩⟩
    refine ⟨⟨⟨hready, fun hn => (hb.complete.components hn).mono hle,
      fun hn => (hb.complete.marks hn).mono hle, hb.complete.chains⟩,
      links_visited hb hgrows hsettled⟩, hle, linksOnly_visited hgrows hm hk hl, fun i hi => ?_⟩
    exact (unlinked_visited hgrows hi).imp_right fun h => hadded i h.1 h.2
  · rw [run_linkNode_of_not_unlinked hid] at h
    cases h
    refine ⟨hb, b.view_le_view fun _ hi => hi, LinksOnly.refl b, fun i hi => .inl ⟨hi, ?_⟩⟩
    rintro rfl
    exact hid hi

/-! ## All visits -/

theorem next?_eq_none {unvisited stack : List ModelId} (h : next? unvisited stack = none) :
    unvisited = [] := by
  induction stack with
  | nil =>
      cases unvisited with
      | nil => rfl
      | cons => cases h
  | cons first stack ih =>
      rw [next?] at h
      split at h
      · cases h
      · exact ih h

/-- When the visits succeed, no container is without a link. -/
theorem linkFrom_closes {unvisited stack : List ModelId} (hb : b.Linkable c)
    (hun : ∀ i, b.Unlinked i → i ∈ unvisited) (h : linkFrom c unvisited stack b = (.ok (), b')) :
    b'.Linkable c ∧ b.whole.Le c b'.whole ∧ b.LinksOnly b' ∧ ∀ i, ¬ b'.Unlinked i := by
  fun_induction linkFrom c unvisited stack b with
  | case1 unvisited stack b hnext =>
      cases h
      refine ⟨hb, view_le_view _ fun _ hi => hi, LinksOnly.refl _, fun i hi => ?_⟩
      have hmem := hun i hi
      rw [next?_eq_none hnext] at hmem
      cases hmem
  | case2 => cases h
  | case3 unvisited stack b id stack' hnext added b₁ hr ih =>
      -- the invariant: every container without a link is still to be visited
      have hvisited := linkNode_visited hb hr
      have hun₁ : ∀ i, b₁.Unlinked i → i ∈ unvisited.erase id ++ added := by
        intro i hi
        rcases hvisited.unlinked i hi with ⟨hi, hne⟩ | hi
        · exact List.mem_append_left _ ((List.mem_erase_of_ne hne).2 (hun i hi))
        · exact List.mem_append_right _ hi
      obtain ⟨hlinkable, hle, honly, hall⟩ := ih hvisited.linkable hun₁ h
      exact ⟨hlinkable, hvisited.le.trans hle, hvisited.linksOnly.trans honly, hall⟩

/-- What each visit of a linkable graph keeps is kept by all of them. -/
theorem linkFrom_keeps {P : Builder → Prop}
    (hP : ∀ {b b' : Builder} {id : ModelId} {added : List ModelId}, b.Linkable c → P b →
      run (linkNode c id) b = (.ok added, b') → P b')
    {unvisited stack : List ModelId} (hb : b.Linkable c) (hp : P b)
    (h : linkFrom c unvisited stack b = (.ok (), b')) : P b' := by
  fun_induction linkFrom c unvisited stack b with
  | case1 =>
      cases h
      exact hp
  | case2 => cases h
  | case3 unvisited stack b id stack' hnext added b₁ hr ih =>
      exact ih (linkNode_visited hb hr).linkable (hP hb hp hr) h

/-- Where no container is without a link, the visits change nothing. -/
theorem linkFrom_of_linked {unvisited stack : List ModelId} (hb : ∀ i, ¬ b.Unlinked i) :
    linkFrom c unvisited stack b = (.ok (), b) := by
  fun_induction linkFrom c unvisited stack b with
  | case1 => rfl
  | case2 unvisited stack b id stack' hnext e b₁ hr =>
      rw [run_linkNode_of_not_unlinked (hb id)] at hr
      cases hr
  | case3 unvisited stack b id stack' hnext added b₁ hr ih =>
      rw [run_linkNode_of_not_unlinked (hb id)] at hr
      cases hr
      exact ih hb

end Build

end OpenApi
