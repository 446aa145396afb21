import OpenApi.Proofs.Finishing
import OpenApi.Proofs.Following

set_option autoImplicit false

/-! # Which elements admit null

The type of a container says whether its elements may be null. `linkNode_provides` follows the elements of
a container from the visit in which they are built to the end of the construction, and
`typeExpr_container` reads their type off the graph. `elements_nullable_iff` puts the two together:
the type of the elements is in nullable form just when the definition at the end of their references
is marked so, and literal values in an array never are. A mark on the reference itself is lost:
`elements_nullable_reference`. -/

namespace OpenApi

/-! ## Types in nullable form -/

namespace PerLanguage

variable {α : Type}

theorem get?_put (m : PerLanguage α) (lang l : Language) (value : α) :
    (m.put l value).get? lang = if lang = l then some value else m.get? lang := by
  cases lang <;> cases l <;> rfl

theorem get?_fill (m : PerLanguage α) (langs : List Language) (f : Language → α) (lang : Language) :
    (m.fill langs f).get? lang = if lang ∈ langs then some (f lang) else m.get? lang := by
  induction langs generalizing m with
  | nil => simp [fill]
  | cons l rest ih =>
      have hrest : m.fill (l :: rest) f = (m.put l (f l)).fill rest f := rfl
      rw [hrest, ih, get?_put]
      by_cases hmem : lang ∈ rest
      · simp [hmem]
      · by_cases hl : lang = l
        · simp [hl]
        · simp [hmem, hl]

end PerLanguage

namespace TypeExpr

/-- Whether a type is in nullable form. -/
def admitsNull : TypeExpr → Bool
  | .nullable _ => true
  | _ => false

/-- The type of a container of some kind. -/
def ofContainer : ModelKind → TypeExpr → TypeExpr
  | .array => .array
  | _ => .dictionary

@[simp] theorem admitsNull_nullableIf (b : Bool) (t : TypeExpr) :
    (nullableIf b t).admitsNull = (b || t.admitsNull) := by
  cases b <;> simp [nullableIf, admitsNull]

end TypeExpr

namespace Registry

open TypeExpr

variable {r r' : Registry} {fresh : List ModelId} {id l : ModelId} {m n : Model}

theorem isNamed_iff : r.isNamed id = true ↔
    ∃ m, r.node? id = some m ∧ r.lookup m.name = some id := by
  simp [isNamed, holds, Option.any_eq_true]

theorem Decorates.isNamed_eq (h : r.Decorates r') (id : ModelId) : r'.isNamed id = r.isNamed id := by
  rw [Bool.eq_iff_iff, isNamed_iff, isNamed_iff, h.lookup]
  exact h.exists_node_iff fun hd => by rw [hd.alike.name]

/-- A node that is taken apart is in nullable form just when it admits null. -/
theorem typeOf_admitsNull (hm : r.node? id = some m) (hid : id ∈ fresh) :
    (r.typeOf fresh id).admitsNull = m.isNullable := by
  rw [typeOf, hm]
  simp only [hid, if_true, admitsNull_nullableIf]
  cases m.kind <;> simp [admitsNull]

theorem elementType_admitsNull (hn : r.node? l = some n) (hl : l ∉ fresh → r.isNamed l = true) :
    (r.elementType fresh (some l)).admitsNull = n.isNullable := by
  rw [elementType]
  simp only [hn]
  by_cases hnamed : r.isNamed l = true
  · rw [if_pos hnamed, admitsNull_nullableIf]
    simp [admitsNull]
  · have hmem : l ∈ fresh := by
      by_contra hmem
      exact hnamed (hl hmem)
    rw [if_neg hnamed, typeOf_admitsNull hn hmem]

/-- The items of an array are in nullable form just when their node admits null and is no enum. -/
theorem itemType_admitsNull (hcanonical : r.canonical l = l) (hn : r.node? l = some n)
    (hl : l ∉ fresh → r.isNamed l = true) :
    (r.itemType fresh (some l)).admitsNull = (n.isNullable && n.kind ≠ .enum) := by
  rw [itemType, Option.bind_some, hcanonical, hn]
  by_cases hk : n.kind = .enum
  · simp [hk, admitsNull]
  · simp [hk, elementType_admitsNull hn hl]

/-- The type of a container that is linked to a node. -/
theorem typeExpr_container (hm : r.node? id = some m) (hk : m.kind.isContainer = true)
    (hlink : m.link = some l) (hn : r.node? l = some n) (hcanonical : r.canonical l = l)
    (hself : l = id → r.isNamed l = true) :
    ∃ e, r.typeExpr id = nullableIf m.isNullable (ofContainer m.kind e) ∧
      (e.admitsNull = true ↔ n.isNullable = true ∧ ¬ (m.kind = .array ∧ n.kind = .enum)) := by
  -- only the container itself is not taken apart any more
  have hl : l ∉ (List.range r.nodes.size).erase id → r.isNamed l = true := by
    intro hmem
    apply hself
    by_contra hne
    exact hmem ((List.mem_erase_of_ne hne).2 (List.mem_range.2 (node?_eq_some_lt hn)))
  have hid : id ∈ List.range r.nodes.size := List.mem_range.2 (node?_eq_some_lt hm)
  rw [typeExpr, typeOf, hm]
  simp only [hid, if_true, hlink]
  cases hkind : m.kind with
  | array =>
      refine ⟨_, rfl, ?_⟩
      rw [itemType_admitsNull hcanonical hn hl]
      simp
  | dictionary =>
      refine ⟨_, rfl, ?_⟩
      rw [elementType_admitsNull hn hl]
      simp
  | primitive => simp [hkind, ModelKind.isContainer] at hk
  | reference => simp [hkind, ModelKind.isContainer] at hk
  | enum => simp [hkind, ModelKind.isContainer] at hk
  | composite k => simp [hkind, ModelKind.isContainer] at hk

/-- The type of an array of a named model. -/
theorem typeExpr_array_of_named (hm : r.node? id = some m) (hk : m.kind = .array)
    (hlink : m.link = some l) (hn : r.node? l = some n) (hcanonical : r.canonical l = l)
    (hnamed : r.isNamed l = true) (henum : n.kind ≠ .enum) :
    r.typeExpr id = nullableIf m.isNullable (.array (nullableIf n.isNullable (.named n.name))) := by
  have hid : id ∈ List.range r.nodes.size := List.mem_range.2 (node?_eq_some_lt hm)
  rw [typeExpr, typeOf, hm]
  simp only [hid, if_true, hk, hlink]
  rw [itemType, Option.bind_some, hcanonical, hn]
  simp only [if_neg henum]
  rw [elementType]
  simp only [hn, hnamed, if_true]

/-- Every node of the data has a name and a type in each language. -/
theorem node?_mapLanguages (r : Registry) (langs : List Language) (id : ModelId) :
    (r.mapLanguages langs).node? id =
      (r.node? id).map fun m => { m with mapped := m.mapped.fill langs (r.mappedType id m) } := by
  unfold node? mapLanguages
  exact Array.getElem?_mapIdx

/-! ## The node of elements -/

/-- The node of the elements of a container says of null and of literal values what their definition
    says. A container that is its own element has a name. -/
structure IsElementOf (r : Registry) (id : ModelId) (t : Schema) (l : ModelId) : Prop where
  node : ∃ n, r.node? l = some n ∧ n.isNullable = t.nullable.getD false ∧
    (n.kind = .enum ↔ t.form = .literal)
  named : l = id → r.isNamed l = true

theorem IsElementOf.kept {t : Schema} (h : r.IsElementOf id t l)
    (hnode : ∀ n, r.node? l = some n → ∃ n', r'.node? l = some n' ∧ n'.name = n.name ∧
      n'.kind = n.kind ∧ n'.isNullable = n.isNullable)
    (hlookup : ∀ n, r.lookup n = some l → r'.lookup n = some l) : r'.IsElementOf id t l := by
  obtain ⟨n, hn, hnull, hform⟩ := h.node
  obtain ⟨n', hn', hname, hk, hnull'⟩ := hnode n hn
  refine ⟨⟨n', hn', hnull'.trans hnull, by rw [hk, hform]⟩, fun hid => ?_⟩
  obtain ⟨n₁, hn₁, hl⟩ := isNamed_iff.1 (h.named hid)
  rw [hn] at hn₁
  cases hn₁
  exact isNamed_iff.2 ⟨n', hn', hname ▸ hlookup _ hl⟩

/-- The container is linked to the node of elements that the schema leads to. -/
def HoldsElements (r : Registry) (c : Components) (id : ModelId) (s : SchemaOrRef) : Prop :=
  ∃ m l t, r.node? id = some m ∧ m.kind.isContainer = true ∧ m.link = some l ∧
    c.resolve s = .ok t ∧ r.IsElementOf id t l

end Registry

theorem View.Defines.enum_iff {c : Components} {v : View} {s : Schema} {id : ModelId} {m : Model}
    (h : View.Defines c v s id m) : m.kind = .enum ↔ s.form = .literal := by
  rw [h.kind_eq]
  cases s.form <;> simp [View.formKind]

namespace Build

open Builder View

variable {c : Components} {b b' : Builder} {id : ModelId} {s : SchemaOrRef}

/-! ## One visit -/

/-- The node of inline elements is new, and admits null just when the schema is marked so. -/
theorem linkTarget_inline_ok {hint : String} {t : Schema} {l : ModelId} (hb : b.Ready c)
    (h : run (linkTarget c hint (.inline t)) b = (.ok l, b')) :
    b.registry.nodes.size ≤ l ∧
      ∃ n, b'.registry.node? l = some n ∧ n.isNullable = t.nullable.getD false := by
  by_cases hform : t.form.isPromoted
  · obtain ⟨rfl, hfill⟩ := run_linkTarget_promoted_ok hform h
    obtain ⟨n, hn, hnull, -⟩ := fill_defines c _ _ t (hb.promoting hint)
      (hb.sound.vacant_promoting hint) (fun _ => promoting_lookup b hint) hfill
    exact ⟨Nat.le_refl _, n, hn, hnull⟩
  · rw [run_linkTarget_inPlace hform] at h
    obtain ⟨rfl, hfill⟩ := run_occurrence_inPlace_ok hform h
    have hpush : Steps c (fun _ => True) b (b.pushed (Model.any hint)) :=
      .single (.push (Model.any_blank hint) (.inl rfl))
    obtain ⟨n, hn, hnull, -⟩ := fill_defines c _ _ t (Steps.ready hpush hb)
      (hb.sound.vacant_pushed hint) (fun hp => absurd hp hform) hfill
    exact ⟨Nat.le_refl _, n, hn, hnull⟩

/-- The node under the name of a component with a definition says what the definition says. -/
theorem isElementOf_component (hb : b.Linkable c) {e : String} {t : Schema} {l : ModelId}
    (he : (e, .inline t) ∈ c.schemas) (hl : b.registry.lookup e = some l) :
    b.registry.IsElementOf id t l := by
  obtain ⟨l₁, n, hname, ⟨-, hn⟩, hnull⟩ := hb.complete.marks he
  have hl₁ : b.registry.lookup e = some l₁ := hname
  cases hb.complete.components he with
  | @definition _ l₂ n' hname' hnode hbears hdef =>
      have hl₂ : b.registry.lookup e = some l₂ := hname'
      have hn' := hnode.2
      rw [hl] at hl₁ hl₂
      cases hl₁
      cases hl₂
      rw [hn] at hn'
      cases hn'
      exact ⟨⟨n, hn, hnull, hdef.enum_iff⟩, fun _ =>
        Registry.isNamed_iff.2 ⟨n, hn, hbears.symm ▸ hl⟩⟩

/-- The visit of a container whose elements wait links it to their node. -/
theorem linkNode_element {hint : String} {added : List ModelId} (hb : b.Linkable c)
    (hs : b.source? id = some ⟨hint, some s⟩) (h : run (linkNode c id) b = (.ok added, b')) :
    b'.registry.HoldsElements c id s := by
  have hvisited := linkNode_visited hb h
  obtain ⟨m, hm, hk, hlink⟩ := hb.complete.ready.sound.sources hs
  obtain ⟨l, b₁, hr, rfl⟩ := run_linkNode_ok ⟨m, hm, hk, hlink⟩ h
  rw [hs, Option.getD_some] at hr
  rcases run_elements_ok hr with ⟨hnone, -⟩ | ⟨_, hsome, hrun, -⟩
  · cases hnone
  cases hsome
  have hres := hb.complete.resolved.dropSource id
  obtain ⟨hsteps, helem, -⟩ := linkTarget_ok hres hrun
  have hm₁ : b₁.registry.node? id = some m :=
    node?_of_grows (Steps.grows hsteps hres.ready.sound) hm
  have hlinked : (b₁.linked id l).registry.node? id = some { m with link := some l } :=
    Registry.node?_update_self hm₁
  cases s with
  | ref path nullable =>
      cases helem with
      | reference he hl =>
          obtain ⟨t, ht, hmem⟩ := Components.resolve_of_canonicalName he
          exact ⟨_, l, t, hlinked, hk, rfl, ht, isElementOf_component hvisited.linkable hmem hl⟩
  | inline t =>
      obtain ⟨hge, n, hn, hnull⟩ := linkTarget_inline_ok hres.ready hrun
      -- the node of the elements is new, so that it is not the container
      have hne : l ≠ id := Nat.ne_of_gt (Nat.lt_of_lt_of_le (Registry.node?_eq_some_lt hm) hge)
      cases helem with
      | inline hnode hdef =>
          have hn' := hnode.2
          rw [hn] at hn'
          cases hn'
          refine ⟨_, l, t, hlinked, hk, rfl, rfl, ⟨n, ?_, hnull, hdef.enum_iff⟩,
            fun heq => absurd heq hne⟩
          rw [linked, updated, Registry.node?_update_of_ne hne, hn]

/-! ## All visits -/

/-- The elements of a container wait, or the container is linked to their node. -/
def Provides (c : Components) (b : Builder) (id : ModelId) (s : SchemaOrRef) : Prop :=
  (∃ hint, b.source? id = some ⟨hint, some s⟩) ∨ b.registry.HoldsElements c id s

/-- A container that is linked stays so when only missing links are added. -/
theorem holdsElements_of_linksOnly (h : b.LinksOnly b') (hs : b.registry.HoldsElements c id s) :
    b'.registry.HoldsElements c id s := by
  obtain ⟨m, l, t, hm, hk, hlink, ht, helem⟩ := hs
  obtain ⟨m', hm', rfl | ⟨-, hnone, -⟩⟩ := h.node hm
  · refine ⟨m', l, t, hm', hk, hlink, ht, helem.kept (fun n hn => ?_) fun n hn => ?_⟩
    · obtain ⟨n', hn', rfl | ⟨-, -, l', rfl⟩⟩ := h.node hn
      · exact ⟨n', hn', rfl, rfl, rfl⟩
      · exact ⟨_, hn', rfl, rfl, rfl⟩
    · obtain ⟨new, hnew⟩ := h.named
      rw [Registry.lookup, ← hnew]
      exact Entries.get?_append_of_get? hn
  · rw [hnone] at hlink
    cases hlink

/-- The visit of one container leaves the waiting elements of the others alone. -/
theorem source?_linkNode {i : ModelId} {source : ElementSource} {added : List ModelId}
    (hb : b.Linkable c) (hne : id ≠ i) (hs : b.source? id = some source)
    (h : run (linkNode c i) b = (.ok added, b')) : b'.source? id = some source := by
  by_cases hi : b.Unlinked i
  · obtain ⟨l, b₁, hr, rfl⟩ := run_linkNode_ok hi h
    have hres := hb.complete.resolved.dropSource i
    obtain ⟨hsteps, -⟩ := elements_ok hres hr
    have hgrows := Steps.grows hsteps hres.ready.sound
    refine hgrows.source ?_
    rw [source?_dropSource, if_neg hne, hs]
  · rw [run_linkNode_of_not_unlinked hi] at h
    cases h
    exact hs

theorem linkNode_provides {i : ModelId} {added : List ModelId} (hb : b.Linkable c)
    (hs : Provides c b id s) (h : run (linkNode c i) b = (.ok added, b')) : Provides c b' id s := by
  rcases hs with ⟨hint, hs⟩ | hs
  · by_cases hi : id = i
    · subst hi
      exact .inr (linkNode_element hb hs h)
    · exact .inl ⟨hint, source?_linkNode hb hi hs h⟩
  · exact .inr (holdsElements_of_linksOnly (linkNode_visited hb h).linksOnly hs)

theorem linkFrom_provides {unvisited stack : List ModelId} (hb : b.Linkable c)
    (hs : Provides c b id s) (h : linkFrom c unvisited stack b = (.ok (), b')) :
    Provides c b' id s :=
  linkFrom_keeps (P := fun b => Provides c b id s) linkNode_provides hb hs h

namespace Walk

theorem Visits.linkable {n : Nat} {w w' : Walk} (h : Visits c n w w')
    (hb : w.builder.Linkable c) : w'.builder.Linkable c := by
  induction h with
  | none => exact hb
  | next hvisit _ ih =>
      cases hvisit with
      | visit _ hr => exact ih (linkNode_visited hb hr).linkable

/-- The construction goes on from every graph on the way. -/
theorem Visits.linkFrom_eq {n : Nat} {w w' : Walk} (h : Visits c n w w') :
    linkFrom c w.unvisited w.stack w.builder = linkFrom c w'.unvisited w'.stack w'.builder := by
  induction h with
  | none => rfl
  | next hvisit _ ih =>
      cases hvisit with
      | @visit unvisited stack rest added i b b' hnext hr =>
          rw [← ih, linkFrom.eq_def]
          split
          · next hnone =>
              rw [hnext] at hnone
              cases hnone
          · next i' rest' hnext' =>
              rw [hnext] at hnext'
              cases hnext'
              split
              · next hr' =>
                  rw [hr] at hr'
                  cases hr'
              · next hr' =>
                  rw [hr] at hr'
                  cases hr'
                  rfl

end Walk

end Build

namespace Document

open Build Builder Walk TypeExpr

variable {d : Document} {options : Options} {id : ModelId} {s : SchemaOrRef}

/-- While the containers of a document are linked, elements of a schema wait for one of them. -/
def Awaits (d : Document) (options : Options) (id : ModelId) (s : SchemaOrRef) : Prop :=
  ∃ b₁ b₂ ops n w hint, run (addComponents d.componentsOrNone) {} = (.ok (), b₁) ∧
    run (collect d options) (b₁.noted (.declared b₁.registry.named.length)) = (.ok ops, b₂) ∧
    Visits d.componentsOrNone n (start b₂) w ∧ w.builder.source? id = some ⟨hint, some s⟩

/-- In the linked graph of a document every container holds the elements that waited for it. -/
theorem buildGraph_holdsElements (hc : (Entries.keys d.componentsOrNone.schemas).Nodup)
    {ops : List Operation} {b : Builder} (h : run (d.buildGraph options) {} = (.ok ops, b))
    (hs : d.Awaits options id s) :
    b.Linkable d.componentsOrNone ∧ b.registry.HoldsElements d.componentsOrNone id s := by
  obtain ⟨b₁, b₂, collected, n, w, hint, hadd, hcollect, hvisits, hsource⟩ := hs
  obtain ⟨-, hb₂⟩ := collect_linkable hc hadd hcollect
  have hnote : run (note (.declared b₁.registry.named.length)) b₁
      = (.ok (), b₁.noted (.declared b₁.registry.named.length)) := rfl
  unfold buildGraph at h
  rw [run_bind_of_ok hadd, run_bind_of_ok (run_graph b₁), run_bind_of_ok hnote,
    run_bind_of_ok hcollect] at h
  obtain ⟨_, b₃, hlink, h⟩ := run_bind_ok h
  obtain ⟨rfl, rfl⟩ := run_pure_ok h
  obtain ⟨hb, -, -, hclosed⟩ := hb₂.linkAll hlink
  refine ⟨hb, ?_⟩
  have hrest : linkFrom d.componentsOrNone w.unvisited w.stack w.builder = (.ok (), b₃) :=
    hvisits.linkFrom_eq.symm.trans hlink
  rcases linkFrom_provides (hvisits.linkable hb₂) (.inl ⟨hint, hsource⟩) hrest with ⟨_, hw⟩ | hholds
  · -- nothing waits once every container is linked
    exact absurd (hb.complete.ready.sound.sources hw) (hclosed id)
  · exact hholds

/-- The type of a container in the data of a document has its elements in nullable form just when the
    definition that their schema leads to is marked so, unless it lists the values of the items of an
    array. Whether a reference to the definition is marked has no say in it. -/
theorem elements_nullable_iff (hc : (Entries.keys d.componentsOrNone.schemas).Nodup)
    {data : CodeGenData} (h : (d.codeGenData options).value = .ok data)
    (hs : d.Awaits options id s) :
    ∃ m t e, data.nodes[id]? = some m ∧ m.kind.isContainer = true ∧
      d.componentsOrNone.resolve s = .ok t ∧
      (∀ lang ∈ options.languages, ∃ mapped, m.mapped.get? lang = some mapped ∧
        mapped.type = (nullableIf m.isNullable (ofContainer m.kind e)).render lang) ∧
      (e.admitsNull = true ↔ t.nullable = some true ∧ ¬ (m.kind = .array ∧ t.form = .literal)) := by
  obtain ⟨r, ops, hfinished, rfl⟩ := codeGenData_ok h
  obtain ⟨collected, b, flat, hrun, hflat, rfl, -, -⟩ := finished_ok hfinished
  obtain ⟨hb, m₀, l, t, hm₀, hk, hlink, ht, helem⟩ := buildGraph_holdsElements hc hrun hs
  have hdecorates := Registry.decorates_flatten hflat
  -- the node and its elements are still there when the composites are split
  obtain ⟨m, hm, hd⟩ := hdecorates.node hm₀
  have hflatElem : flat.IsElementOf id t l := by
    refine helem.kept (fun n hn => ?_) fun n hn => ?_
    · obtain ⟨n', hn', hd'⟩ := hdecorates.node hn
      exact ⟨n', hn', hd'.alike.name, hd'.alike.kind, hd'.alike.isNullable⟩
    · rw [hdecorates.lookup, hn]
  obtain ⟨n, hn, hnull, hform⟩ := hflatElem.node
  have hcanonical : flat.canonical l = l := by
    rw [hdecorates.canonical_eq]
    exact (hb.links hm₀ hlink).canonical
  rw [← hd.alike.kind] at hk
  obtain ⟨e, htype, hnullable⟩ := Registry.typeExpr_container hm hk (hd.link.trans hlink) hn hcanonical
    hflatElem.named
  refine ⟨{ m with mapped := m.mapped.fill options.languages (flat.mappedType id m) }, t, e, ?_, hk, ht,
    fun lang hlang => ⟨flat.mappedType id m lang, ?_, ?_⟩, ?_⟩
  · show (flat.mapLanguages options.languages).node? id = _
    rw [Registry.node?_mapLanguages, hm]
    rfl
  · rw [PerLanguage.get?_fill, if_pos hlang]
  · rw [Registry.mappedType, htype]
  · rw [hnullable, hnull, hform]
    cases hmark : t.nullable with
    | none => simp
    | some mark => simp

/-- A document with an array of pets or null, where only the reference is marked, and an array of names
    or null, where the schema itself is. -/
def petsDocument : Document where
  openapi := "3.0.0"
  info := { title := "Pets", version := "1" }
  components := some
    { schemas :=
        [("Pet", .inline
            { type := some (.single .object)
              properties := [("name", .inline { type := some (.single .string) })] }),
          ("Pets", .inline
            { type := some (.single .array)
              items := some (.ref "#/components/schemas/Pet" (some true)) }),
          ("Names", .inline
            { type := some (.single .array)
              items := some (.inline
                { type := some (.single .string), nullable := some true }) })] }

/-- What waits once the operations are collected waits while the containers are linked. -/
theorem awaits_of_source {b₁ b₂ : Builder} {ops : List Operation} (hint : String)
    (hadd : run (addComponents d.componentsOrNone) {} = (.ok (), b₁))
    (hcollect : run (collect d options) (b₁.noted (.declared b₁.registry.named.length))
      = (.ok ops, b₂))
    (hs : b₂.source? id = some ⟨hint, some s⟩) : d.Awaits options id s :=
  ⟨b₁, b₂, ops, 0, start b₂, hint, hadd, hcollect, .none, hs⟩

theorem awaits_pets : petsDocument.Awaits {} 1 (.ref "#/components/schemas/Pet" (some true)) :=
  awaits_of_source "PetsItem" rfl rfl rfl

theorem awaits_names : petsDocument.Awaits {} 2
    (.inline { type := some (.single .string), nullable := some true }) :=
  awaits_of_source "NamesItem" rfl rfl rfl

theorem elements_nullable_iff_names : ∃ data m e,
    (petsDocument.codeGenData {}).value = .ok data ∧ data.nodes[2]? = some m ∧
      (∃ mapped, m.mapped.get? .typescript = some mapped ∧
        mapped.type = (nullableIf m.isNullable (ofContainer m.kind e)).render .typescript) ∧
      e.admitsNull = true := by
  obtain ⟨data, hdata⟩ := exists_eq_ok_of_isOk
    (show (petsDocument.codeGenData {}).value.isOk = true by decide +kernel)
  obtain ⟨m, t, e, hm, -, ht, hmapped, hnull⟩ :=
    elements_nullable_iff (by decide) hdata awaits_names
  cases ht
  refine ⟨data, m, e, hdata, hm, hmapped .typescript (by decide), hnull.2 ⟨rfl, ?_⟩⟩
  rintro ⟨-, hform⟩
  cases hform

/-- Whether the first two nodes of a graph are a named model and an array of it, neither of which
    admits null. -/
def isArrayOfNamed (r : Registry) (name : String) : Bool :=
  r.holds 1 (fun m => m.kind = .array && m.link = some 0 && !m.isNullable) &&
    r.holds 0 (fun n => n.name = name && n.kind ≠ .enum && !n.isNullable) &&
    r.canonical 0 = 0 && r.isNamed 0

theorem typeExpr_of_isArrayOfNamed {r : Registry} {name : String}
    (h : isArrayOfNamed r name = true) : ∃ m, r.node? 1 = some m ∧ m.kind = .array ∧
      m.isNullable = false ∧ r.typeExpr 1 = .array (.named name) := by
  simp only [isArrayOfNamed, Registry.holds, Bool.and_eq_true, Option.any_eq_true,
    decide_eq_true_eq, Bool.not_eq_true'] at h
  obtain ⟨⟨⟨⟨m, hm, ⟨hk, hlink⟩, hnull⟩, n, hn, ⟨rfl, henum⟩, hnull'⟩, hcanonical⟩, hnamed⟩ := h
  refine ⟨m, hm, hk, hnull, ?_⟩
  rw [Registry.typeExpr_array_of_named hm hk hlink hn hcanonical hnamed henum, hnull, hnull']
  rfl

/-- A mark on the reference to the items does not reach the type of an array. -/
theorem elements_nullable_reference :
    ¬ ∀ data m id s, (petsDocument.codeGenData {}).value = .ok data → data.nodes[id]? = some m →
      petsDocument.Awaits {} id s → s.marksNull = true → ∃ mapped e,
        m.mapped.get? .typescript = some mapped ∧
          mapped.type = (nullableIf m.isNullable (ofContainer m.kind (.nullable e))).render
            .typescript := by
  intro hall
  obtain ⟨data, hdata⟩ := exists_eq_ok_of_isOk
    (show (petsDocument.codeGenData {}).value.isOk = true by decide +kernel)
  have hgraph : (run (petsDocument.buildGraph {}) {}).2.registry.flatten.value.toOption.all
      (isArrayOfNamed · "Pet") = true := by decide +kernel
  obtain ⟨r, ops, hfinished, rfl⟩ := codeGenData_ok hdata
  obtain ⟨collected, b, flat, hrun, hflat, rfl, -, -⟩ := finished_ok hfinished
  rw [hrun, hflat] at hgraph
  obtain ⟨m, hm, hk, hnull, htype⟩ := typeExpr_of_isArrayOfNamed hgraph
  have hnode := Registry.node?_mapLanguages flat Language.all 1
  rw [hm] at hnode
  obtain ⟨mapped, e, hmapped, htext⟩ := hall _ _ 1 _ hdata hnode awaits_pets rfl
  rw [PerLanguage.get?_fill, if_pos (by decide)] at hmapped
  cases hmapped
  have htext : (flat.typeExpr 1).render .typescript
      = (nullableIf m.isNullable (ofContainer m.kind (.nullable e))).render .typescript := htext
  rw [htype, hk, hnull] at htext
  have hrender : "Array<" ++ identifier "Pet" .model .typescript ++ ">"
      = "Array<" ++ (e.render .typescript ++ " | null") ++ ">" := htext
  have hname : identifier "Pet" .model .typescript = "Pet" := by decide +kernel
  rw [hname] at hrender
  -- the text of an array of a type in nullable form ends otherwise
  have hsuffix : " | null>".toList <:+ ("Array<" ++ "Pet" ++ ">").toList := by
    rw [hrender]
    exact ⟨"Array<".toList ++ (e.render .typescript).toList, by simp⟩
  revert hsuffix
  decide

end Document

end OpenApi
