import OpenApi.Model.Links

set_option autoImplicit false

/-! # What it means that a graph represents schemas

`View.Occurs` relates a schema to a node that stands where the schema was found, and `View.Defines` an
inline schema to a node that says what the schema says. Both follow the schema down to its references:
a reference is represented by the name of a model, so the relations are finite even where the models
refer to each other in circles.

A `View` is what the relations look at. While a graph is under construction parts of it are
hidden and elements may wait to be built; `View.Le` is the order in which a view becomes more
complete, and the relations are monotone in it. -/

namespace OpenApi

/-- A graph as far as it is visible: the content of nodes, the links of containers, the registered
    names, and the elements that wait. -/
structure View where
  node : ModelId → Model → Prop
  link : ModelId → ModelId → Prop
  named : String → ModelId → Prop
  waits : ModelId → Option SchemaOrRef → Prop

/-- All of a graph, with nothing waiting. -/
def Registry.view (r : Registry) : View where
  node id m := r.node? id = some m
  link id l := ∃ m, r.node? id = some m ∧ m.link = some l
  named n id := r.lookup n = some id
  waits _ _ := False

/-- A graph under construction, as far as the contents of the nodes in `visible` go. -/
def Builder.view (b : Builder) (visible : ModelId → Prop) : View where
  node id m := visible id ∧ b.registry.node? id = some m
  link id l := ∃ m, b.registry.node? id = some m ∧ m.link = some l
  named n id := b.registry.lookup n = some id
  waits id s := ∃ hint, b.source? id = some ⟨hint, s⟩

/-- All of a graph under construction. -/
abbrev Builder.whole (b : Builder) : View := b.view fun _ => True

/-- The branches that are not the same schema as one before them. -/
def Components.distinctBranches (c : Components) (seen : List SchemaOrRef) :
    List SchemaOrRef → List SchemaOrRef
  | [] => []
  | s :: rest =>
      if seen.any (c.sameSchema · s) then c.distinctBranches seen rest
      else s :: c.distinctBranches (seen ++ [s]) rest

namespace View

variable (c : Components) (v : View)

mutual

/-- The node stands for a schema that was found in its place: it refers to the target of a reference,
    or to the model of a promoted schema, and otherwise says itself what the schema says. -/
inductive Occurs : SchemaOrRef → ModelId → Model → Prop
  | reference {path target : String} {nullable : Option Bool} {id t : ModelId} {m : Model} :
      c.targetName path = .ok target → v.named target t → m.kind = .reference → m.baseType = target →
      m.isNullable = nullable.getD false → Occurs (.ref path nullable) id m
  | promoted {s : Schema} {id t : ModelId} {m model : Model} :
      s.form.isPromoted → m.kind = .reference → v.named m.baseType t → v.node t model →
      model.name = m.baseType → Defines s t model → Occurs (.inline s) id m
  | inPlace {s : Schema} {id : ModelId} {m : Model} :
      ¬ s.form.isPromoted → Defines s id m → Occurs (.inline s) id m

/-- The node says what an inline schema says, according to the form of the schema. -/
inductive Defines : Schema → ModelId → Model → Prop
  | object {s : Schema} {id : ModelId} {m : Model} :
      s.form = .object → m.kind = .reference → m.baseType = m.name → v.named m.name id →
      HasProperties s.required s.properties m.properties → Defines s id m
  | composite {s : Schema} {id : ModelId} {m : Model} {k : Combination} :
      s.form = .composite k → m.kind = .composite k → m.baseType = m.name → v.named m.name id →
      HasConstituents k s m.properties → Defines s id m
  | literal {s : Schema} {id : ModelId} {m : Model} :
      s.form = .literal → m.kind = .enum → m.baseType = s.enumBase →
      m.enumValues = s.literalValues → Defines s id m
  | array {s : Schema} {id : ModelId} {m : Model} :
      s.form = .array → m.kind = .array → HasElements id s.items → Defines s id m
  | dictionary {s : Schema} {value : Option SchemaOrRef} {id : ModelId} {m : Model} :
      s.form = .dictionary value → m.kind = .dictionary → HasElements id value → Defines s id m
  | primitive {s : Schema} {base : String} {id : ModelId} {m : Model} :
      s.form = .primitive base → m.kind = .primitive → m.baseType = base → Defines s id m

/-- The nodes are, in order, occurrences of the properties of an object. -/
inductive HasProperties : List String → List (String × SchemaOrRef) → List ModelId → Prop
  | nil {required : List String} : HasProperties required [] []
  | cons {required : List String} {field : String} {s : SchemaOrRef} {id : ModelId} {m : Model}
      {rest : List (String × SchemaOrRef)} {ids : List ModelId} :
      v.node id m → m.name = field → m.isRequired = required.contains field → Occurs s id m →
      HasProperties required rest ids → HasProperties required ((field, s) :: rest) (id :: ids)

/-- The nodes are, in order, occurrences of branches. -/
inductive HasBranches : List SchemaOrRef → List ModelId → Prop
  | nil : HasBranches [] []
  | cons {s : SchemaOrRef} {id : ModelId} {m : Model} {rest : List SchemaOrRef}
      {ids : List ModelId} :
      v.node id m → Occurs s id m → HasBranches rest ids → HasBranches (s :: rest) (id :: ids)

/-- The nodes are the constituents of a composite: one for each of its distinct branches, and for an
    `allOf` that has properties one more, which refers to an object with these. -/
inductive HasConstituents : Combination → Schema → List ModelId → Prop
  | oneOf {s : Schema} {ids : List ModelId} :
      HasBranches (c.distinctBranches [] s.oneOf) ids → HasConstituents .oneOf s ids
  | anyOf {s : Schema} {ids : List ModelId} :
      HasBranches (c.distinctBranches [] s.anyOf) ids → HasConstituents .anyOf s ids
  | allOf {s : Schema} {ids : List ModelId} :
      s.properties.isEmpty → HasBranches (c.distinctBranches [] s.allOf) ids →
      HasConstituents .allOf s ids
  | allOfOwn {s : Schema} {ids : List ModelId} {own t : ModelId} {m model : Model} :
      ¬ s.properties.isEmpty → HasBranches (c.distinctBranches [] s.allOf) ids →
      v.node own m → m.kind = .reference → v.named m.baseType t → v.node t model →
      model.name = m.baseType → model.kind = .reference → model.baseType = model.name →
      HasProperties s.required s.properties model.properties →
      HasConstituents .allOf s (ids ++ [own])

/-- The elements of a container wait to be built, or it is linked to their node. -/
inductive HasElements : ModelId → Option SchemaOrRef → Prop
  | waiting {id : ModelId} {s : Option SchemaOrRef} : v.waits id s → HasElements id s
  | linked {id l : ModelId} {s : Option SchemaOrRef} :
      v.link id l → IsElement s l → HasElements id s

/-- The node is that of elements: anything, the definition at the end of a reference, or a node that
    says what an inline schema says. -/
inductive IsElement : Option SchemaOrRef → ModelId → Prop
  | any {id : ModelId} {m : Model} :
      v.node id m → m.kind = .primitive → m.baseType = "any" → IsElement none id
  | reference {path name : String} {nullable : Option Bool} {id : ModelId} :
      c.canonicalName path = .ok name → v.named name id → IsElement (some (.ref path nullable)) id
  | inline {s : Schema} {id : ModelId} {m : Model} :
      v.node id m → Defines s id m → IsElement (some (.inline s)) id

end

/-- The model registered under the name of a component refers to the target of a reference, and
    otherwise says what the schema says. -/
inductive IsComponent (name : String) : SchemaOrRef → Prop
  | reference {path target : String} {nullable : Option Bool} {id : ModelId} {m : Model} :
      v.named name id → v.node id m → c.targetName path = .ok target → m.kind = .reference →
      m.baseType = target → m.isNullable = nullable.getD false → IsComponent name (.ref path nullable)
  | definition {s : Schema} {id : ModelId} {m : Model} :
      v.named name id → v.node id m → m.name = name → Defines c v s id m →
      IsComponent name (.inline s)

/-- The kind of the nodes that say what schemas of a form say. -/
def formKind : Form SchemaOrRef → ModelKind
  | .composite k => .composite k
  | .literal => .enum
  | .array => .array
  | .object => .reference
  | .dictionary _ => .dictionary
  | .primitive _ => .primitive

theorem Defines.kind_eq {s : Schema} {id : ModelId} {m : Model} (h : Defines c v s id m) :
    m.kind = formKind s.form := by
  cases h with
  | object hform hk => rw [hform, hk, formKind]
  | composite hform hk => rw [hform, hk, formKind]
  | literal hform hk => rw [hform, hk, formKind]
  | array hform hk => rw [hform, hk, formKind]
  | dictionary hform hk => rw [hform, hk, formKind]
  | primitive hform hk => rw [hform, hk, formKind]

/-- A node that is visible stands for a schema. -/
def Depicts (s : SchemaOrRef) (id : ModelId) : Prop := ∃ m, v.node id m ∧ Occurs c v s id m

/-- A node that is visible stands for the schema of a thing that may have none. -/
def Stands (s : Option SchemaOrRef) (id : ModelId) : Prop :=
  (∃ m, v.node id m) ∧ ∀ t, s = some t → v.Depicts c t id

end View

/-! ## More complete views -/

/-- Equality of nodes in what matters to the schema that they represent. Whether a node is required
    is said by its parent. -/
structure Model.Alike (m m' : Model) : Prop where
  name : m'.name = m.name
  kind : m'.kind = m.kind
  baseType : m'.baseType = m.baseType
  properties : m'.properties = m.properties
  enumValues : m'.enumValues = m.enumValues
  isNullable : m'.isNullable = m.isNullable

theorem Model.Alike.refl (m : Model) : m.Alike m := ⟨rfl, rfl, rfl, rfl, rfl, rfl⟩

theorem Model.Alike.trans {m m₁ m' : Model} (h : m.Alike m₁) (h' : m₁.Alike m') : m.Alike m' where
  name := h'.name.trans h.name
  kind := h'.kind.trans h.kind
  baseType := h'.baseType.trans h.baseType
  properties := h'.properties.trans h.properties
  enumValues := h'.enumValues.trans h.enumValues
  isNullable := h'.isNullable.trans h.isNullable

namespace View

/-- A view becomes more complete: nothing is lost but waiting elements that are built. -/
structure Le (c : Components) (v v' : View) : Prop where
  node : ∀ {id : ModelId} {m : Model}, v.node id m →
    ∃ m', v'.node id m' ∧ m.Alike m' ∧ m'.isRequired = m.isRequired
  link : ∀ {id l : ModelId}, v.link id l → v'.link id l
  named : ∀ {n : String} {id : ModelId}, v.named n id → v'.named n id
  waits : ∀ {id : ModelId} {s : Option SchemaOrRef}, v.waits id s → HasElements c v' id s

variable {c : Components} {v v' : View}

mutual

theorem Occurs.mono (h : v.Le c v') {s : SchemaOrRef} {id : ModelId} {m m' : Model}
    (hm : m.Alike m') : Occurs c v s id m → Occurs c v' s id m'
  | .reference htarget hname hk hbase hnull =>
      .reference htarget (h.named hname) (hm.kind.trans hk) (hm.baseType.trans hbase)
        (hm.isNullable.trans hnull)
  | .promoted hform hk hname hnode hmodel hdef => by
      obtain ⟨model', hnode', halike, -⟩ := h.node hnode
      exact .promoted hform (hm.kind.trans hk) (hm.baseType.symm ▸ h.named hname) hnode'
        (halike.name.trans (hmodel.trans hm.baseType.symm)) (hdef.mono h halike)
  | .inPlace hform hdef => .inPlace hform (hdef.mono h hm)

theorem Defines.mono (h : v.Le c v') {s : Schema} {id : ModelId} {m m' : Model} (hm : m.Alike m') :
    Defines c v s id m → Defines c v' s id m'
  | .object hform hk hbase hname hprops =>
      .object hform (hm.kind.trans hk) (hm.baseType.trans (hbase.trans hm.name.symm))
        (hm.name.symm ▸ h.named hname) (hm.properties.symm ▸ hprops.mono h)
  | .composite hform hk hbase hname hcons =>
      .composite hform (hm.kind.trans hk) (hm.baseType.trans (hbase.trans hm.name.symm))
        (hm.name.symm ▸ h.named hname) (hm.properties.symm ▸ hcons.mono h)
  | .literal hform hk hbase hvalues =>
      .literal hform (hm.kind.trans hk) (hm.baseType.trans hbase) (hm.enumValues.trans hvalues)
  | .array hform hk helems => .array hform (hm.kind.trans hk) (helems.mono h)
  | .dictionary hform hk helems => .dictionary hform (hm.kind.trans hk) (helems.mono h)
  | .primitive hform hk hbase => .primitive hform (hm.kind.trans hk) (hm.baseType.trans hbase)

theorem HasProperties.mono (h : v.Le c v') {required : List String}
    {ps : List (String × SchemaOrRef)} {ids : List ModelId} :
    HasProperties c v required ps ids → HasProperties c v' required ps ids
  | .nil => .nil
  | .cons hnode hname hreq hocc hrest => by
      obtain ⟨m', hnode', halike, hreq'⟩ := h.node hnode
      exact .cons hnode' (halike.name.trans hname) (hreq'.trans hreq) (hocc.mono h halike)
        (hrest.mono h)

theorem HasBranches.mono (h : v.Le c v') {bs : List SchemaOrRef} {ids : List ModelId} :
    HasBranches c v bs ids → HasBranches c v' bs ids
  | .nil => .nil
  | .cons hnode hocc hrest => by
      obtain ⟨m', hnode', halike, -⟩ := h.node hnode
      exact .cons hnode' (hocc.mono h halike) (hrest.mono h)

theorem HasConstituents.mono (h : v.Le c v') {k : Combination} {s : Schema} {ids : List ModelId} :
    HasConstituents c v k s ids → HasConstituents c v' k s ids
  | .oneOf hbs => .oneOf (hbs.mono h)
  | .anyOf hbs => .anyOf (hbs.mono h)
  | .allOf hempty hbs => .allOf hempty (hbs.mono h)
  | .allOfOwn hempty hbs hown hk hname hnode hmodel hmk hmb hprops => by
      obtain ⟨m', hown', halike, -⟩ := h.node hown
      obtain ⟨model', hnode', halike', -⟩ := h.node hnode
      exact .allOfOwn hempty (hbs.mono h) hown' (halike.kind.trans hk)
        (halike.baseType.symm ▸ h.named hname) hnode'
        (halike'.name.trans (hmodel.trans halike.baseType.symm)) (halike'.kind.trans hmk)
        (halike'.baseType.trans (hmb.trans halike'.name.symm))
        (halike'.properties.symm ▸ hprops.mono h)

theorem HasElements.mono (h : v.Le c v') {id : ModelId} {s : Option SchemaOrRef} :
    HasElements c v id s → HasElements c v' id s
  | .waiting hwaits => h.waits hwaits
  | .linked hlink helem => .linked (h.link hlink) (helem.mono h)

theorem IsElement.mono (h : v.Le c v') {id : ModelId} {s : Option SchemaOrRef} :
    IsElement c v s id → IsElement c v' s id
  | .any hnode hk hbase => by
      obtain ⟨m', hnode', halike, -⟩ := h.node hnode
      exact .any hnode' (halike.kind.trans hk) (halike.baseType.trans hbase)
  | .reference hname hid => .reference hname (h.named hid)
  | .inline hnode hdef => by
      obtain ⟨m', hnode', halike, -⟩ := h.node hnode
      exact .inline hnode' (hdef.mono h halike)

end

theorem Le.trans {v₁ : View} (h : v.Le c v₁) (h' : v₁.Le c v') : v.Le c v' where
  node hm := by
    obtain ⟨m₁, hm₁, halike, hreq⟩ := h.node hm
    obtain ⟨m', hm', halike', hreq'⟩ := h'.node hm₁
    exact ⟨m', hm', halike.trans halike', hreq'.trans hreq⟩
  link hl := h'.link (h.link hl)
  named hn := h'.named (h.named hn)
  waits hs := (h.waits hs).mono h'

theorem IsComponent.mono (h : v.Le c v') {name : String} {s : SchemaOrRef}
    (hs : IsComponent c v name s) : IsComponent c v' name s := by
  cases hs with
  | reference hname hnode htarget hk hbase hnull =>
      obtain ⟨m', hnode', halike, -⟩ := h.node hnode
      exact .reference (h.named hname) hnode' htarget (halike.kind.trans hk) (halike.baseType.trans hbase)
        (halike.isNullable.trans hnull)
  | definition hname hnode hn hdef =>
      obtain ⟨m', hnode', halike, -⟩ := h.node hnode
      exact .definition (h.named hname) hnode' (halike.name.trans hn) (hdef.mono h halike)

theorem Depicts.mono (h : v.Le c v') {s : SchemaOrRef} {id : ModelId} (hs : v.Depicts c s id) :
    v'.Depicts c s id := by
  obtain ⟨m, hnode, hocc⟩ := hs
  obtain ⟨m', hnode', halike, -⟩ := h.node hnode
  exact ⟨m', hnode', hocc.mono h halike⟩

theorem Stands.mono (h : v.Le c v') {s : Option SchemaOrRef} {id : ModelId}
    (hs : v.Stands c s id) : v'.Stands c s id := by
  obtain ⟨⟨m, hm⟩, hs⟩ := hs
  obtain ⟨m', hm', -⟩ := h.node hm
  exact ⟨⟨m', hm'⟩, fun t ht => (hs t ht).mono h⟩

end View

end OpenApi
