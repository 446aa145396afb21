import OpenApi.Proofs.Elements
import OpenApi.Proofs.Lookups
import OpenApi.Proofs.Words

set_option autoImplicit false

/-! # The identifiers of models

Models have distinct names, but an identifier takes its name in another case form and may escape it.
`identifier_model_eq_iff` says when two names make one identifier: they have one class name, or the
class name of one is what the other is escaped to. `Document.identifiers_eq_iff` says so of the
models of a document; that it does happen shows `Document.identifiers_petOwner`. -/

namespace OpenApi

/-! ## Case forms of joined names -/

namespace Text

theorem pascalCase_append_underscore (s t : String) :
    pascalCase (s ++ "_" ++ t) = pascalCase s ++ pascalCase t := by
  have hchars : (s ++ "_" ++ t).toList = s.toList ++ '_' :: t.toList := by simp
  rw [pascalCase, hchars, words_append_cons (by decide), List.flatMap_append, String.ofList_append]
  rfl

/-- The class name of an escaped name has the escape in front. -/
theorem pascalCase_escape (s : String) :
    pascalCase (Role.model.escape ++ s) = "Model" ++ pascalCase s := by
  have hword : pascalCase "model" = "Model" := by decide +kernel
  have hsplit : Role.model.escape = "model" ++ "_" := by decide
  rw [hsplit, pascalCase_append_underscore, hword]

end Text

/-! ## Escaped class names -/

/-- The name of a model in the case form of classes. -/
def className (name : String) : String := Text.pascalCase (CasedName.sanitize name)

/-- Whether one name is escaped to what the other is called without an escape. -/
def EscapesTo (lang : Language) (a b : String) : Prop :=
  needsEscape lang (className a) = true ∧ needsEscape lang (className b) = false ∧
    className b = "Model" ++ className a

theorem identifier_model (name : String) (lang : Language) :
    identifier name .model lang =
      if needsEscape lang (className name) then "Model" ++ className name else className name := by
  rw [className, ← Text.pascalCase_escape]
  rfl

/-- When two names make one identifier. -/
theorem identifier_model_eq_iff {a b : String} {lang : Language} :
    identifier a .model lang = identifier b .model lang ↔
      className a = className b ∨ EscapesTo lang a b ∨ EscapesTo lang b a := by
  rw [identifier_model, identifier_model]
  unfold EscapesTo
  by_cases ha : needsEscape lang (className a) = true
  · by_cases hb : needsEscape lang (className b) = true
    · simp [ha, hb]
    · have hne : className a ≠ className b := by
        intro heq
        rw [heq] at ha
        exact hb ha
      simp [ha, hb, hne, eq_comm]
  · by_cases hb : needsEscape lang (className b) = true
    · have hne : className a ≠ className b := by
        intro heq
        rw [heq] at ha
        exact ha hb
      simp [ha, hb, hne]
    · simp [ha, hb]

/-! ## The models of a document -/

namespace Registry

variable {r : Registry} {langs : List Language} {lang : Language} {id : ModelId}

/-- A model is a node that is registered under its name. -/
theorem IndexesNames.exists_node (h : r.IndexesNames) (hid : id ∈ Assembly.sortedModels r) :
    ∃ m, r.node? id = some m ∧ r.lookup m.name = some id := by
  obtain ⟨⟨n, id⟩, hn, rfl⟩ := List.mem_map.1 (Assembly.mem_sortedModels.1 hid)
  obtain ⟨m, hm, rfl⟩ := h.entries n id hn
  exact ⟨m, hm, h.lookup_eq_some_iff.2 hn⟩

/-- A model is called by the identifier of its name in each of the languages. -/
theorem exists_mapped {m : Model} (hm : (r.mapLanguages langs).node? id = some m)
    (hnamed : (r.mapLanguages langs).lookup m.name = some id) (hlang : lang ∈ langs) :
    ∃ t, m.mapped.get? lang = some t ∧ t.identifier = identifier m.name .model lang := by
  have hr : r.isNamed id = true :=
    (decorates_mapLanguages r langs).isNamed_eq id ▸ isNamed_iff.2 ⟨m, hm, hnamed⟩
  rw [node?_mapLanguages] at hm
  obtain ⟨m₀, -, rfl⟩ := Option.map_eq_some_iff.1 hm
  refine ⟨_, by rw [PerLanguage.get?_fill, if_pos hlang], ?_⟩
  simp [mappedType, identifierOf, hr]

end Registry

namespace Document

open Build

variable {d : Document} {options : Options} {data : CodeGenData}

/-- Different models of a document have different names, and each is called by the identifier of its name
    in every language that is asked for. So two of them share their identifier just when their names
    have one class name or the class name of one is what the other is escaped to. -/
theorem identifiers_eq_iff (hc : (Entries.keys d.componentsOrNone.schemas).Nodup)
    (h : (d.codeGenData options).value = .ok data) {a b : ModelId} (ha : a ∈ data.models)
    (hb : b ∈ data.models) (hne : a ≠ b) :
    ∃ m n, data.nodes[a]? = some m ∧ data.nodes[b]? = some n ∧ m.name ≠ n.name ∧
      ∀ lang ∈ options.languages, ∃ t u,
        m.mapped.get? lang = some t ∧ t.identifier = identifier m.name .model lang ∧
        n.mapped.get? lang = some u ∧ u.identifier = identifier n.name .model lang ∧
        (t.identifier = u.identifier ↔ className m.name = className n.name ∨
          EscapesTo lang m.name n.name ∨ EscapesTo lang n.name m.name) := by
  obtain ⟨r, ops, hfinished, rfl⟩ := codeGenData_ok h
  have hindex := finished_indexesNames hc hfinished
  obtain ⟨collected, builder, flat, -, -, rfl, -, -⟩ := finished_ok hfinished
  obtain ⟨m, hm, hfoundm⟩ := hindex.exists_node (List.mem_toArray.1 ha)
  obtain ⟨n, hn, hfoundn⟩ := hindex.exists_node (List.mem_toArray.1 hb)
  have hnames : m.name ≠ n.name := by
    intro heq
    rw [heq, hfoundn] at hfoundm
    exact hne (Option.some.inj hfoundm).symm
  refine ⟨m, n, hm, hn, hnames, fun lang hlang => ?_⟩
  obtain ⟨t, ht, hidm⟩ := Registry.exists_mapped hm hfoundm hlang
  obtain ⟨u, hu, hidn⟩ := Registry.exists_mapped hn hfoundn hlang
  refine ⟨t, u, ht, hidm, hu, hidn, ?_⟩
  rw [hidm, hidn]
  exact identifier_model_eq_iff

/-- Whether a node in the graph of a document is registered under its name. -/
def hasModel (d : Document) (options : Options) (n : String) (id : ModelId) : Bool :=
  (run (d.buildGraph options) {}).2.registry.flatten.value.toOption.all fun r =>
    r.holds id (·.name = n) && r.lookup n = some id

/-- What is a model in the graph of a document is one in its data. -/
theorem exists_model_of_hasModel (h : (d.codeGenData options).value = .ok data) {n : String}
    {id : ModelId} (hid : d.hasModel options n id = true) :
    id ∈ data.models ∧ ∃ m, data.nodes[id]? = some m ∧ m.name = n ∧
      ∀ lang ∈ options.languages, ∃ t, m.mapped.get? lang = some t ∧
        t.identifier = identifier n .model lang := by
  obtain ⟨r, ops, hfinished, rfl⟩ := codeGenData_ok h
  obtain ⟨collected, b, flat, hrun, hflat, rfl, -, -⟩ := finished_ok hfinished
  rw [hasModel, hrun, hflat] at hid
  simp only [Except.toOption, Option.all_some, Registry.holds, Bool.and_eq_true,
    Option.any_eq_true, decide_eq_true_eq] at hid
  obtain ⟨⟨m, hm, rfl⟩, hfound⟩ := hid
  have hnode := Registry.node?_mapLanguages flat options.languages id
  rw [hm] at hnode
  refine ⟨List.mem_toArray.2 (Assembly.mem_sortedModels.2 ?_), _, hnode, rfl, fun lang hlang => ?_⟩
  · exact List.mem_map.2 ⟨_, Entries.mem_of_get? hfound, rfl⟩
  · exact Registry.exists_mapped hnode hfound hlang

/-- Two components of which one is escaped to the other in one of the languages. -/
def noneDocument : Document where
  openapi := "3.0.3"
  info := { title := "Nothing", version := "1" }
  components := some
    { schemas :=
        [("none", .inline { type := some (.single .object), additional := some (.allowed false) }),
          ("ModelNone", .inline
            { type := some (.single .object), additional := some (.allowed false) })] }

theorem identifiers_eq_iff_none : ∃ data m n, (noneDocument.codeGenData {}).value = .ok data ∧
    data.nodes[0]? = some m ∧ data.nodes[1]? = some n ∧
    (∃ t u, m.mapped.get? .python = some t ∧ n.mapped.get? .python = some u ∧
      t.identifier = u.identifier) ∧
    ∃ t u, m.mapped.get? .typescript = some t ∧ n.mapped.get? .typescript = some u ∧
      t.identifier ≠ u.identifier := by
  obtain ⟨data, hdata⟩ := exists_eq_ok_of_isOk
    (show (noneDocument.codeGenData {}).value.isOk = true by decide +kernel)
  obtain ⟨ha, m, hm, hnamem, -⟩ := exists_model_of_hasModel hdata
    (show noneDocument.hasModel {} "none" 0 = true by decide +kernel)
  obtain ⟨hb, n, hn, hnamen, -⟩ := exists_model_of_hasModel hdata
    (show noneDocument.hasModel {} "ModelNone" 1 = true by decide +kernel)
  obtain ⟨_, _, hm', hn', -, hlang⟩ := identifiers_eq_iff (by decide) hdata ha hb (by decide)
  cases hm.symm.trans hm'
  cases hn.symm.trans hn'
  rw [hnamem, hnamen] at hlang
  obtain ⟨t, u, ht, -, hu, -, hiff⟩ := hlang .python (by decide)
  obtain ⟨t', u', ht', -, hu', -, hiff'⟩ := hlang .typescript (by decide)
  refine ⟨data, m, n, hdata, hm, hn, ⟨t, u, ht, hu, hiff.2 ?_⟩, t', u', ht', hu', fun heq => ?_⟩
  · exact .inr (.inl (by unfold EscapesTo; decide +kernel))
  · have hnot : ¬ (className "none" = className "ModelNone" ∨
        EscapesTo .typescript "none" "ModelNone" ∨ EscapesTo .typescript "ModelNone" "none") := by
      unfold EscapesTo
      decide +kernel
    exact hnot (hiff'.1 heq)

/-- A component with a property that is promoted under a name that differs from that of another
    component, but not as a class name. -/
def petOwnerDocument : Document where
  openapi := "3.0.3"
  info := { title := "Pets", version := "1" }
  components := some
    { schemas :=
        [("Pet", .inline
            { type := some (.single .object)
              properties := [("owner", .inline
                { type := some (.single .object)
                  properties := [("name", .inline { type := some (.single .string) })] })] }),
          ("pet_owner", .inline
            { type := some (.single .object)
              properties := [("email", .inline { type := some (.single .string) })] })] }

/-- A promoted schema gets a name that no component has, and still the identifier of one. -/
theorem identifiers_petOwner : ∃ data m n, (petOwnerDocument.codeGenData {}).value = .ok data ∧
    1 ∈ data.models ∧ data.nodes[1]? = some m ∧ m.name = "pet_owner" ∧
    2 ∈ data.models ∧ data.nodes[2]? = some n ∧ n.name = "PetOwner" ∧
    ∀ lang, ∃ t u, m.mapped.get? lang = some t ∧ n.mapped.get? lang = some u ∧
      t.identifier = "PetOwner" ∧ u.identifier = "PetOwner" := by
  obtain ⟨data, hdata⟩ := exists_eq_ok_of_isOk
    (show (petOwnerDocument.codeGenData {}).value.isOk = true by decide +kernel)
  obtain ⟨ha, m, hm, hnamem, hidm⟩ := exists_model_of_hasModel hdata
    (show petOwnerDocument.hasModel {} "pet_owner" 1 = true by decide +kernel)
  obtain ⟨hb, n, hn, hnamen, hidn⟩ := exists_model_of_hasModel hdata
    (show petOwnerDocument.hasModel {} "PetOwner" 2 = true by decide +kernel)
  have hcomponent : ∀ lang, identifier "pet_owner" .model lang = "PetOwner" := by
    intro lang
    cases lang <;> decide +kernel
  have hpromoted : ∀ lang, identifier "PetOwner" .model lang = "PetOwner" := by
    intro lang
    cases lang <;> decide +kernel
  refine ⟨data, m, n, hdata, ha, hm, hnamem, hb, hn, hnamen, fun lang => ?_⟩
  have hlang : lang ∈ Language.all := by cases lang <;> decide
  obtain ⟨t, ht, htext⟩ := hidm lang hlang
  obtain ⟨u, hu, hutext⟩ := hidn lang hlang
  exact ⟨t, u, ht, hu, htext.trans (hcomponent lang), hutext.trans (hpromoted lang)⟩

end Document

end OpenApi
