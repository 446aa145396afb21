import OpenApi.Proofs.Collecting
import OpenApi.Proofs.Results
import OpenApi.Proofs.Walk

set_option autoImplicit false

/-! # Graphs on the way

`Builder.Reachable` are the graphs that the steps of a construction arrive at, in whatever order they
are taken once the components are there. All of them are linkable, and linking them closes every
container: `linkAll_closes`. -/

namespace OpenApi

open Build

/-- The graphs under construction that successful steps arrive at, once the components are added. -/
inductive Builder.Reachable (c : Components) : Builder → Prop
  | components {b : Builder} : run (addComponents c) {} = (.ok (), b) → Reachable c b
  | note {b : Builder} (e : Event) : Reachable c b → Reachable c (b.noted e)
  | occurrence {b b' : Builder} {name hint : String} {s : SchemaOrRef} {id : ModelId} :
      Reachable c b → run (occurrence c name hint s) b = (.ok id, b') → Reachable c b'
  | linkTarget {b b' : Builder} {hint : String} {s : SchemaOrRef} {id : ModelId} :
      Reachable c b → run (linkTarget c hint s) b = (.ok id, b') → Reachable c b'
  | collect {b b' : Builder} {d : Document} {options : Options} {ops : List Operation} :
      Reachable c b → d.componentsOrNone = c → run (collect d options) b = (.ok ops, b') →
      Reachable c b'
  | linkAll {b b' : Builder} : Reachable c b → run (linkAll c) b = (.ok (), b') → Reachable c b'

namespace Builder

variable {c : Components} {b b' : Builder}

/-- There are no links before containers are linked. -/
theorem link_of_addComponents (hc : (Entries.keys c.schemas).Nodup)
    (h : run (addComponents c) {} = (.ok (), b)) {id : ModelId} {m : Model}
    (hm : b.registry.node? id = some m) : m.link = none := by
  obtain ⟨hsteps, -⟩ := addComponents_complete hc h
  exact (Steps.grows hsteps (Sound.empty c)).link hm (Nat.zero_le id)

theorem linkable_of_addComponents (hc : (Entries.keys c.schemas).Nodup)
    (h : run (addComponents c) {} = (.ok (), b)) : b.Linkable c := by
  refine ⟨(addComponents_complete hc h).2, fun {id l m} hm hl => ?_⟩
  rw [link_of_addComponents hc h hm] at hl
  cases hl

/-- Linking a linkable graph closes it. -/
theorem Linkable.linkAll (hb : b.Linkable c) (h : run (linkAll c) b = (.ok (), b')) :
    b'.Linkable c ∧ b.whole.Le c b'.whole ∧ b.LinksOnly b' ∧ ∀ i, ¬ b'.Unlinked i :=
  linkFrom_closes hb (fun i hi => by
    obtain ⟨m, hm, -⟩ := hi
    exact List.mem_range.2 (Registry.node?_eq_some_lt hm)) h

/-- What holds once the components are added, and is kept when nodes are added and when containers are
    linked, holds of every graph on the way. -/
theorem Reachable.invariant {P : Builder → Prop} (hc : (Entries.keys c.schemas).Nodup)
    (hadd : ∀ b, run (addComponents c) {} = (.ok (), b) → P b)
    (hsteps : ∀ b b', b.Linkable c → P b → Steps c (b.registry.nodes.size ≤ ·) b b' → P b')
    (hlink : ∀ b b', b.Linkable c → P b → run (Build.linkAll c) b = (.ok (), b') → P b')
    (hb : b.Reachable c) : b.Linkable c ∧ P b := by
  have hgrown : ∀ b b' : Builder, b.Linkable c ∧ P b →
      Steps c (b.registry.nodes.size ≤ ·) b b' → b'.Linkable c ∧ P b' :=
    fun b b' hb h => ⟨hb.1.grown h, hsteps b b' hb.1 hb.2 h⟩
  induction hb with
  | components h => exact ⟨linkable_of_addComponents hc h, hadd _ h⟩
  | note e _ ih => exact hgrown _ _ ih (.single (.note e))
  | occurrence _ h ih =>
      exact hgrown _ _ ih
        (steps_of_run (occurrence_steps c _ _ _ _ _ ih.1.complete.ready fun _ hi => hi) h)
  | linkTarget _ h ih => exact hgrown _ _ ih (linkTarget_ok ih.1.complete.resolved h).1
  | collect _ hd h ih =>
      subst hd
      exact hgrown _ _ ih (collect_represents ih.1.complete.ready h).1
  | linkAll _ h ih => exact ⟨(ih.1.linkAll h).1, hlink _ _ ih.1 ih.2 h⟩

theorem Reachable.linkable (hc : (Entries.keys c.schemas).Nodup) (hb : b.Reachable c) :
    b.Linkable c :=
  (hb.invariant (P := fun _ => True) hc (fun _ _ => trivial) (fun _ _ _ _ _ => trivial)
    fun _ _ _ _ _ => trivial).1

end Builder

namespace Build

open Builder Walk

variable {c : Components} {b : Builder}

/-- Linking a graph takes no more visits than its load, however many nodes are added on the way.
    When it succeeds, every container has a link, every link is canonical and never an alias or an
    occurrence, nothing but missing links has changed in what was there, and linking once more changes
    nothing. -/
theorem linkAll_closes (hc : (Entries.keys c.schemas).Nodup) (hb : b.Reachable c) :
    (∀ n w, Visits c n (start b) w → n ≤ b.load) ∧
      (∃ n w, Visits c n (start b) w ∧ w.Ends c (run (linkAll c) b)) ∧
      ∀ b', run (linkAll c) b = (.ok (), b') →
        (∀ id m, b'.registry.node? id = some m → m.kind.isContainer → ∃ l, m.link = some l) ∧
        (∀ id m l, b'.registry.node? id = some m → m.link = some l →
          b'.registry.canonical l = l ∧
            ∃ n, b'.registry.node? l = some n ∧ (n.kind = .reference → b'.registry.isObject l)) ∧
        b.LinksOnly b' ∧ run (linkAll c) b' = (.ok (), b') := by
  obtain ⟨n, w, -, hvisits, hends⟩ := linkAll_ends (c := c) b
  refine ⟨fun _ _ h => h.le_load, ⟨n, w, hvisits, hends⟩, fun b' h => ?_⟩
  obtain ⟨hlinkable, -, honly, hall⟩ := (hb.linkable hc).linkAll h
  refine ⟨fun id m hm hk => ?_, fun id m l hm hl => ?_, honly, linkFrom_of_linked hall⟩
  · cases hl : m.link with
    | none => exact absurd ⟨m, hm, hk, hl⟩ (hall id)
    | some l => exact ⟨l, rfl⟩
  · have hsettled := hlinkable.links hm hl
    exact ⟨hsettled.canonical, hsettled.isObject hlinkable.complete.ready.sound.index⟩

end Build

/-- A component whose array refers back to it through an alias and whose promoted property is closed. -/
def treeComponents : Components where
  schemas :=
    [("Tree", .inline
        { type := some (.single .object)
          required := ["children"]
          properties :=
            [("children", .inline
                { type := some (.single .array)
                  items := some (.ref "#/components/schemas/Alias" (some true)) }),
              ("label", .inline
                { type := some (.single .object)
                  additional := some (.allowed false) })] }),
      ("Alias", .ref "#/components/schemas/Tree" none)]

theorem Build.exists_run_eq {α : Type} {m : Build α} {b : Builder} (h : (run m b).1.isOk = true) :
    ∃ a, run m b = (.ok a, (run m b).2) := by
  obtain ⟨a, ha⟩ := exists_eq_ok_of_isOk h
  exact ⟨a, Prod.ext ha rfl⟩

theorem Build.exists_run_ok {b : Builder} {m : Build Unit} (h : (run m b).1.isOk = true) :
    run m b = (.ok (), (run m b).2) := by
  obtain ⟨_, hrun⟩ := exists_run_eq h
  exact hrun

theorem Build.linkAll_closes_tree : ∃ b b', b.Reachable treeComponents ∧
    run (linkAll treeComponents) b = (.ok (), b') ∧
    (∀ id m, b'.registry.node? id = some m → m.kind.isContainer → ∃ l, m.link = some l) ∧
    run (linkAll treeComponents) b' = (.ok (), b') := by
  have hadd := exists_run_ok (b := {}) (m := addComponents treeComponents) (by decide +kernel)
  have hlink := exists_run_ok (b := (run (addComponents treeComponents) {}).2)
    (m := linkAll treeComponents) (by decide +kernel)
  have hclosed := (linkAll_closes (by decide) (.components hadd)).2.2 _ hlink
  exact ⟨_, _, .components hadd, hlink, hclosed.1, hclosed.2.2.2⟩

end OpenApi
