import Mathlib.Data.List.Pairwise
import Mathlib.Data.List.Perm.Basic
import OpenApi.Proofs.Following
import OpenApi.Proofs.Reachable

set_option autoImplicit false

/-! # Equality up to references

`Components.sameSchema` compares two references by the components that they lead to, and any other two
schemas by their definitions. It is reflexive and symmetric, and it is transitive but for one case
(`sameSchema_trans_iff`): two references to different components with equal definitions are the same as
one inline schema, and not the same as each other. Among branches without this case, leaving out those
that are the same as an earlier one keeps one of each kind in every order
(`existsUnique_mem_distinctBranches`). -/

namespace OpenApi

namespace Components

variable {c : Components} {a b d : SchemaOrRef} {p q e : String} {m n : Option Bool} {s t : Schema}

/-! ## The same schema -/

/-- References are the same with the same path, and with the same component at their ends. -/
theorem sameSchema_ref_ref : c.sameSchema (.ref p m) (.ref q n) = true ↔
    p = q ∨ ∃ e, c.canonicalName p = .ok e ∧ c.canonicalName q = .ok e := by
  rw [sameSchema]
  cases hp : c.canonicalName p with
  | error err => simp
  | ok e =>
      cases hq : c.canonicalName q with
      | error err => simp
      | ok f =>
          have hpq : p = q → e = f := by
            rintro rfl
            rw [hp] at hq
            exact Except.ok.inj hq
          simp only [decide_eq_true_iff, Except.ok.injEq, exists_eq_left']
          exact ⟨fun h => .inr h.symm, fun h => h.elim hpq Eq.symm⟩

/-- A reference is the same as an inline schema when its definition is. -/
theorem sameSchema_ref_inline : c.sameSchema (.ref p m) (.inline t) = true ↔
    ∃ s, c.resolve (.ref p m) = .ok s ∧ Json.equal (Schema.toJson s) (Schema.toJson t) = true := by
  cases h : c.resolve (.ref p m) with
  | error err => simp [sameSchema, h, SchemaOrRef.equal]
  | ok s => simp [sameSchema, h, show c.resolve (.inline t) = .ok t from rfl]

theorem sameSchema_inline_ref : c.sameSchema (.inline t) (.ref p m) = true ↔
    ∃ s, c.resolve (.ref p m) = .ok s ∧ Json.equal (Schema.toJson t) (Schema.toJson s) = true := by
  cases h : c.resolve (.ref p m) with
  | error err => simp [sameSchema, h, SchemaOrRef.equal]
  | ok s => simp [sameSchema, h, show c.resolve (.inline t) = .ok t from rfl]

theorem sameSchema_inline_inline : c.sameSchema (.inline s) (.inline t) = true ↔
    Json.equal (Schema.toJson s) (Schema.toJson t) = true := Iff.rfl

/-- References that are the same have the same definition. -/
theorem resolve_eq_of_sameSchema (h : c.sameSchema (.ref p m) (.ref q n) = true) :
    c.resolve (.ref p m) = c.resolve (.ref q n) := by
  rcases sameSchema_ref_ref.1 h with rfl | ⟨e, hp, hq⟩
  · rfl
  · exact resolve_eq_of_canonicalName hp hq

theorem sameSchema_refl (c : Components) (a : SchemaOrRef) : c.sameSchema a a = true := by
  cases a with
  | ref p m => exact sameSchema_ref_ref.2 (.inl rfl)
  | inline s => exact Json.equal_refl (Schema.toJson s)

theorem sameSchema_comm (c : Components) (a b : SchemaOrRef) : c.sameSchema a b = c.sameSchema b a := by
  rw [Bool.eq_iff_iff]
  cases a with
  | ref p m =>
      cases b with
      | ref q n =>
          rw [sameSchema_ref_ref, sameSchema_ref_ref, eq_comm]
          simp only [and_comm]
      | inline t =>
          rw [sameSchema_ref_inline, sameSchema_inline_ref]
          simp only [Json.equal_comm]
  | inline s =>
      cases b with
      | ref q n =>
          rw [sameSchema_ref_inline, sameSchema_inline_ref]
          simp only [Json.equal_comm]
      | inline t =>
          rw [sameSchema_inline_inline, sameSchema_inline_inline, Json.equal_comm]

/-- Between two references to different components stands an inline schema. -/
inductive Divided (c : Components) : SchemaOrRef → SchemaOrRef → SchemaOrRef → Prop
  | intro {p q e f : String} {m n : Option Bool} {s : Schema} : c.canonicalName p = .ok e →
      c.canonicalName q = .ok f → e ≠ f → Divided c (.ref p m) (.inline s) (.ref q n)

/-- References to different components are not the same. -/
theorem Divided.not_same (h : c.Divided a b d) : c.sameSchema a d = false := by
  cases h with
  | @intro p q e f m n _ hp hq hne =>
      rw [Bool.eq_false_iff, ne_eq, sameSchema_ref_ref]
      rintro (rfl | ⟨g, hpg, hqg⟩)
      · exact hne (Except.ok.inj (hp.symm.trans hq))
      · exact hne (Except.ok.inj (hp.symm.trans (hpg.trans (hqg.symm.trans hq))))

/-- Sameness carries over, but for two references to different components, which are not the same
    even where their definitions are. -/
theorem sameSchema_trans_iff (hab : c.sameSchema a b = true) (hbd : c.sameSchema b d = true) :
    c.sameSchema a d = true ↔ ¬ c.Divided a b d := by
  constructor
  · intro had hdiv
    rw [hdiv.not_same] at had
    cases had
  intro hdiv
  cases a with
  | ref p m =>
      cases b with
      | ref q n =>
          cases d with
          | ref r k => 
              rcases sameSchema_ref_ref.1 hab with rfl | ⟨e, hp, hq⟩
              · exact hbd
              · rcases sameSchema_ref_ref.1 hbd with rfl | ⟨f, hq', hr⟩
                · exact sameSchema_ref_ref.2 (.inr ⟨e, hp, hq⟩)
                · cases hq.symm.trans hq'
                  exact sameSchema_ref_ref.2 (.inr ⟨e, hp, hr⟩)
          | inline u =>
              obtain ⟨s, hs, hsu⟩ := sameSchema_ref_inline.1 hbd
              exact sameSchema_ref_inline.2 ⟨s, (resolve_eq_of_sameSchema hab).trans hs, hsu⟩
      | inline t =>
          obtain ⟨s, hs, hst⟩ := sameSchema_ref_inline.1 hab
          cases d with
          | ref r k =>
              obtain ⟨u, hu, -⟩ := sameSchema_inline_ref.1 hbd
              obtain ⟨e, he⟩ := exists_canonicalName hs
              obtain ⟨f, hf⟩ := exists_canonicalName hu
              by_cases hef : e = f
              · exact sameSchema_ref_ref.2 (.inr ⟨e, he, hef ▸ hf⟩)
              · exact absurd (.intro he hf hef) hdiv
          | inline u =>
              exact sameSchema_ref_inline.2
                ⟨s, hs, Json.equal_trans hst (sameSchema_inline_inline.1 hbd)⟩
  | inline s =>
      cases b with
      | ref q n =>
          obtain ⟨t, ht, hst⟩ := sameSchema_inline_ref.1 hab
          cases d with
          | ref r k =>
              exact sameSchema_inline_ref.2 ⟨t, (resolve_eq_of_sameSchema hbd).symm.trans ht, hst⟩
          | inline u =>
              obtain ⟨t', ht', htu⟩ := sameSchema_ref_inline.1 hbd
              cases ht.symm.trans ht'
              exact sameSchema_inline_inline.2 (Json.equal_trans hst htu)
      | inline t =>
          cases d with
          | ref r k =>
              obtain ⟨u, hu, htu⟩ := sameSchema_inline_ref.1 hbd
              exact sameSchema_inline_ref.2
                ⟨u, hu, Json.equal_trans (sameSchema_inline_inline.1 hab) htu⟩
          | inline u => exact Json.equal_trans hab hbd

/-! ## Distinct branches -/

theorem mem_of_mem_distinctBranches {seen bs : List SchemaOrRef} {k : SchemaOrRef}
    (h : k ∈ c.distinctBranches seen bs) : k ∈ bs := by
  induction bs generalizing seen with
  | nil => exact h
  | cons b rest ih =>
      rw [distinctBranches] at h
      split at h
      · exact List.mem_cons_of_mem b (ih h)
      · rcases List.mem_cons.1 h with rfl | h
        · exact List.mem_cons_self
        · exact List.mem_cons_of_mem b (ih h)

/-- Each branch is the same as one that is kept, or as one that was seen before. -/
theorem exists_same_of_mem (seen : List SchemaOrRef) {bs : List SchemaOrRef} (h : b ∈ bs) :
    (∃ k ∈ c.distinctBranches seen bs, c.sameSchema k b = true) ∨
      ∃ k ∈ seen, c.sameSchema k b = true := by
  induction bs generalizing seen with
  | nil => cases h
  | cons a rest ih =>
      rw [distinctBranches]
      by_cases hseen : seen.any (c.sameSchema · a) = true
      · rw [if_pos hseen]
        rcases List.mem_cons.1 h with rfl | h
        · exact .inr (List.any_eq_true.1 hseen)
        · exact ih seen h
      · rw [if_neg hseen]
        rcases List.mem_cons.1 h with rfl | h
        · exact .inl ⟨b, List.mem_cons_self, c.sameSchema_refl b⟩
        · rcases ih (seen ++ [a]) h with ⟨k, hk, hkb⟩ | ⟨k, hk, hkb⟩
          · exact .inl ⟨k, List.mem_cons_of_mem a hk, hkb⟩
          · rcases List.mem_append.1 hk with hk | hk
            · exact .inr ⟨k, hk, hkb⟩
            · rw [List.mem_singleton.1 hk] at hkb
              exact .inl ⟨a, List.mem_cons_self, hkb⟩

/-- A branch that is kept is not the same as one that was seen before. -/
theorem not_same_of_seen {seen bs : List SchemaOrRef} {k : SchemaOrRef}
    (hk : k ∈ c.distinctBranches seen bs) (ha : a ∈ seen) : c.sameSchema a k = false := by
  induction bs generalizing seen with
  | nil => cases hk
  | cons b rest ih =>
      rw [distinctBranches] at hk
      split at hk
      · exact ih hk ha
      · next hseen =>
          rcases List.mem_cons.1 hk with rfl | hk
          · exact Bool.eq_false_iff.2 fun hsame => hseen (List.any_eq_true.2 ⟨a, ha, hsame⟩)
          · exact ih hk (List.mem_append_left [b] ha)

/-- No two branches that are kept are the same. -/
theorem pairwise_distinctBranches (c : Components) (seen bs : List SchemaOrRef) :
    (c.distinctBranches seen bs).Pairwise (c.sameSchema · · = false) := by
  induction bs generalizing seen with
  | nil => exact .nil
  | cons b rest ih =>
      rw [distinctBranches]
      split
      · exact ih seen
      · refine .cons (fun k hk => ?_) (ih (seen ++ [b]))
        exact not_same_of_seen hk (List.mem_append_right seen (List.mem_singleton_self b))

/-- Branches that are kept and are the same are equal. -/
theorem eq_of_same {bs : List SchemaOrRef} (ha : a ∈ c.distinctBranches [] bs)
    (hb : b ∈ c.distinctBranches [] bs) (h : c.sameSchema a b = true) : a = b := by
  by_contra hne
  have hsymm : Std.Symm (c.sameSchema · · = false) := ⟨fun a b hab => (c.sameSchema_comm b a).trans hab⟩
  have hdistinct := (c.pairwise_distinctBranches [] bs).forall ha hb hne
  rw [h] at hdistinct
  cases hdistinct

theorem nodup_distinctBranches (c : Components) (seen bs : List SchemaOrRef) :
    (c.distinctBranches seen bs).Nodup := by
  refine (c.pairwise_distinctBranches seen bs).imp fun {a b} hab => ?_
  rintro rfl
  rw [c.sameSchema_refl] at hab
  cases hab

/-- No three of the branches are two references to different components, and between them an inline
    schema that is the same as both. -/
def Undivided (c : Components) (bs : List SchemaOrRef) : Prop :=
  ∀ a ∈ bs, ∀ b ∈ bs, ∀ d ∈ bs, c.sameSchema a b = true → c.sameSchema b d = true →
    ¬ c.Divided a b d

variable {bs bs' : List SchemaOrRef}

theorem Undivided.trans (h : c.Undivided bs) (ha : a ∈ bs) (hb : b ∈ bs) (hd : d ∈ bs)
    (hab : c.sameSchema a b = true) (hbd : c.sameSchema b d = true) : c.sameSchema a d = true :=
  (sameSchema_trans_iff hab hbd).2 (h a ha b hb d hd hab hbd)

/-- In every order each of the branches is the same as exactly one that is kept. -/
theorem Undivided.existsUnique (h : c.Undivided bs) (hperm : bs.Perm bs') (hb : b ∈ bs) :
    ∃! k, k ∈ c.distinctBranches [] bs' ∧ c.sameSchema k b = true := by
  rcases exists_same_of_mem (c := c) [] (hperm.mem_iff.1 hb) with ⟨k, hk, hkb⟩ | ⟨_, ⟨⟩, _⟩
  refine ⟨k, ⟨hk, hkb⟩, ?_⟩
  rintro l ⟨hl, hlb⟩
  have hmem : ∀ {x}, x ∈ c.distinctBranches [] bs' → x ∈ bs :=
    fun hx => hperm.mem_iff.2 (mem_of_mem_distinctBranches hx)
  have hbk : c.sameSchema b k = true := (c.sameSchema_comm b k).trans hkb
  exact eq_of_same hl hk (h.trans (hmem hl) hb (hmem hk) hlb hbk)

/-- With both references in front, each of them is kept, and the inline schema between them is the same
    as both. -/
theorem undivided_of_existsUnique
    (h : ∀ bs', bs.Perm bs' → ∀ b ∈ bs, ∃! k, k ∈ c.distinctBranches [] bs' ∧ c.sameSchema k b = true) :
    c.Undivided bs := by
  classical
  intro a ha b hb d hd hab hbd hdiv
  have had := hdiv.not_same
  have hne : d ≠ a := by
    rintro rfl
    rw [c.sameSchema_refl] at had
    cases had
  have hperm : bs.Perm (a :: d :: (bs.erase a).erase d) :=
    (List.perm_cons_erase ha).trans
      ((List.perm_cons_erase ((List.mem_erase_of_ne hne).2 hd)).cons a)
  have hkept : c.distinctBranches [] (a :: d :: (bs.erase a).erase d) =
      a :: d :: c.distinctBranches [a, d] ((bs.erase a).erase d) := by
    simp [distinctBranches, had]
  have hsame := h _ hperm b hb
  rw [hkept] at hsame
  have hdb : c.sameSchema d b = true := (c.sameSchema_comm d b).trans hbd
  exact hne (hsame.unique ⟨by simp, hdb⟩ ⟨by simp, hab⟩)

/-- In every order the same kinds of branches are kept, whichever branch stands for its kind. -/
theorem Undivided.exists_perm (h : c.Undivided bs) (hperm : bs.Perm bs') :
    ∃ ks, ks.Perm (c.distinctBranches [] bs') ∧
      List.Forall₂ (c.sameSchema · · = true) ks (c.distinctBranches [] bs) := by
  have hold : ∀ {x}, x ∈ c.distinctBranches [] bs → x ∈ bs := mem_of_mem_distinctBranches
  have hnew : ∀ {x}, x ∈ c.distinctBranches [] bs' → x ∈ bs :=
    fun hx => hperm.mem_iff.2 (mem_of_mem_distinctBranches hx)
  choose! f hf hsame using fun b (hb : b ∈ bs) => (h.existsUnique hperm hb).exists
  refine ⟨(c.distinctBranches [] bs).map f, ?_, ?_⟩
  · have hinj : ∀ x ∈ c.distinctBranches [] bs, ∀ y ∈ c.distinctBranches [] bs, f x = f y → x = y := by
      intro x hx y hy hxy
      have hxf : c.sameSchema x (f x) = true :=
        (c.sameSchema_comm x (f x)).trans (hsame x (hold hx))
      have hfy : c.sameSchema (f x) y = true := hxy ▸ hsame y (hold hy)
      exact eq_of_same hx hy (h.trans (hold hx) (hnew (hf x (hold hx))) (hold hy) hxf hfy)
    rw [List.perm_ext_iff_of_nodup (List.Nodup.map_on hinj (c.nodup_distinctBranches [] bs))
      (c.nodup_distinctBranches [] bs')]
    intro k
    rw [List.mem_map]
    constructor
    · rintro ⟨x, hx, rfl⟩
      exact hf x (hold hx)
    · intro hk
      obtain ⟨x, ⟨hx, hxk⟩, -⟩ := h.existsUnique (.refl bs) (hnew hk)
      exact ⟨x, hx, eq_of_same (hf x (hold hx)) hk
        (h.trans (hnew (hf x (hold hx))) (hold hx) (hnew hk) (hsame x (hold hx)) hxk)⟩
  · rw [List.forall₂_map_left_iff, List.forall₂_same]
    exact fun x hx => hsame x (hold hx)

/-- Being the same schema is reflexive and symmetric. It carries over from two schemas to a third, but
    for references to different components on both sides of an inline schema, and such references are
    not the same. Where no branches of a composite are so divided, and only there, each of them is
    the same as exactly one branch that is kept, in whatever order they come; the branches that are
    kept in two orders are then the same ones. The nodes of a composite stand for the branches that
    are kept. -/
theorem sameSchema_laws (c : Components) :
    (∀ a, c.sameSchema a a = true) ∧ (∀ a b, c.sameSchema a b = c.sameSchema b a) ∧
    (∀ a b d, c.sameSchema a b = true → c.sameSchema b d = true →
      (c.sameSchema a d = true ↔ ¬ c.Divided a b d)) ∧
    (∀ bs, c.Undivided bs ↔ ∀ bs', bs.Perm bs' → ∀ b ∈ bs,
      ∃! k, k ∈ c.distinctBranches [] bs' ∧ c.sameSchema k b = true) ∧
    (∀ bs bs', c.Undivided bs → bs.Perm bs' → ∃ ks, ks.Perm (c.distinctBranches [] bs') ∧
      List.Forall₂ (c.sameSchema · · = true) ks (c.distinctBranches [] bs)) ∧
    ∀ parent bs b b' ids, b.Ready c → Build.run (Build.branches c parent 1 [] bs) b = (.ok ids, b') →
      View.HasBranches c b'.whole (c.distinctBranches [] bs) ids := by
  refine ⟨c.sameSchema_refl, c.sameSchema_comm, fun _ _ _ => sameSchema_trans_iff, fun bs => ?_,
    fun _ _ => Undivided.exists_perm, fun parent bs b b' ids hb hrun => ?_⟩
  · exact ⟨fun h _ hperm _ hb => h.existsUnique hperm hb, undivided_of_existsUnique⟩
  · exact (Build.branches_has c parent 1 [] bs hb hrun).mono (b'.view_le_view fun _ _ => trivial)

/-- Two components with equal definitions, and an alias of the first. -/
def copies : Components where
  schemas :=
    [("Name", .inline { type := some (.single .string) }),
      ("Label", .inline { type := some (.single .string) }),
      ("Alias", .ref "#/components/schemas/Name" none)]

/-- A component, an alias of it, and their definition. -/
def aliasBranches : List SchemaOrRef :=
  [.ref "#/components/schemas/Name" none, .inline { type := some (.single .string) },
    .ref "#/components/schemas/Alias" none]

theorem undivided_aliasBranches : copies.Undivided aliasBranches := by
  have hname : ∀ p m, .ref p m ∈ aliasBranches → copies.canonicalName p = .ok "Name" := by
    intro p m h
    have hpaths : p = "#/components/schemas/Name" ∨ p = "#/components/schemas/Alias" := by
      simp only [aliasBranches, List.mem_cons, SchemaOrRef.ref.injEq, reduceCtorEq,
        List.not_mem_nil, or_false, false_or] at h
      exact h.imp And.left And.left
    rcases hpaths with rfl | rfl
    · decide +kernel
    · decide +kernel
  rintro a ha b - d hd - - hdiv
  cases hdiv with
  | intro hp hq hne =>
      rw [hname _ _ ha] at hp
      rw [hname _ _ hd] at hq
      cases hp
      cases hq
      exact hne rfl

theorem sameSchema_laws_alias :
    copies.sameSchema (.ref "#/components/schemas/Name" none)
        (.ref "#/components/schemas/Alias" none) = true ∧
      (∃! k, k ∈ copies.distinctBranches [] aliasBranches.reverse ∧
        copies.sameSchema k (.inline { type := some (.single .string) }) = true) ∧
      (∃ ks, ks.Perm (copies.distinctBranches [] aliasBranches.reverse) ∧
        List.Forall₂ (copies.sameSchema · · = true) ks (copies.distinctBranches [] aliasBranches)) ∧
      ∃ b b' ids, b.Ready copies ∧
        Build.run (Build.branches copies "Both" 1 [] aliasBranches) b = (.ok ids, b') ∧
        View.HasBranches copies b'.whole (copies.distinctBranches [] aliasBranches) ids := by
  obtain ⟨-, -, htrans, hiff, hperm, hbuilt⟩ := sameSchema_laws copies
  have hmem : .ref "#/components/schemas/Name" none ∈ aliasBranches ∧
      .inline { type := some (.single .string) } ∈ aliasBranches ∧
      .ref "#/components/schemas/Alias" none ∈ aliasBranches := by
    simp [aliasBranches]
  have hsame : copies.sameSchema (.ref "#/components/schemas/Name" none)
        (.inline { type := some (.single .string) }) = true ∧
      copies.sameSchema (.inline { type := some (.single .string) })
        (.ref "#/components/schemas/Alias" none) = true := by
    decide +kernel
  have hadd := Build.exists_run_ok (b := {}) (m := Build.addComponents copies) (by decide +kernel)
  have hready : Builder.Ready copies (Build.run (Build.addComponents copies) {}).2 :=
    (Builder.linkable_of_addComponents (by decide) hadd).complete.ready
  obtain ⟨ids, hids⟩ := Build.exists_run_eq (b := (Build.run (Build.addComponents copies) {}).2)
    (m := Build.branches copies "Both" 1 [] aliasBranches) (by decide +kernel)
  refine ⟨(htrans _ _ _ hsame.1 hsame.2).2 ?_,
    (hiff aliasBranches).1 undivided_aliasBranches _ (List.reverse_perm _).symm _ hmem.2.1,
    hperm _ _ undivided_aliasBranches (List.reverse_perm _).symm,
    _, _, ids, hready, hids, hbuilt "Both" _ _ _ ids hready hids⟩
  exact undivided_aliasBranches _ hmem.1 _ hmem.2.1 _ hmem.2.2 hsame.1 hsame.2

/-- References to two components with equal definitions are the same as the definition and not the
    same as each other, so that it depends on the order how many of the three branches are kept. -/
theorem sameSchema_copies :
    copies.sameSchema (.ref "#/components/schemas/Name" none)
        (.inline { type := some (.single .string) }) = true ∧
      copies.sameSchema (.inline { type := some (.single .string) })
        (.ref "#/components/schemas/Label" none) = true ∧
      copies.sameSchema (.ref "#/components/schemas/Name" none)
        (.ref "#/components/schemas/Label" none) = false ∧
      (copies.distinctBranches []
        [.ref "#/components/schemas/Name" none, .ref "#/components/schemas/Label" none,
          .inline { type := some (.single .string) }]).length = 2 ∧
      (copies.distinctBranches []
        [.inline { type := some (.single .string) }, .ref "#/components/schemas/Name" none,
          .ref "#/components/schemas/Label" none]).length = 1 := by
  decide +kernel

end Components

end OpenApi
