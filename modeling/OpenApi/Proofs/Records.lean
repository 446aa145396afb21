import OpenApi.Distinct
import OpenApi.Json.Basic
import OpenApi.Json.Shape
import OpenApi.Proofs.Results

set_option autoImplicit false

/-! # Records that are written and read back

A property of a record that every field keeps holds of whatever is read (`RecordShape.read_keeps`).
The other way round, a list of entries `Restores` a record when the fields, in their order, find in
it what they need to lead from the blank record to it; such a list is read as the record
(`Restores.read_object`). A record that `KeepsExtra` has its unknown members, no more and no less, at
its end, so it is read again from what is written for its fields and for these. -/

namespace OpenApi

variable {α ρ : Type}

/-- What is written for the value is read as the value. -/
def ReadsBack (read : Json → Except ShapeError α) (write : α → Json) (a : α) : Prop :=
  read (write a) = .ok a

/-- Whatever is read reads back. -/
def Faithful (read : Json → Except ShapeError α) (write : α → Json) : Prop :=
  ∀ v a, read v = .ok a → ReadsBack read write a

/-! ## Plain shapes -/

namespace Shape

theorem string_readsBack (s : String) : ReadsBack string .string s := rfl

theorem bool_readsBack (b : Bool) : ReadsBack bool .bool b := rfl

theorem any_readsBack (v : Json) : ReadsBack any id v := rfl

variable {read : Json → Except ShapeError α} {v : Json}

theorem optional_ok {o : Option α} (h : optional read v = .ok o) {a : α} (ha : a ∈ o) :
    v ≠ .null ∧ read v = .ok a := by
  rw [optional.eq_def] at h
  split at h
  · cases h
    cases ha
  · next hnull =>
      obtain ⟨b, hb, rfl⟩ := map_ok_iff.1 h
      cases ha
      exact ⟨hnull, hb⟩

theorem ne_null_of_optional_any {o : Option Json} (h : optional any v = .ok o) {w : Json}
    (hw : w ∈ o) : w ≠ .null := by
  obtain ⟨hnull, hread⟩ := optional_ok h hw
  exact Except.ok.inj hread ▸ hnull

theorem optional_of_ne_null (h : v ≠ .null) : optional read v = (read v).map some := by
  rw [optional.eq_def]
  split
  · exact absurd rfl h
  · rfl

/-- The members of a list are read from parts of its value. -/
theorem list_ok {as : List α} (h : list read v = .ok as) {a : α} (ha : a ∈ as) :
    ∃ w, sizeOf w < sizeOf v ∧ read w = .ok a := by
  cases v with
  | array xs =>
      obtain ⟨w, hw, hread⟩ := exists_of_forall₂ (mapM_ok_iff.1 h) ha
      have := List.sizeOf_lt_of_mem hw
      exact ⟨w, by simp only [Json.array.sizeOf_spec]; omega, hread⟩
  | _ => cases h

/-- The values of a map are read from parts of its value. -/
theorem entries_ok {es : Entries α} (h : entries read v = .ok es) {e : String × α} (he : e ∈ es) :
    ∃ w, sizeOf w < sizeOf v ∧ read w = .ok e.2 := by
  cases v with
  | object fs =>
      obtain ⟨⟨k, w⟩, hw, hread⟩ := exists_of_forall₂ (mapM_ok_iff.1 h) he
      obtain ⟨a, ha, rfl⟩ := map_ok_iff.1 hread
      have := List.sizeOf_lt_of_mem hw
      refine ⟨w, ?_, ha⟩
      simp only [Json.object.sizeOf_spec, Prod.mk.sizeOf_spec] at this ⊢
      omega
  | _ => cases h

variable {write : α → Json}

theorem list_array_map {as : List α} (h : ∀ a ∈ as, ReadsBack read write a) :
    list read (.array (as.map write)) = .ok as :=
  mapM_ok_iff.2 <| List.forall₂_map_left_iff.2 <| List.forall₂_same.2 h

theorem entries_object_mapValues {es : Entries α} (h : ∀ e ∈ es, ReadsBack read write e.2) :
    entries read (.object (es.mapValues write)) = .ok es :=
  mapM_ok_iff.2 <| List.forall₂_map_left_iff.2 <| List.forall₂_same.2 fun e he =>
    map_ok_iff.2 ⟨e.2, h e he, rfl⟩

end Shape

namespace Faithful

variable {read : Json → Except ShapeError α} {write : α → Json} {v : Json}

theorem optional (hf : Faithful read write) {o : Option α} (h : Shape.optional read v = .ok o) :
    ∀ a ∈ o, ReadsBack read write a :=
  fun a ha => hf v a (Shape.optional_ok h ha).2

theorem list (hf : Faithful read write) {as : List α} (h : Shape.list read v = .ok as) :
    ∀ a ∈ as, ReadsBack read write a := by
  intro a ha
  obtain ⟨w, -, hw⟩ := Shape.list_ok h ha
  exact hf w a hw

theorem entries (hf : Faithful read write) {es : Entries α} (h : Shape.entries read v = .ok es) :
    ∀ e ∈ es, ReadsBack read write e.2 := by
  intro e he
  obtain ⟨w, -, hw⟩ := Shape.entries_ok h he
  exact hf w e.2 hw

end Faithful

/-! ## What the fields keep -/

namespace FieldShape

/-- Taking the field from the value keeps `P`. -/
def Keeps (field : FieldShape ρ) (P : ρ → Prop) (v : Json) : Prop :=
  ∀ r r', field.take v r = .ok r' → P r → P r'

/-- Taking any of the fields from the value keeps `P`. -/
def AllKeep (fields : List (FieldShape ρ)) (P : ρ → Prop) (v : Json) : Prop :=
  ∀ field ∈ fields, field.Keeps P v

variable {fields : List (FieldShape ρ)} {P : ρ → Prop} {v : Json}

theorem AllKeep.nil : AllKeep [] P v := fun _ hf => nomatch hf

/-- A field that sets what it reads keeps `P` when setting it does. -/
theorem AllKeep.cons {name : String} {read : Json → Except ShapeError α} {set : α → ρ → ρ}
    {required trailing : Bool} (h : ∀ a r, read v = .ok a → P r → P (set a r))
    (hrest : AllKeep fields P v) :
    AllKeep (⟨name, fun v r => (read v).map (set · r), required, trailing⟩ :: fields) P v := by
  rintro field (_ | ⟨_, hf⟩)
  · intro r r' htake hr
    obtain ⟨a, ha, rfl⟩ := map_ok_iff.1 htake
    exact h a r ha hr
  · exact hrest field hf

end FieldShape

namespace RecordShape

variable {s : RecordShape ρ} {r r' : ρ} {e : String × Json} {es : Entries Json} {P : ρ → Prop}

/-- The names of the fields. -/
def names (s : RecordShape ρ) : List String := s.fields.map (·.name)

/-- What an unknown member makes of the record. -/
def pass (s : RecordShape ρ) (e : String × Json) (r : ρ) : ρ :=
  match s.keep? with
  | some keep => keep e.1 e.2 r
  | none => r

theorem takeMember_of_mem (hs : s.names.Nodup) {field : FieldShape ρ} (hf : field ∈ s.fields)
    (v : Json) : s.takeMember r (field.name, v) = field.take v r := by
  rw [takeMember, (find?_eq_some_iff_of_nodup hs).2 ⟨hf, rfl⟩]

theorem takeMember_of_not_mem (he : e.1 ∉ s.names) : s.takeMember r e = .ok (s.pass e r) := by
  have hnone : s.fields.find? (·.name = e.1) = none := by simpa [names] using he
  rw [takeMember, hnone, pass]
  cases s.keep? <;> rfl

/-- A member that was taken is that of a field or was passed on. -/
theorem takeMember_ok (h : s.takeMember r e = .ok r') :
    (∃ field ∈ s.fields, field.name = e.1 ∧ field.take e.2 r = .ok r') ∨
      e.1 ∉ s.names ∧ r' = s.pass e r := by
  by_cases he : e.1 ∈ s.names
  · rw [takeMember] at h
    split at h
    · next field hfind =>
        have hname := List.find?_some hfind
        exact .inl ⟨field, List.mem_of_find?_eq_some hfind, of_decide_eq_true hname, h⟩
    · next hnone => exact absurd he (by simpa [names] using hnone)
  · rw [takeMember_of_not_mem he] at h
    exact .inr ⟨he, (Except.ok.inj h).symm⟩

/-- Reading the members of a map keeps what each of them keeps. -/
theorem foldlM_keeps (hfields : ∀ e ∈ es, FieldShape.AllKeep s.fields P e.2)
    (hpass : ∀ e r, P r → P (s.pass e r)) (h : es.foldlM s.takeMember r = .ok r') (hr : P r) :
    P r' := by
  induction es generalizing r with
  | nil =>
      obtain rfl := Except.ok.inj h
      exact hr
  | cons e es ih =>
      rw [List.foldlM_cons] at h
      obtain ⟨r₁, h₁, h⟩ := bind_ok_iff.1 h
      refine ih (fun e he => hfields e (List.mem_cons_of_mem _ he)) h ?_
      rcases takeMember_ok h₁ with ⟨field, hf, -, htake⟩ | ⟨-, rfl⟩
      · exact hfields e List.mem_cons_self field hf r r₁ htake hr
      · exact hpass e r hr

/-- A member of a map that was read was taken by the field of its name. -/
theorem exists_take_of_foldlM (hs : s.names.Nodup) (h : es.foldlM s.takeMember r = .ok r')
    {field : FieldShape ρ} (hf : field ∈ s.fields) {v : Json} (hv : (field.name, v) ∈ es) :
    ∃ r₁ r₂, field.take v r₁ = .ok r₂ := by
  induction es generalizing r with
  | nil => cases hv
  | cons e es ih =>
      rw [List.foldlM_cons] at h
      obtain ⟨r₁, h₁, h⟩ := bind_ok_iff.1 h
      rcases List.mem_cons.1 hv with rfl | hv
      · exact ⟨r, r₁, takeMember_of_mem hs hf v ▸ h₁⟩
      · exact ih h hv

theorem takeItems_keeps {fields : List (FieldShape ρ)} {length index : Nat} {vs : List Json}
    (hfields : ∀ v, FieldShape.AllKeep fields P v) (h : s.takeItems length index fields vs r = .ok r')
    (hr : P r) : P r' := by
  induction fields generalizing index vs r with
  | nil =>
      cases vs with
      | nil => exact Except.ok.inj h ▸ hr
      | cons v vs => cases h
  | cons field fields ih =>
      have hrest : ∀ v, FieldShape.AllKeep fields P v :=
        fun v f hf => hfields v f (List.mem_cons_of_mem _ hf)
      cases vs with
      | nil =>
          rw [takeItems] at h
          split at h
          · exact ih hrest h hr
          · cases h
      | cons v vs =>
          obtain ⟨r₁, h₁, h⟩ := bind_ok_iff.1 h
          exact ih hrest h (hfields v field List.mem_cons_self r r₁ h₁ hr)

theorem ofEntries_ok (h : s.ofEntries es = .ok r) : es.foldlM s.takeMember s.blank = .ok r := by
  rw [ofEntries] at h
  split at h
  · cases h
  · next hfold =>
      split at h
      · cases h
      · exact hfold.trans h

/-- Whatever is read has the properties that the blank record has and each field keeps. -/
theorem read_keeps {v : Json} (hfields : ∀ v, FieldShape.AllKeep s.fields P v)
    (hpass : ∀ e r, P r → P (s.pass e r)) (hblank : P s.blank) (h : s.read v = .ok r) : P r := by
  rw [read.eq_def] at h
  split at h
  · exact foldlM_keeps (fun e _ => hfields e.2) hpass (ofEntries_ok h) hblank
  · exact takeItems_keeps hfields h hblank
  · cases h

end RecordShape

/-! ## Entries that restore a record -/

/-- Each field, in its order, takes the next entry or, unless it is required, goes without one; so
    the entries lead from one record to another. -/
inductive Restores : List (FieldShape ρ) → Entries Json → ρ → ρ → Prop
  | nil {r : ρ} : Restores [] [] r r
  | without {field : FieldShape ρ} {fields : List (FieldShape ρ)} {es : Entries Json} {r r' : ρ} :
      field.required = false → Restores fields es r r' → Restores (field :: fields) es r r'
  | take {field : FieldShape ρ} {fields : List (FieldShape ρ)} {v : Json} {es : Entries Json}
      {r r₁ r' : ρ} : field.take v r = .ok r₁ → Restores fields es r₁ r' →
      Restores (field :: fields) ((field.name, v) :: es) r r'

namespace Restores

variable {fields : List (FieldShape ρ)} {es : Entries Json} {r r' : ρ} {s : RecordShape ρ}

theorem keys_sublist (h : Restores fields es r r') : es.keys.Sublist (fields.map (·.name)) := by
  induction h with
  | nil => exact .slnil
  | without _ _ ih => exact ih.cons _
  | take _ _ ih => exact ih.cons_cons _

theorem has_required (h : Restores fields es r r') {field : FieldShape ρ} (hf : field ∈ fields)
    (hrequired : field.required = true) : field.name ∈ es.keys := by
  induction h with
  | nil => cases hf
  | without hnot _ ih =>
      rcases List.mem_cons.1 hf with rfl | hf
      · rw [hnot] at hrequired
        cases hrequired
      · exact ih hf
  | take _ _ ih =>
      rcases List.mem_cons.1 hf with rfl | hf
      · exact List.mem_cons_self
      · exact List.mem_cons_of_mem _ (ih hf)

theorem foldlM_takeMember (hs : s.names.Nodup) (h : Restores fields es r r')
    (hsub : fields ⊆ s.fields) : es.foldlM s.takeMember r = .ok r' := by
  induction h with
  | nil => rfl
  | without _ _ ih => exact ih fun _ hf => hsub (List.mem_cons_of_mem _ hf)
  | take htake _ ih =>
      rw [List.foldlM_cons, RecordShape.takeMember_of_mem hs (hsub List.mem_cons_self), htake]
      exact ih fun _ hf => hsub (List.mem_cons_of_mem _ hf)

/-- Entries that restore a record, with members behind them that lead on, are read so. -/
theorem read_object_append (hs : s.names.Nodup) (h : Restores s.fields es s.blank r)
    {more : Entries Json} (hmore : more.foldlM s.takeMember r = .ok r') :
    s.read (.object (es ++ more)) = .ok r' := by
  have hfound : ∀ field ∈ s.fields, field.required = true → (es ++ more).has field.name = true := by
    intro field hf hrequired
    rw [Entries.has, Entries.get?_append, Option.isSome_or, Bool.or_eq_true]
    refine .inl (Option.isSome_iff_ne_none.2 ?_)
    rw [ne_eq, Entries.get?_eq_none_iff, not_not]
    exact h.has_required hf hrequired
  have hnone : s.fields.find? (fun field => field.required && !(es ++ more).has field.name)
      = none := by
    rw [List.find?_eq_none]
    intro field hf
    cases hrequired : field.required with
    | false => simp
    | true => simp [hfound field hf hrequired]
  rw [RecordShape.read, RecordShape.ofEntries, List.foldlM_append,
    h.foldlM_takeMember hs (List.Subset.refl _)]
  simp only [bind, Except.bind, hmore, hnone]

theorem read_object (hs : s.names.Nodup) (h : Restores s.fields es s.blank r) :
    s.read (.object es) = .ok r := by
  rw [← List.append_nil es]
  exact h.read_object_append hs rfl

/-! ### What a writer writes for a field -/

variable {name : String} {read : Json → Except ShapeError α} {write : α → Json} {a : α}

theorem require {set : α → ρ → ρ} (h : ReadsBack read write a)
    (hrest : Restores fields es (set a r) r') :
    Restores (.require name read set :: fields) ((name, write a) :: es) r r' :=
  .take (map_ok_iff.2 ⟨a, h, rfl⟩) hrest

theorem default {set : α → ρ → ρ} (h : ReadsBack read write a)
    (hrest : Restores fields es (set a r) r') :
    Restores (.default name read set :: fields) ((name, write a) :: es) r r' :=
  .take (map_ok_iff.2 ⟨a, h, rfl⟩) hrest

theorem option {set : Option α → ρ → ρ} {o : Option α}
    (h : ∀ a ∈ o, write a ≠ .null ∧ ReadsBack read write a) (hnone : set none r = r)
    (hrest : Restores fields es (set o r) r') :
    Restores (.option name read set :: fields) (Json.optionEntry name o write ++ es) r r' := by
  cases o with
  | none => exact .without rfl (hnone ▸ hrest)
  | some a =>
      obtain ⟨hne, hback⟩ := h a rfl
      refine .take (map_ok_iff.2 ⟨some a, ?_, rfl⟩) hrest
      rw [Shape.optional_of_ne_null hne, hback]
      rfl

theorem text {set : Option String → ρ → ρ} {o : Option String} (hnone : set none r = r)
    (hrest : Restores fields es (set o r) r') :
    Restores (.option name Shape.string set :: fields) (Json.optionEntry name o .string ++ es) r r' :=
  .option (fun s _ => ⟨Json.noConfusion, Shape.string_readsBack s⟩) hnone hrest

theorem flag {set : Option Bool → ρ → ρ} {o : Option Bool} (hnone : set none r = r)
    (hrest : Restores fields es (set o r) r') :
    Restores (.option name Shape.bool set :: fields) (Json.optionEntry name o .bool ++ es) r r' :=
  .option (fun b _ => ⟨Json.noConfusion, Shape.bool_readsBack b⟩) hnone hrest

theorem value {set : Option Json → ρ → ρ} {o : Option Json} (h : ∀ v ∈ o, v ≠ .null)
    (hnone : set none r = r) (hrest : Restores fields es (set o r) r') :
    Restores (.option name Shape.any set :: fields) (Json.optionEntry name o id ++ es) r r' :=
  .option (fun v hv => ⟨h v hv, Shape.any_readsBack v⟩) hnone hrest

theorem list {set : List α → ρ → ρ} {as : List α} (h : ∀ a ∈ as, ReadsBack read write a)
    (hnil : set [] r = r) (hrest : Restores fields es (set as r) r') :
    Restores (.default name (Shape.list read) set :: fields)
      (Json.listEntry name as write ++ es) r r' := by
  cases as with
  | nil => exact .without rfl (hnil ▸ hrest)
  | cons a as =>
      exact .take (map_ok_iff.2 ⟨_, Shape.list_array_map h, rfl⟩) hrest

theorem map {set : Entries α → ρ → ρ} {as : Entries α} (h : ∀ e ∈ as, ReadsBack read write e.2)
    (hnil : set [] r = r) (hrest : Restores fields es (set as r) r') :
    Restores (.default name (Shape.entries read) set :: fields)
      (Json.mapEntry name as write ++ es) r r' := by
  cases as with
  | nil => exact .without rfl (hnil ▸ hrest)
  | cons a as =>
      exact .take (map_ok_iff.2 ⟨_, Shape.entries_object_mapValues h, rfl⟩) hrest

end Restores

/-! ## Records that keep their unknown members -/

/-- The unknown members of a record are in `extra`, in their order, and no field touches them. -/
structure RecordShape.KeepsExtra (s : RecordShape ρ) (extra : ρ → Entries Json)
    (withExtra : Entries Json → ρ → ρ) : Prop where
  fields : ∀ es v, FieldShape.AllKeep s.fields (extra · = es) v
  pass : ∀ e r, s.pass e r = withExtra (extra r ++ [e]) r := by intros; rfl
  blank : extra s.blank = [] := by rfl
  extra_with : ∀ es r, extra (withExtra es r) = es := by intros; rfl
  with_extra : ∀ r, withExtra (extra r) r = r := by intros; rfl
  with_with : ∀ es es' r, withExtra es (withExtra es' r) = withExtra es r := by intros; rfl

namespace RecordShape.KeepsExtra

variable {s : RecordShape ρ} {extra : ρ → Entries Json} {withExtra : Entries Json → ρ → ρ}
  {es : Entries Json} {r r' : ρ}

/-- What is in `extra` at the end are the unknown members. -/
theorem extra_foldlM (hs : s.KeepsExtra extra withExtra)
    (h : es.foldlM s.takeMember r = .ok r') :
    extra r' = extra r ++ es.filter (·.1 ∉ s.names) := by
  induction es generalizing r with
  | nil =>
      obtain rfl := Except.ok.inj h
      simp
  | cons e es ih =>
      rw [List.foldlM_cons] at h
      obtain ⟨r₁, h₁, h⟩ := bind_ok_iff.1 h
      rw [ih h]
      rcases takeMember_ok h₁ with ⟨field, hf, hname, htake⟩ | ⟨hunknown, rfl⟩
      · have hknown : e.1 ∈ s.names := hname ▸ List.mem_map_of_mem hf
        rw [hs.fields _ _ field hf r r₁ htake rfl]
        simp [hknown]
      · rw [hs.pass, hs.extra_with]
        simp [hunknown]

/-- Unknown members are added to those that are there. -/
theorem foldlM_unknown (hs : s.KeepsExtra extra withExtra) (h : ∀ e ∈ es, e.1 ∉ s.names) :
    es.foldlM s.takeMember r = .ok (withExtra (extra r ++ es) r) := by
  induction es generalizing r with
  | nil =>
      rw [List.append_nil, hs.with_extra]
      rfl
  | cons e es ih =>
      rw [List.foldlM_cons, takeMember_of_not_mem (h e List.mem_cons_self)]
      refine (ih fun e he => h e (List.mem_cons_of_mem _ he)).trans ?_
      rw [hs.pass, hs.extra_with, hs.with_with, List.append_assoc, List.singleton_append]

theorem read_ok (hs : s.KeepsExtra extra withExtra) {v : Json} (h : s.read v = .ok r) :
    ∃ es, v = .object es ∧ es.foldlM s.takeMember s.blank = .ok r := by
  rw [read.eq_def] at h
  split at h
  · exact ⟨_, rfl, ofEntries_ok h⟩
  · next hkeep =>
      -- a record that drops what it does not know keeps nothing
      have hpass := hs.pass ("", .null) s.blank
      have hextra := hs.extra_with (extra s.blank ++ [("", .null)]) s.blank
      rw [← hpass, RecordShape.pass, hkeep] at hextra
      simp at hextra
  · cases h

variable {write : ρ → Json} {v : Json}

/-- What was read is read back when what is written for its fields restores it and its unknown
    members are written behind. -/
theorem readsBack (hs : s.KeepsExtra extra withExtra) (hnames : s.names.Nodup)
    (h : s.read v = .ok r) (hw : ∃ es, write r = .object (es ++ extra r) ∧
      Restores s.fields es s.blank (withExtra [] r)) : ReadsBack s.read write r := by
  obtain ⟨fs, rfl, hfold⟩ := hs.read_ok h
  obtain ⟨es, hes, hrestores⟩ := hw
  rw [ReadsBack, hes]
  refine hrestores.read_object_append hnames ?_
  rw [hs.foldlM_unknown fun e he => ?_]
  · rw [hs.extra_with, hs.with_with, List.nil_append, hs.with_extra]
  · rw [hs.extra_foldlM hfold, hs.blank, List.nil_append] at he
    exact of_decide_eq_true (List.mem_filter.1 he).2

/-- Unknown members are found in what is written as in what was read. -/
theorem member?_write (hs : s.KeepsExtra extra withExtra) (h : s.read v = .ok r)
    (hw : ∃ es, write r = .object (es ++ extra r) ∧
      Restores s.fields es s.blank (withExtra [] r)) {key : String} (hkey : key ∉ s.names) :
    (write r).member? key = v.member? key := by
  obtain ⟨fs, rfl, hfold⟩ := hs.read_ok h
  obtain ⟨es, hes, hrestores⟩ := hw
  have hnone : Entries.get? es key = none :=
    Entries.get?_eq_none_iff.2 fun hmem => hkey (hrestores.keys_sublist.subset hmem)
  rw [hes, Json.member?, Json.member?, Entries.get?_append, hnone, Option.none_or,
    hs.extra_foldlM hfold, hs.blank, List.nil_append,
    Entries.get?_filter fun e he => decide_eq_true (he ▸ hkey)]

end RecordShape.KeepsExtra

end OpenApi
