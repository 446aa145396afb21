import OpenApi.Document.SchemaShape
import OpenApi.Proofs.Records

set_option autoImplicit false

/-! # Schemas are read back

`Schema.shape` describes inline schemas as records, and `Schema.takeMembers_cons` says that their members
are taken as it says. So a schema reads back when its subschemas do, which are read from smaller
values: `SchemaOrRef.readsBack`. What keeps an inline schema from being read again as a reference
is that no text stands under `$ref` (`SchemaOrRef.get?_ref_ne_string`). -/

namespace OpenApi

/-! ## Parts of a schema -/

namespace TypeSet

theorem typeOfJson?_name (t : SchemaType) : typeOfJson? (.string t.name) = some t :=
  SchemaType.ofName?_name t

theorem readsBack (t : TypeSet) : ReadsBack ofJson toJson t := by
  cases t with
  | single t => simp only [ReadsBack, ofJson, toJson, typeOfJson?_name]
  | multiple ts =>
      have hts : (ts.map fun t => Json.string t.name).mapM typeOfJson? = some ts := by
        induction ts with
        | nil => rfl
        | cons t ts ih => rw [List.map_cons, List.mapM_cons, typeOfJson?_name, ih]; rfl
      have hnone : typeOfJson? (.array (ts.map fun t => .string t.name)) = none := rfl
      simp only [ReadsBack, ofJson, toJson, hnone, hts]

theorem toJson_ne_null (t : TypeSet) : t.toJson ≠ .null := by cases t <;> simp [toJson]

end TypeSet

theorem Discriminator.readsBack (d : Discriminator) : ReadsBack shape.read toJson d := by
  have h : Restores shape.fields _ shape.blank d :=
    .require (Shape.string_readsBack _) <| .map (fun _ _ => Shape.string_readsBack _) rfl .nil
  rw [ReadsBack, toJson, ← List.append_nil (Json.mapEntry ..)]
  exact h.read_object (by decide)

namespace Additional

/-- Reads what an object allows beyond its declared properties. -/
def ofJson (v : Json) : Except ShapeError (Additional SchemaOrRef) :=
  match v with
  | .bool b => .ok (.allowed b)
  | v => match SchemaOrRef.ofJson v with
    | .ok s => .ok (.schema s)
    | .error _ => .error (.noAlternative "AdditionalProperties")

/-- Writes what an object allows beyond its declared properties. -/
def toJson : Additional SchemaOrRef → Json
  | allowed b => .bool b
  | schema s => s.toJson

end Additional

namespace SchemaOrRef

/-- Whatever is read as a schema from a value below a size reads back. -/
def FaithfulBelow (n : Nat) : Prop :=
  ∀ v, sizeOf v < n → ∀ s, ofJson v = .ok s → ReadsBack ofJson toJson s

theorem entriesOfJson_eq_mapM (es : Entries Json) :
    entriesOfJson es = es.mapM fun e => (ofJson e.2).map (e.1, ·) := by
  induction es with
  | nil => rfl
  | cons e es ih => rw [entriesOfJson, List.mapM_cons, ih, bind_map]

theorem listOfJson_eq_mapM (xs : List Json) : listOfJson xs = xs.mapM ofJson := by
  induction xs with
  | nil => rfl
  | cons x xs ih => rw [listOfJson, List.mapM_cons, ih]

end SchemaOrRef

/-! ## Subschemas as written -/

theorem SchemaOrRef.exists_toJson_eq (s : SchemaOrRef) : ∃ es, s.toJson = .object es := by
  cases s <;> exact ⟨_, by rw [toJson]⟩

theorem SchemaOrRef.toJson_ne_null (s : SchemaOrRef) : s.toJson ≠ .null := by
  obtain ⟨es, hes⟩ := s.exists_toJson_eq
  rw [hes]
  exact Json.noConfusion

namespace Additional

theorem toJson_ne_null (a : Additional SchemaOrRef) : a.toJson ≠ .null := by
  cases a with
  | allowed b => exact Json.noConfusion
  | schema s => exact s.toJson_ne_null

/-- A schema is written as a map, so it is not read as a flag. -/
theorem readsBack_schema {s : SchemaOrRef} (h : ReadsBack SchemaOrRef.ofJson SchemaOrRef.toJson s) :
    ReadsBack ofJson toJson (schema s) := by
  obtain ⟨es, hes⟩ := s.exists_toJson_eq
  rw [ReadsBack, hes] at h
  rw [ReadsBack, toJson, hes, ofJson, h]
  exact fun b => Json.noConfusion

theorem readsBack {v : Json} {a : Additional SchemaOrRef} (h : ofJson v = .ok a)
    (hs : ∀ s, SchemaOrRef.ofJson v = .ok s → ReadsBack SchemaOrRef.ofJson SchemaOrRef.toJson s) :
    ReadsBack ofJson toJson a := by
  rw [ofJson.eq_def] at h
  split at h
  · cases h
    rfl
  · split at h
    · next s hread =>
        cases h
        exact readsBack_schema (hs s hread)
    · cases h

end Additional

namespace SchemaOrRef

theorem listToJson_eq_map (ss : List SchemaOrRef) : listToJson ss = ss.map toJson := by
  induction ss with
  | nil => rfl
  | cons s ss ih => rw [listToJson, List.map_cons, ih]

theorem entriesToJson_eq_mapValues (ss : Entries SchemaOrRef) :
    entriesToJson ss = ss.mapValues toJson := by
  induction ss with
  | nil => rfl
  | cons e ss ih => rw [entriesToJson, ih]; rfl

theorem memberOfOption_eq (key : String) (o : Option SchemaOrRef) :
    memberOfOption key o = Json.optionEntry key o toJson := by
  cases o <;> rfl

theorem memberOfAdditional_eq (o : Option (Additional SchemaOrRef)) :
    memberOfAdditional o = Json.optionEntry "additionalProperties" o Additional.toJson := by
  cases o with
  | none => rfl
  | some a => cases a <;> rfl

theorem memberOfList_eq (key : String) (ss : List SchemaOrRef) :
    memberOfList key ss = Json.listEntry key ss toJson := by
  cases ss with
  | nil => rfl
  | cons s ss => rw [memberOfList, listToJson_eq_map]; rfl

theorem memberOfEntries_eq (key : String) (ss : Entries SchemaOrRef) :
    memberOfEntries key ss = Json.mapEntry key ss toJson := by
  cases ss with
  | nil => rfl
  | cons e ss => rw [memberOfEntries, entriesToJson_eq_mapValues]; rfl

end SchemaOrRef

/-! ## Inline schemas as records -/

namespace Schema

/-- The fields of an inline schema. -/
def shape : RecordShape Schema where
  name := "Schema"
  blank := {}
  fields :=
    [ .option "type" TypeSet.ofJson fun v s => { s with type := v },
      .option "format" Shape.string fun v s => { s with format := v },
      .option "title" Shape.string fun v s => { s with title := v },
      .option "description" Shape.string fun v s => { s with description := v },
      .option "default" Shape.any fun v s => { s with default := v },
      .option "nullable" Shape.bool fun v s => { s with nullable := v },
      .default "properties" (Shape.entries SchemaOrRef.ofJson) fun v s =>
        { s with properties := v },
      .default "required" (Shape.list Shape.string) fun v s => { s with required := v },
      .option "additionalProperties" Additional.ofJson fun v s => { s with additional := v },
      .option "items" SchemaOrRef.ofJson fun v s => { s with items := v },
      .default "allOf" (Shape.list SchemaOrRef.ofJson) fun v s => { s with allOf := v },
      .default "oneOf" (Shape.list SchemaOrRef.ofJson) fun v s => { s with oneOf := v },
      .default "anyOf" (Shape.list SchemaOrRef.ofJson) fun v s => { s with anyOf := v },
      .option "discriminator" Discriminator.shape.read fun v s => { s with discriminator := v },
      .default "enum" (Shape.list Shape.any) fun v s => { s with enum := v },
      .option "readOnly" Shape.bool fun v s => { s with readOnly := v },
      .option "writeOnly" Shape.bool fun v s => { s with writeOnly := v },
      .option "deprecated" Shape.bool fun v s => { s with deprecated := v },
      .option "const" Shape.any fun v s => { s with const := v },
      .option "example" Shape.any fun v s => { s with exampleValue := v } ]
  keep? := some fun key v s => { s with extra := s.extra ++ [(key, v)] }

/-- The members of an inline schema are taken one after the other as those of a record. -/
theorem takeMembers_cons (key : String) (v : Json) (es : Entries Json) (s : Schema) :
    takeMembers ((key, v) :: es) s = shape.takeMember s (key, v) >>= takeMembers es := by
  rw [takeMembers.eq_def]
  dsimp only
  split
  -- first the key that is no keyword, then the keywords with subschemas
  case h_21 =>
    have hkey : key ∉ shape.names := by
      simp only [RecordShape.names, shape, FieldShape.option, FieldShape.default, List.map_cons,
        List.map_nil, List.mem_cons, List.not_mem_nil, or_false, not_or]
      and_intros <;> assumption
    rw [RecordShape.takeMember_of_not_mem hkey]
    rfl
  case h_7 =>
    cases v with
    | object es =>
        simp only [SchemaOrRef.entriesOfJson_eq_mapM]
        exact (bind_map _ _ _).symm
    | _ => rfl
  case h_9 =>
    cases v with
    | object es =>
        have hmember : shape.takeMember s ("additionalProperties", .object es)
          = ((Additional.ofJson (.object es)).map some).map ({ s with additional := · }) := rfl
        rw [hmember, Additional.ofJson]
        · cases SchemaOrRef.ofJson (.object es) <;> rfl
        · simp
    | _ => rfl
  case h_10 =>
    cases v with
    | object es =>
        have hmember : shape.takeMember s ("items", .object es)
          = ((SchemaOrRef.ofJson (.object es)).map some).map ({ s with items := · }) := rfl
        rw [hmember]
        cases SchemaOrRef.ofJson (.object es) <;> rfl
    | _ => rfl
  case h_11 | h_12 | h_13 =>
    cases v with
    | array xs =>
        simp only [SchemaOrRef.listOfJson_eq_mapM]
        exact (bind_map _ _ _).symm
    | _ => rfl
  all_goals exact (bind_map _ _ _).symm

theorem takeMembers_eq_foldlM (es : Entries Json) (s : Schema) :
    takeMembers es s = es.foldlM shape.takeMember s := by
  induction es generalizing s with
  | nil => rfl
  | cons e es ih =>
      rw [takeMembers_cons, List.foldlM_cons]
      exact congrArg _ (funext ih)

/-- The fields of a schema are all optional, so that it is read as its members are taken. -/
theorem read_object (es : Entries Json) : shape.read (.object es) = takeMembers es {} := by
  have hnone : shape.fields.find? (fun field => field.required && !es.has field.name) = none := by
    simp [shape, FieldShape.option, FieldShape.default]
  rw [takeMembers_eq_foldlM, RecordShape.read, RecordShape.ofEntries, hnone]
  show _ = es.foldlM shape.takeMember shape.blank
  cases es.foldlM shape.takeMember shape.blank <;> rfl

theorem names_nodup : shape.names.Nodup := by decide

theorem keepsExtra : shape.KeepsExtra (·.extra) fun es s => { s with extra := es } where
  fields _ _ := by repeat first | exact .nil | refine .cons (fun _ _ _ h => h) ?_

/-- The values and subschemas of an inline schema read back. -/
structure Readable (s : Schema) : Prop where
  default : ∀ v ∈ s.default, v ≠ .null
  properties : ∀ e ∈ s.properties, ReadsBack SchemaOrRef.ofJson SchemaOrRef.toJson e.2
  additional : ∀ a ∈ s.additional, ReadsBack Additional.ofJson Additional.toJson a
  items : ∀ t ∈ s.items, ReadsBack SchemaOrRef.ofJson SchemaOrRef.toJson t
  allOf : ∀ t ∈ s.allOf, ReadsBack SchemaOrRef.ofJson SchemaOrRef.toJson t
  oneOf : ∀ t ∈ s.oneOf, ReadsBack SchemaOrRef.ofJson SchemaOrRef.toJson t
  anyOf : ∀ t ∈ s.anyOf, ReadsBack SchemaOrRef.ofJson SchemaOrRef.toJson t
  const : ∀ v ∈ s.const, v ≠ .null
  exampleValue : ∀ v ∈ s.exampleValue, v ≠ .null

/-- A member leaves the schema readable when the schemas in its value read back. -/
theorem allKeep_readable {v : Json} (ih : SchemaOrRef.FaithfulBelow (sizeOf v + 1)) :
    FieldShape.AllKeep shape.fields Readable v := by
  have hself : ∀ t, SchemaOrRef.ofJson v = .ok t →
      ReadsBack SchemaOrRef.ofJson SchemaOrRef.toJson t := ih v (Nat.lt_succ_self _)
  have hlist : ∀ ts, Shape.list SchemaOrRef.ofJson v = .ok ts →
      ∀ t ∈ ts, ReadsBack SchemaOrRef.ofJson SchemaOrRef.toJson t := by
    intro ts hts t ht
    obtain ⟨w, hlt, hw⟩ := Shape.list_ok hts ht
    exact ih w (by omega) t hw
  have hentries : ∀ es, Shape.entries SchemaOrRef.ofJson v = .ok es →
      ∀ e ∈ es, ReadsBack SchemaOrRef.ofJson SchemaOrRef.toJson e.2 := by
    intro es hes e he
    obtain ⟨w, hlt, hw⟩ := Shape.entries_ok hes he
    exact ih w (by omega) e.2 hw
  have hany : ∀ o, Shape.optional Shape.any v = .ok o → ∀ w ∈ o, w ≠ .null :=
    fun o ho w hw => Shape.ne_null_of_optional_any ho hw
  exact
    .cons (fun _ _ _ h => { h with }) <|
    .cons (fun _ _ _ h => { h with }) <|
    .cons (fun _ _ _ h => { h with }) <|
    .cons (fun _ _ _ h => { h with }) <|
    .cons (fun o _ ho h => { h with default := hany o ho }) <|
    .cons (fun _ _ _ h => { h with }) <|
    .cons (fun es _ hes h => { h with properties := hentries es hes }) <|
    .cons (fun _ _ _ h => { h with }) <|
    .cons (fun o _ ho h => { h with
      additional := fun a ha => Additional.readsBack (Shape.optional_ok ho ha).2 hself }) <|
    .cons (fun o _ ho h => { h with
      items := fun t ht => hself t (Shape.optional_ok ho ht).2 }) <|
    .cons (fun ts _ hts h => { h with allOf := hlist ts hts }) <|
    .cons (fun ts _ hts h => { h with oneOf := hlist ts hts }) <|
    .cons (fun ts _ hts h => { h with anyOf := hlist ts hts }) <|
    .cons (fun _ _ _ h => { h with }) <|
    .cons (fun _ _ _ h => { h with }) <|
    .cons (fun _ _ _ h => { h with }) <|
    .cons (fun _ _ _ h => { h with }) <|
    .cons (fun _ _ _ h => { h with }) <|
    .cons (fun o _ ho h => { h with const := hany o ho }) <|
    .cons (fun o _ ho h => { h with exampleValue := hany o ho }) .nil

theorem readable_blank : Readable shape.blank := by
  constructor <;> simp [shape]

theorem readable_of_foldlM {es : Entries Json} {s : Schema}
    (ih : SchemaOrRef.FaithfulBelow (sizeOf es))
    (h : es.foldlM shape.takeMember shape.blank = .ok s) : s.Readable := by
  refine RecordShape.foldlM_keeps (fun e he => allKeep_readable fun w hw => ih w ?_)
    (fun _ _ hr => { hr with }) h readable_blank
  have := List.sizeOf_lt_of_mem he
  rw [Prod.mk.sizeOf_spec] at this
  omega

/-- What is written for the fields of a readable schema restores it. -/
theorem Readable.restores {s : Schema} (h : s.Readable) :
    ∃ es, s.toJson = .object (es ++ s.extra) ∧
      Restores shape.fields es shape.blank { s with extra := [] } := by
  simp only [toJson, SchemaOrRef.toJson, SchemaOrRef.memberOfEntries_eq,
    SchemaOrRef.memberOfAdditional_eq, SchemaOrRef.memberOfOption_eq, SchemaOrRef.memberOfList_eq]
  refine ⟨_, rfl, ?_⟩
  rw [← List.append_nil (_ ++ Json.optionEntry "example" _ _)]
  simp only [List.append_assoc]
  exact
    .option (fun t _ => ⟨t.toJson_ne_null, t.readsBack⟩) rfl <|
    .text rfl <|
    .text rfl <|
    .text rfl <|
    .value h.default rfl <|
    .flag rfl <|
    .map h.properties rfl <|
    .list (fun _ _ => Shape.string_readsBack _) rfl <|
    .option (fun a ha => ⟨a.toJson_ne_null, h.additional a ha⟩) rfl <|
    .option (fun t ht => ⟨t.toJson_ne_null, h.items t ht⟩) rfl <|
    .list h.allOf rfl <|
    .list h.oneOf rfl <|
    .list h.anyOf rfl <|
    .option (fun d _ => ⟨Json.noConfusion, d.readsBack⟩) rfl <|
    .list (fun v _ => Shape.any_readsBack v) rfl <|
    .flag rfl <|
    .flag rfl <|
    .flag rfl <|
    .value h.const rfl <|
    .value h.exampleValue rfl .nil

end Schema

/-! ## Schemas -/

namespace SchemaOrRef

theorem refOfEntries?_eq_none {es : Entries Json}
    (h : ∀ path, es.get? "$ref" ≠ some (.string path)) : refOfEntries? es = none := by
  unfold refOfEntries?
  split <;> simp_all

/-- Among the members of an inline schema there is no text under `$ref`: the value under `nullable`
    fits, and together they would make a reference. -/
theorem get?_ref_ne_string {es : Entries Json} {s : Schema} (href : refOfEntries? es = none)
    (h : es.foldlM Schema.shape.takeMember Schema.shape.blank = .ok s) (path : String) :
    es.get? "$ref" ≠ some (.string path) := by
  intro hget
  cases hnullable : es.get? "nullable" with
  | none => simp [refOfEntries?, hget, hnullable] at href
  | some v =>
      have hfield : .option "nullable" Shape.bool (fun v s => { s with nullable := v })
          ∈ Schema.shape.fields := by simp [Schema.shape]
      obtain ⟨r₁, r₂, htake⟩ := RecordShape.exists_take_of_foldlM Schema.names_nodup h hfield
        (Entries.mem_of_get? hnullable)
      obtain ⟨o, ho, -⟩ := map_ok_iff.1 htake
      cases v with
      | null => simp [refOfEntries?, hget, hnullable] at href
      | bool b => simp [refOfEntries?, hget, hnullable] at href
      | _ => cases ho

theorem exists_eq_ref {es : Entries Json} {s : SchemaOrRef} (h : refOfEntries? es = some s) :
    ∃ path nullable, s = .ref path nullable := by
  unfold refOfEntries? at h
  split at h
  · exact ⟨_, _, (Option.some.inj h).symm⟩
  · exact ⟨_, _, (Option.some.inj h).symm⟩
  · exact ⟨_, _, (Option.some.inj h).symm⟩
  · cases h

theorem ref_readsBack (path : String) (nullable : Option Bool) :
    ReadsBack ofJson toJson (.ref path nullable) := by
  cases nullable <;> simp [ReadsBack, toJson, ofJson, refOfEntries?, Json.optionEntry]

/-- An inline schema is read back when the schemas in its members are. -/
theorem inline_readsBack {es : Entries Json} {s : Schema} (href : refOfEntries? es = none)
    (hread : Schema.takeMembers es {} = .ok s) (hs : s.Readable) :
    ReadsBack ofJson toJson (.inline s) := by
  have hfold : es.foldlM Schema.shape.takeMember Schema.shape.blank = .ok s :=
    Schema.takeMembers_eq_foldlM es {} ▸ hread
  rw [← Schema.read_object] at hread
  have hback := Schema.keepsExtra.readsBack Schema.names_nodup hread hs.restores
  have hsame := Schema.keepsExtra.member?_write hread hs.restores
    (show "$ref" ∉ Schema.shape.names by decide)
  obtain ⟨fs, hwritten⟩ := (inline s).exists_toJson_eq
  rw [show s.toJson = .object fs from hwritten] at hsame
  have hnone : refOfEntries? fs = none :=
    refOfEntries?_eq_none fun path => ne_of_eq_of_ne hsame (get?_ref_ne_string href hfold path)
  rw [ReadsBack, show s.toJson = .object fs from hwritten, Schema.read_object] at hback
  rw [ReadsBack, hwritten, ofJson, hnone, hback]

/-- Whatever is read as a schema is read again from what is written for it. -/
theorem readsBack {v : Json} {s : SchemaOrRef} (h : ofJson v = .ok s) : ReadsBack ofJson toJson s := by
  induction hn : sizeOf v using Nat.strongRecOn generalizing v s with
  | ind n ih =>
      subst hn
      cases v with
      | object es =>
          have ihes : FaithfulBelow (sizeOf es) := by
            intro w hw t ht
            exact ih (sizeOf w) (by rw [Json.object.sizeOf_spec]; omega) ht rfl
          rw [ofJson] at h
          split at h
          · next href =>
              obtain rfl := Except.ok.inj h
              obtain ⟨path, nullable, rfl⟩ := exists_eq_ref href
              exact ref_readsBack path nullable
          · next href =>
              split at h
              · next s hread =>
                  obtain rfl := Except.ok.inj h
                  refine inline_readsBack href hread (Schema.readable_of_foldlM ihes ?_)
                  rw [← hread, Schema.takeMembers_eq_foldlM]
                  rfl
              · cases h
      | _ => simp [ofJson] at h

theorem faithful : Faithful ofJson toJson := fun _ _ h => readsBack h

end SchemaOrRef

end OpenApi
