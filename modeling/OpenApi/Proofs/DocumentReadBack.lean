import OpenApi.Document.Shape
import OpenApi.Proofs.SchemaReadBack

set_option autoImplicit false

/-! # Documents are read back

Each part of a document is `Readable` when what stands in it reads back; every part that was read is,
and a readable part is restored by what is written for it. From the bodies up to the whole document
this gives `Document.readsBack`. -/

namespace OpenApi

/-! ## Bodies -/

namespace MediaType

variable {m : MediaType}

/-- The schema and the example of a media type read back. -/
structure Readable (m : MediaType) : Prop where
  schema : ∀ s ∈ m.schema, ReadsBack SchemaOrRef.ofJson SchemaOrRef.toJson s
  exampleValue : ∀ v ∈ m.exampleValue, v ≠ .null

theorem readable_of_read {v : Json} (h : shape.read v = .ok m) : m.Readable := by
  refine RecordShape.read_keeps (s := shape) (fun v => ?_) (fun _ _ hr => hr)
    (by constructor <;> simp [shape]) h
  exact
    .cons (fun _ _ hs hr => { hr with schema := SchemaOrRef.faithful.optional hs }) <|
    .cons (fun _ _ ho hr => { hr with
      exampleValue := fun _ hw => Shape.ne_null_of_optional_any ho hw }) <|
    .cons (fun _ _ _ hr => { hr with }) .nil

theorem Readable.readsBack (h : m.Readable) : ReadsBack shape.read toJson m := by
  rw [ReadsBack, toJson, ← List.append_nil (_ ++ Json.mapEntry "examples" _ _)]
  simp only [List.append_assoc]
  refine Restores.read_object (by decide) ?_
  exact
    .option (fun s hs => ⟨s.toJson_ne_null, h.schema s hs⟩) rfl <|
    .value h.exampleValue rfl <|
    .map (fun _ _ => Shape.any_readsBack _) rfl .nil

theorem faithful : Faithful shape.read toJson := fun _ _ h => (readable_of_read h).readsBack

end MediaType

theorem Content.readsBack {c : Content}
    (h : ∀ e ∈ c, ReadsBack MediaType.shape.read MediaType.toJson e.2) :
    ReadsBack Content.ofJson Content.toJson c :=
  Shape.entries_object_mapValues h

/-! ## References -/

namespace RefOr

variable {α : Type} {choice : String} {read : Json → Except ShapeError α} {write : α → Json}

theorem refOfJson?_eq_bind (v : Json) : refOfJson? v = (v.member? "$ref").bind Json.string? := by
  cases v <;> rfl

/-- A thing that is not taken for a reference when it is written reads back with its
    alternative. -/
theorem faithful (hf : Faithful read write)
    (href : ∀ v a, read v = .ok a → refOfJson? (write a) = refOfJson? v) :
    Faithful (ofJson choice read) (toJson write) := by
  intro v x h
  rw [ofJson] at h
  split at h
  · next path _ =>
      obtain rfl := Except.ok.inj h
      rfl
  · next hnone =>
      split at h
      · next a hread =>
          obtain rfl := Except.ok.inj h
          have hback : read (write a) = .ok a := hf v a hread
          rw [ReadsBack, toJson, ofJson, href v a hread, hnone, hback]
      · cases h

/-- A record that keeps its unknown members keeps what stands under `$ref`, so it is not taken for a
    reference when it is written. -/
theorem faithful_of_restores {s : RecordShape α} {extra : α → Entries Json}
    {withExtra : Entries Json → α → α} (hs : s.KeepsExtra extra withExtra)
    (hnames : s.names.Nodup) (href : "$ref" ∉ s.names)
    (hw : ∀ {v a}, s.read v = .ok a → ∃ es, write a = .object (es ++ extra a) ∧
      Restores s.fields es s.blank (withExtra [] a)) :
    Faithful (ofJson choice s.read) (toJson write) := by
  refine faithful (fun v a h => hs.readsBack hnames h (hw h)) fun v a h => ?_
  rw [refOfJson?_eq_bind, refOfJson?_eq_bind, hs.member?_write h (hw h) href]

theorem toJson_ne_null (h : ∀ a, write a ≠ .null) (x : RefOr α) : x.toJson write ≠ .null := by
  cases x with
  | ref path => exact Json.noConfusion
  | inline a => exact h a

end RefOr

/-! ## Parameters -/

theorem Place.readsBack (p : Place) : ReadsBack Place.ofJson (fun p => .string p.name) p := by
  cases p <;> rfl

namespace ParameterSpec

variable {p : ParameterSpec}

theorem keepsExtra : shape.KeepsExtra (·.extra) fun es p => { p with extra := es } where
  fields _ _ := by repeat first | exact .nil | refine .cons (fun _ _ _ h => h) ?_

/-- The schema and the example of a parameter read back. -/
structure Readable (p : ParameterSpec) : Prop where
  schema : ∀ s ∈ p.schema, ReadsBack SchemaOrRef.ofJson SchemaOrRef.toJson s
  exampleValue : ∀ v ∈ p.exampleValue, v ≠ .null

theorem readable_of_read {v : Json} (h : shape.read v = .ok p) : p.Readable := by
  refine RecordShape.read_keeps (s := shape) (fun v => ?_) (fun _ _ hr => { hr with })
    (by constructor <;> simp [shape]) h
  exact
    .cons (fun _ _ _ hr => { hr with }) <|
    .cons (fun _ _ _ hr => { hr with }) <|
    .cons (fun _ _ _ hr => { hr with }) <|
    .cons (fun _ _ _ hr => { hr with }) <|
    .cons (fun _ _ _ hr => { hr with }) <|
    .cons (fun _ _ hs hr => { hr with schema := SchemaOrRef.faithful.optional hs }) <|
    .cons (fun _ _ _ hr => { hr with }) <|
    .cons (fun _ _ _ hr => { hr with }) <|
    .cons (fun _ _ ho hr => { hr with
      exampleValue := fun _ hw => Shape.ne_null_of_optional_any ho hw }) .nil

theorem Readable.restores (h : p.Readable) : ∃ es, p.toJson = .object (es ++ p.extra) ∧
    Restores shape.fields es shape.blank { p with extra := [] } := by
  refine ⟨_, rfl, ?_⟩
  rw [← List.append_nil (_ ++ Json.optionEntry "example" _ _)]
  simp only [List.append_assoc, List.cons_append, List.nil_append]
  exact
    .require (Shape.string_readsBack _) <|
    .require p.place.readsBack <|
    .text rfl <|
    .default (Shape.bool_readsBack _) <|
    .flag rfl <|
    .option (fun s hs => ⟨s.toJson_ne_null, h.schema s hs⟩) rfl <|
    .text rfl <|
    .flag rfl <|
    .value h.exampleValue rfl .nil

theorem faithful : Faithful ofJson (RefOr.toJson toJson) :=
  RefOr.faithful_of_restores keepsExtra (by decide) (by decide) fun h =>
    (readable_of_read h).restores

end ParameterSpec

/-! ## Request bodies and responses -/

namespace RequestBody

variable {b : RequestBody}

theorem keepsExtra : shape.KeepsExtra (·.extra) fun es b => { b with extra := es } where
  fields _ _ := by repeat first | exact .nil | refine .cons (fun _ _ _ h => h) ?_

/-- The bodies of a request body read back. -/
def Readable (b : RequestBody) : Prop :=
  ∀ e ∈ b.content, ReadsBack MediaType.shape.read MediaType.toJson e.2

theorem readable_of_read {v : Json} (h : shape.read v = .ok b) : b.Readable := by
  refine RecordShape.read_keeps (s := shape) (fun v => ?_) (fun _ _ hr => hr)
    (by simp [Readable, shape]) h
  exact
    .cons (fun _ _ _ hr => hr) <|
    .cons (fun _ _ hc _ => MediaType.faithful.entries hc) <|
    .cons (fun _ _ _ hr => hr) .nil

theorem Readable.restores (h : b.Readable) : ∃ es, b.toJson = .object (es ++ b.extra) ∧
    Restores shape.fields es shape.blank { b with extra := [] } := by
  refine ⟨_, rfl, ?_⟩
  exact
    .text rfl <|
    .default (Content.readsBack h) <|
    .default (Shape.bool_readsBack _) .nil

theorem faithful : Faithful ofJson (RefOr.toJson toJson) :=
  RefOr.faithful_of_restores keepsExtra (by decide) (by decide) fun h =>
    (readable_of_read h).restores

end RequestBody

namespace ResponseSpec

variable {r : ResponseSpec}

theorem keepsExtra : shape.KeepsExtra (·.extra) fun es r => { r with extra := es } where
  fields _ _ := by repeat first | exact .nil | refine .cons (fun _ _ _ h => h) ?_

/-- The bodies of a response read back. -/
def Readable (r : ResponseSpec) : Prop :=
  ∀ e ∈ r.content, ReadsBack MediaType.shape.read MediaType.toJson e.2

theorem readable_of_read {v : Json} (h : shape.read v = .ok r) : r.Readable := by
  refine RecordShape.read_keeps (s := shape) (fun v => ?_) (fun _ _ hr => hr)
    (by simp [Readable, shape]) h
  exact
    .cons (fun _ _ _ hr => hr) <|
    .cons (fun _ _ hc _ => MediaType.faithful.entries hc) .nil

theorem Readable.restores (h : r.Readable) : ∃ es, r.toJson = .object (es ++ r.extra) ∧
    Restores shape.fields es shape.blank { r with extra := [] } := by
  refine ⟨_, rfl, ?_⟩
  rw [← List.append_nil (_ ++ Json.mapEntry "content" _ _)]
  exact .default (Shape.string_readsBack _) <| .map h rfl .nil

theorem faithful : Faithful ofJson (RefOr.toJson toJson) :=
  RefOr.faithful_of_restores keepsExtra (by decide) (by decide) fun h =>
    (readable_of_read h).restores

end ResponseSpec

/-! ## Operations and paths -/

namespace OperationSpec

variable {o : OperationSpec}

theorem keepsExtra : shape.KeepsExtra (·.extra) fun es o => { o with extra := es } where
  fields _ _ := by repeat first | exact .nil | refine .cons (fun _ _ _ h => h) ?_

/-- The parameters, the body and the responses of an operation read back. -/
structure Readable (o : OperationSpec) : Prop where
  parameters : ∀ p ∈ o.parameters,
    ReadsBack ParameterSpec.ofJson (RefOr.toJson ParameterSpec.toJson) p
  requestBody : ∀ b ∈ o.requestBody, ReadsBack RequestBody.ofJson (RefOr.toJson RequestBody.toJson) b
  responses : ∀ e ∈ o.responses,
    ReadsBack ResponseSpec.ofJson (RefOr.toJson ResponseSpec.toJson) e.2

theorem readable_of_read {v : Json} (h : shape.read v = .ok o) : o.Readable := by
  refine RecordShape.read_keeps (s := shape) (fun v => ?_) (fun _ _ hr => { hr with })
    (by constructor <;> simp [shape]) h
  exact
    .cons (fun _ _ _ hr => { hr with }) <|
    .cons (fun _ _ _ hr => { hr with }) <|
    .cons (fun _ _ _ hr => { hr with }) <|
    .cons (fun _ _ _ hr => { hr with }) <|
    .cons (fun _ _ hp hr => { hr with parameters := ParameterSpec.faithful.list hp }) <|
    .cons (fun _ _ hb hr => { hr with requestBody := RequestBody.faithful.optional hb }) <|
    .cons (fun _ _ he hr => { hr with responses := ResponseSpec.faithful.entries he }) <|
    .cons (fun _ _ _ hr => { hr with }) .nil

theorem Readable.restores (h : o.Readable) : ∃ es, o.toJson = .object (es ++ o.extra) ∧
    Restores shape.fields es shape.blank { o with extra := [] } := by
  refine ⟨_, rfl, ?_⟩
  rw [← List.append_nil (_ ++ Json.optionEntry "deprecated" _ _)]
  simp only [List.append_assoc]
  exact
    .text rfl <|
    .text rfl <|
    .text rfl <|
    .list (fun _ _ => Shape.string_readsBack _) rfl <|
    .list h.parameters rfl <|
    .option (fun b hb => ⟨b.toJson_ne_null fun _ => Json.noConfusion, h.requestBody b hb⟩) rfl <|
    .map h.responses rfl <|
    .flag rfl .nil

theorem faithful : Faithful shape.read toJson :=
  fun _ _ h => keepsExtra.readsBack (by decide) h (readable_of_read h).restores

end OperationSpec

namespace PathItem

variable {i : PathItem}

/-- The parameters and the operations of a path read back. -/
structure Readable (i : PathItem) : Prop where
  parameters : ∀ p ∈ i.parameters,
    ReadsBack ParameterSpec.ofJson (RefOr.toJson ParameterSpec.toJson) p
  get : ∀ o ∈ i.get, ReadsBack OperationSpec.shape.read OperationSpec.toJson o
  post : ∀ o ∈ i.post, ReadsBack OperationSpec.shape.read OperationSpec.toJson o
  put : ∀ o ∈ i.put, ReadsBack OperationSpec.shape.read OperationSpec.toJson o
  delete : ∀ o ∈ i.delete, ReadsBack OperationSpec.shape.read OperationSpec.toJson o
  patch : ∀ o ∈ i.patch, ReadsBack OperationSpec.shape.read OperationSpec.toJson o
  options : ∀ o ∈ i.options, ReadsBack OperationSpec.shape.read OperationSpec.toJson o
  head : ∀ o ∈ i.head, ReadsBack OperationSpec.shape.read OperationSpec.toJson o
  trace : ∀ o ∈ i.trace, ReadsBack OperationSpec.shape.read OperationSpec.toJson o

theorem readable_of_read {v : Json} (h : shape.read v = .ok i) : i.Readable := by
  refine RecordShape.read_keeps (s := shape) (fun v => ?_) (fun _ _ hr => hr)
    (by constructor <;> simp [shape]) h
  exact
    .cons (fun _ _ _ hr => { hr with }) <|
    .cons (fun _ _ _ hr => { hr with }) <|
    .cons (fun _ _ hp hr => { hr with parameters := ParameterSpec.faithful.list hp }) <|
    .cons (fun _ _ ho hr => { hr with get := OperationSpec.faithful.optional ho }) <|
    .cons (fun _ _ ho hr => { hr with post := OperationSpec.faithful.optional ho }) <|
    .cons (fun _ _ ho hr => { hr with put := OperationSpec.faithful.optional ho }) <|
    .cons (fun _ _ ho hr => { hr with delete := OperationSpec.faithful.optional ho }) <|
    .cons (fun _ _ ho hr => { hr with patch := OperationSpec.faithful.optional ho }) <|
    .cons (fun _ _ ho hr => { hr with options := OperationSpec.faithful.optional ho }) <|
    .cons (fun _ _ ho hr => { hr with head := OperationSpec.faithful.optional ho }) <|
    .cons (fun _ _ ho hr => { hr with trace := OperationSpec.faithful.optional ho }) .nil

theorem Readable.readsBack (h : i.Readable) : ReadsBack shape.read toJson i := by
  rw [ReadsBack, toJson, ← List.append_nil (_ ++ Json.optionEntry "trace" _ _)]
  simp only [List.append_assoc]
  refine Restores.read_object (by decide) ?_
  exact
    .text rfl <|
    .text rfl <|
    .list h.parameters rfl <|
    .option (fun o ho => ⟨Json.noConfusion, h.get o ho⟩) rfl <|
    .option (fun o ho => ⟨Json.noConfusion, h.post o ho⟩) rfl <|
    .option (fun o ho => ⟨Json.noConfusion, h.put o ho⟩) rfl <|
    .option (fun o ho => ⟨Json.noConfusion, h.delete o ho⟩) rfl <|
    .option (fun o ho => ⟨Json.noConfusion, h.patch o ho⟩) rfl <|
    .option (fun o ho => ⟨Json.noConfusion, h.options o ho⟩) rfl <|
    .option (fun o ho => ⟨Json.noConfusion, h.head o ho⟩) rfl <|
    .option (fun o ho => ⟨Json.noConfusion, h.trace o ho⟩) rfl .nil

theorem faithful : Faithful shape.read toJson := fun _ _ h => (readable_of_read h).readsBack

end PathItem

/-! ## The document -/

namespace Components

variable {c : Components}

/-- The components read back. -/
structure Readable (c : Components) : Prop where
  schemas : ∀ e ∈ c.schemas, ReadsBack SchemaOrRef.ofJson SchemaOrRef.toJson e.2
  responses : ∀ e ∈ c.responses,
    ReadsBack ResponseSpec.ofJson (RefOr.toJson ResponseSpec.toJson) e.2
  parameters : ∀ e ∈ c.parameters,
    ReadsBack ParameterSpec.ofJson (RefOr.toJson ParameterSpec.toJson) e.2
  requestBodies : ∀ e ∈ c.requestBodies,
    ReadsBack RequestBody.ofJson (RefOr.toJson RequestBody.toJson) e.2

theorem readable_of_read {v : Json} (h : shape.read v = .ok c) : c.Readable := by
  refine RecordShape.read_keeps (s := shape) (fun v => ?_) (fun _ _ hr => hr)
    (by constructor <;> simp [shape]) h
  exact
    .cons (fun _ _ he hr => { hr with schemas := SchemaOrRef.faithful.entries he }) <|
    .cons (fun _ _ he hr => { hr with responses := ResponseSpec.faithful.entries he }) <|
    .cons (fun _ _ he hr => { hr with parameters := ParameterSpec.faithful.entries he }) <|
    .cons (fun _ _ he hr => { hr with
      requestBodies := RequestBody.faithful.entries he }) .nil

theorem Readable.readsBack (h : c.Readable) : ReadsBack shape.read toJson c := by
  rw [ReadsBack, toJson, ← List.append_nil (_ ++ Json.mapEntry "requestBodies" _ _)]
  simp only [List.append_assoc]
  refine Restores.read_object (by decide) ?_
  exact .map h.schemas rfl <| .map h.responses rfl <| .map h.parameters rfl <|
    .map h.requestBodies rfl .nil

theorem faithful : Faithful shape.read toJson := fun _ _ h => (readable_of_read h).readsBack

end Components

theorem Info.readsBack (i : Info) : ReadsBack shape.read toJson i := by
  rw [ReadsBack, toJson]
  simp only [List.cons_append, List.nil_append]
  refine Restores.read_object (by decide) ?_
  exact
    .require (Shape.string_readsBack _) <|
    .text rfl <|
    .require (Shape.string_readsBack _) .nil

theorem Tag.readsBack (t : Tag) : ReadsBack shape.read toJson t := by
  rw [ReadsBack, toJson, ← List.append_nil (Json.optionEntry ..)]
  refine Restores.read_object (by decide) ?_
  exact
    .require (Shape.string_readsBack _) <|
    .text rfl .nil

namespace Document

variable {d : Document}

theorem keepsExtra : shape.KeepsExtra (·.extra) fun es d => { d with extra := es } where
  fields _ _ := by repeat first | exact .nil | refine .cons (fun _ _ _ h => h) ?_

/-- The paths and the components of a document read back. -/
structure Readable (d : Document) : Prop where
  paths : ∀ e ∈ d.paths, ReadsBack PathItem.shape.read PathItem.toJson e.2
  components : ∀ c ∈ d.components, ReadsBack Components.shape.read Components.toJson c

theorem readable_of_read {v : Json} (h : shape.read v = .ok d) : d.Readable := by
  refine RecordShape.read_keeps (s := shape) (fun v => ?_) (fun _ _ hr => { hr with })
    (by constructor <;> simp [shape]) h
  exact
    .cons (fun _ _ _ hr => { hr with }) <|
    .cons (fun _ _ _ hr => { hr with }) <|
    .cons (fun _ _ he hr => { hr with paths := PathItem.faithful.entries he }) <|
    .cons (fun _ _ hc hr => { hr with components := Components.faithful.optional hc }) <|
    .cons (fun _ _ _ hr => { hr with }) .nil

theorem Readable.restores (h : d.Readable) : ∃ es, d.toJson = .object (es ++ d.extra) ∧
    Restores shape.fields es shape.blank { d with extra := [] } := by
  refine ⟨_, rfl, ?_⟩
  rw [← List.append_nil (_ ++ Json.listEntry "tags" _ _)]
  simp only [List.append_assoc, List.cons_append, List.nil_append]
  exact
    .require (Shape.string_readsBack _) <|
    .require d.info.readsBack <|
    .map h.paths rfl <|
    .option (fun c hc => ⟨Json.noConfusion, h.components c hc⟩) rfl <|
    .list (fun t _ => t.readsBack) rfl .nil

/-- A document that was read is read again, as it is, from what is written for it. -/
theorem ofJson_toJson {v : Json} (h : ofJson v = .ok d) : ofJson d.toJson = .ok d :=
  keepsExtra.readsBack (by decide) h (readable_of_read h).restores

/-- A document in a form in which none is written: lists stand for records, null for what is absent,
    and unknown members come first, some of them under `$ref` with no text. -/
def unusualDocument : Json := .object
  [("x-origin", .string "design"),
    ("info", .array [.string "Pets", .null, .string "1"]),
    ("openapi", .string "3.0.3"),
    ("paths", .object [("/pets", .object [("get", .object
      [("x-rate", .number (.int 5)),
        ("parameters", .array
          [.object
            [("$ref", .bool true),
              ("name", .string "limit"),
              ("in", .object [("query", .null)]),
              ("schema", .object [("$ref", .string "#/components/schemas/Limit"),
                ("nullable", .null)])],
            .object [("name", .string "page"), ("$ref", .string "#/components/parameters/Page")]]),
        ("responses", .object [("200", .object [("content", .object [("application/json", .array
          [.object
            [("$ref", .null),
              ("items", .object [("type", .array [.string "string"])]),
              ("type", .string "array")],
            .null])])])])])])])]

theorem ofJson_toJson_unusual :
    ∃ d, ofJson unusualDocument = .ok d ∧ d.toJson ≠ unusualDocument ∧ ofJson d.toJson = .ok d := by
  obtain ⟨d, hd⟩ := exists_eq_ok_of_isOk (show (ofJson unusualDocument).isOk = true by decide)
  have hwritten : (ofJson unusualDocument).toOption.map toJson ≠ some unusualDocument := by decide
  refine ⟨d, hd, ?_, ofJson_toJson hd⟩
  intro heq
  exact hwritten (by rw [hd, ← heq]; rfl)

end Document

end OpenApi
