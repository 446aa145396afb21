import OpenApi.Distinct
import OpenApi.Model.Builder
import OpenApi.Naming.Route
import OpenApi.Operation.Basic
import OpenApi.Options

set_option autoImplicit false

/-! # Collecting operations

The operations of a document in its order: path by path, and under each path by method. Collecting one
follows its references and adds the schemas of its parameters, body and responses to the graph. What
depends on other operations or on the finished graph is left open: identities, results, and whether
bodies are inlined. -/

namespace OpenApi

/-! ## What a path declares -/

/-- Puts a parameter in the place of the first one of the same name and place, or at the end. -/
def overrideParameter (p : ParameterSpec) : List ParameterSpec → List ParameterSpec
  | [] => [p]
  | q :: qs =>
      if q.name = p.name ∧ q.place = p.place then p :: qs else q :: overrideParameter p qs

/-- The parameters of a path as overridden by those of an operation. -/
def mergedParameters (c : Components) (shared own : List (RefOr ParameterSpec)) :
    Except ResolveError (List ParameterSpec) := do
  let shared ← shared.mapM c.resolveParameter
  let own ← own.mapM c.resolveParameter
  pure (own.foldl (fun merged p => overrideParameter p merged) shared)

/-- The operations of a path by method. -/
def PathItem.operations (item : PathItem) : List (Method × OperationSpec) :=
  Method.all.filterMap fun method => (item.operation? method).map (method, ·)

namespace Build

/-! ## Parameters and bodies -/

/-- The node of a thing with an optional schema. -/
def occurrenceOrAny (c : Components) (name hint : String) : Option SchemaOrRef → Build ModelId
  | some s => occurrence c name hint s
  | none => push (Model.any name)

/-- The word for a place in the names of promoted schemas. -/
def placeWord : Place → String
  | .path => "Path"
  | .query => "Query"
  | .header => "Header"
  | .cookie => "Cookie"

/-- What a declared parameter says about its node. -/
def parameterFlags (p : ParameterSpec) (isRequired : Bool) (m : Model) : Model :=
  { m with
    isRequired := isRequired
    deprecated := p.deprecated.getD m.deprecated
    description := p.description.or m.description }

/-- The format of a parameter's values: only lists in a query or a header have one. -/
def formatOf (r : Registry) (id : ModelId) (p : ParameterSpec) : Option CollectionFormat :=
  if (p.place = .query || p.place = .header) && r.isArray id then
    CollectionFormat.ofLocation? (.declared p.place) p.style p.explode
  else none

/-- A declared parameter. One in the path is always required. -/
def parameter (c : Components) (scope : String) (p : ParameterSpec) : Build Parameter := do
  let isRequired := p.required || p.place = .path
  let hint := scope ++ "Request" ++ placeWord p.place ++ "Parameters"
  let id ← occurrenceOrAny c p.name hint p.schema
  update id (parameterFlags p isRequired)
  pure
    { model := id
      location := .declared p.place
      name := p.name
      prop := (CasedName.ofString p.name).camel
      collectionFormat := formatOf (← graph) id p
      isRequired := isRequired
      description := p.description
      vendorExtensions := p.extra.extensions }

/-- What a declared body says about its node. -/
def bodyFlags (body : RequestBody) (m : Model) : Model :=
  { m with isRequired := body.required, description := body.description.or m.description }

/-- The body of an operation as a parameter, in the media type that clients speak. -/
def bodyOf (c : Components) (scope : String) (body : RequestBody) : Build (List Parameter) := do
  match body.content.preferred? with
  | none => do
      note (.ignoringBody scope)
      pure []
  | some (mediaType, media) => do
      let id ← occurrenceOrAny c "body" (scope ++ "RequestBodyParameters") media.schema
      update id (bodyFlags body)
      pure
        [{ model := id
           location := .body
           name := "body"
           prop := "body"
           mediaType := some mediaType
           isRequired := body.required
           description := body.description
           vendorExtensions := body.extra.extensions }]

/-- The body of an operation, if it declares one. -/
def body (c : Components) (scope : String) : Option (RefOr RequestBody) → Build (List Parameter)
  | none => pure []
  | some r => do bodyOf c scope (← resolving (c.resolveRequestBody r))

/-! ## Responses -/

/-- The node of a response's body, if it has one. -/
def responseModel (c : Components) (scope key : String) (content : Content) :
    Build (Option ModelId) :=
  match content.preferred? with
  | none => pure none
  | some (_, media) => do
      pure (some (← occurrenceOrAny c key (scope ++ key ++ "Response") media.schema))

/-- A response. -/
def response (c : Components) (scope operationId key : String) (r : RefOr ResponseSpec) :
    Build Response := do
  match ResponseCode.ofKey? key with
  | none => fail (.invalidResponseCode operationId key)
  | some code => do
      let spec ← resolving (c.resolveResponse r)
      let model ← responseModel c scope key spec.content
      pure
        { model := model
          code := code
          mediaTypes := Entries.keys spec.content
          description := spec.description
          vendorExtensions := spec.extra.extensions }

/-! ## Operations -/

/-- The name of an operation: its id where there is one and the strategy asks for it, else a name made
    from the route. -/
def operationName (strategy : NamingStrategy) (method : Method) (path : String)
    (declared : Option String) : String :=
  match strategy, declared with
  | .useOperationId, some id => id
  | _, _ => Route.name method.name path

/-- An operation. -/
def operation (c : Components) (options : Options) (path : String) (method : Method)
    (shared : List (RefOr ParameterSpec)) (op : OperationSpec) : Build Operation := do
  let name := operationName options.naming method path op.operationId
  let scope := Text.pascalCase name
  let specs ← resolving (mergedParameters c shared op.parameters)
  let parameters ← specs.mapM (parameter c scope)
  let body ← body c scope op.requestBody
  let responses ← op.responses.mapM fun e => response c scope name e.1 e.2
  note (.collected method path name)
  pure
    { path := path
      method := method
      operationId := name
      name := CasedName.ofString name
      uniqueName := name
      tags := distinct op.tags
      parameters := parameters ++ body
      responses := responses.mergeSort fun a b => a.code.le b.code
      summary := op.summary
      description := op.description
      deprecated := op.deprecated.getD false
      vendorExtensions := op.extra.extensions }

/-- The operations of a document. -/
def collect (d : Document) (options : Options) : Build (List Operation) := do
  let perPath ← d.paths.mapM fun (path, item) =>
    item.operations.mapM fun (method, op) =>
      operation d.componentsOrNone options path method item.parameters op
  pure perPath.flatten

end Build

end OpenApi
