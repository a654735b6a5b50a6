import EndpointInference.Handler
import EndpointInference.Options
import EndpointInference.Serial.Data
import EndpointInference.Symbols
import EndpointInference.TypeInfo

/-!
The serialized form of handlers, types and contracts. A structure is a record of all its fields, a
choice without data its name, and a choice with data a record with its name as the only field.
-/

namespace EndpointInference

mutual
def TypeRef.data : TypeRef → Data
  | ⟨path, args⟩ => .record [("path", .text path), ("args", .list (TypeRef.dataList args))]

def TypeRef.dataList : List TypeRef → List Data
  | [] => []
  | ty :: rest => ty.data :: TypeRef.dataList rest
end

def Location.data (location : Location) : Data :=
  .record [
    ("file", .ofOption .text location.file),
    ("line", .number location.line),
    ("column", .number location.column)]

/-! ### Diagnostics -/

def Severity.name : Severity → String
  | error => "Error"
  | warning => "Warning"
  | info => "Info"

def Diagnostic.fields (diagnostic : Diagnostic) : List (String × Data) :=
  [("code", .text diagnostic.code.name),
   ("severity", .text diagnostic.severity.name),
   ("location", diagnostic.location.data),
   ("message", .text diagnostic.message)]

def Diagnostic.data (diagnostic : Diagnostic) : Data :=
  .record (diagnostic.fields ++ [("display", .text diagnostic.text)])

/-! ### Parameters and types -/

def Annotation.data : Annotation → Data
  | asParameters => .text "AsParameters"
  | body allowEmpty => .tagged "Body" (.record [("allow_empty", .bool allowEmpty)])
  | form name => .tagged "Form" (.record [("name", .ofOption .text name)])
  | service => .text "Service"
  | keyedService key => .tagged "KeyedService" (.record [("key", .text key)])
  | header name => .tagged "Header" (.record [("name", .ofOption .text name)])
  | route name => .tagged "Route" (.record [("name", .ofOption .text name)])
  | query name => .tagged "Query" (.record [("name", .ofOption .text name)])

def SpecialRole.name : SpecialRole → String
  | context => "Context"
  | cancellation => "Cancellation"
  | formFile => "FormFile"
  | formFileCollection => "FormFileCollection"
  | formCollection => "FormCollection"
  | stream => "Stream"
  | pipeReader => "PipeReader"

def SpecialRole.all : List SpecialRole :=
  [context, cancellation, formFile, formFileCollection, formCollection, stream, pipeReader]

def CustomBinding.name : CustomBinding → String
  | tryParse => "TryParse"
  | bindAsync => "BindAsync"
  | bindable => "Bindable"

def CustomBinding.all : List CustomBinding :=
  [tryParse, bindAsync, bindable]

def Parameter.data (param : Parameter) : Data :=
  .record [
    ("name", .text param.name),
    ("ty", param.ty.data),
    ("nullable", .bool param.nullable),
    ("element", .ofOption TypeRef.data param.element),
    ("annotation", .ofOption Annotation.data param.annotation),
    ("special", .ofOption (fun role => .text role.name) param.special),
    ("custom_binding", .ofOption (fun binding => .text binding.name) param.customBinding),
    ("location", param.location.data)]

def BindingSource.data : BindingSource → Data
  | keyedService key => .tagged "KeyedService" (.text key)
  | source => .text source.text

mutual
def EndpointParameter.data : EndpointParameter → Data
  | ⟨name, ty, source, key, nullable, allowEmptyBody, children⟩ =>
    .record [
      ("name", .text name),
      ("ty", ty.data),
      ("source", source.data),
      ("key", .ofOption .text key),
      ("nullable", .bool nullable),
      ("allow_empty_body", .bool allowEmptyBody),
      ("children", .list (EndpointParameter.dataList children))]

def EndpointParameter.dataList : List EndpointParameter → List Data
  | [] => []
  | param :: rest => param.data :: EndpointParameter.dataList rest
end

def TypeKind.name : TypeKind → String
  | struct => "Struct"
  | enumeration => "Enum"
  | interface => "Interface"
  | abstract => "Abstract"

def TypeKind.all : List TypeKind :=
  [struct, enumeration, interface, abstract]

def Constructor.data (ctor : Constructor) : Data :=
  .record [("params", .ofList Parameter.data ctor.params), ("public", .bool ctor.isPublic)]

def Property.data (property : Property) : Data :=
  .record [
    ("name", .text property.name),
    ("ty", property.ty.data),
    ("readable", .bool property.readable),
    ("public", .bool property.isPublic),
    ("inherited", .bool property.inherited)]

def TypeInfo.data (info : TypeInfo) : Data :=
  .record [
    ("ty", info.ty.data),
    ("kind", .text info.kind.name),
    ("constructors", .ofList Constructor.data info.constructors),
    ("properties", .ofList Property.data info.properties)]

/-! ### Outcomes and responses -/

def CustomErrorCode.data (custom : CustomErrorCode) : Data :=
  .record [("code", .text custom.code), ("status", .number custom.status.toNat)]

def ErrorKind.data (kind : ErrorKind) : Data :=
  .text kind.name

def DeclaredErrors.data (declared : DeclaredErrors) : Data :=
  .record [
    ("kinds", .ofList ErrorKind.data declared.kinds),
    ("custom", .ofList CustomErrorCode.data declared.custom)]

def ErrorOutcomes.data (outcomes : ErrorOutcomes) : Data :=
  .record [
    ("kinds", .ofList ErrorKind.data outcomes.kinds),
    ("custom_codes", .ofList CustomErrorCode.data outcomes.customCodes)]

def Delivery.data : Delivery → Data
  | single => .text "Single"
  | stream element eventData =>
    .tagged "Stream" (.record [
      ("element", element.data),
      ("event_data", .ofOption TypeRef.data eventData)])

def SuccessKind.all : List SuccessKind :=
  [payload, success, created, updated, deleted]

def SuccessShape.data (shape : SuccessShape) : Data :=
  .record [
    ("payload", .ofOption TypeRef.data shape.payload),
    ("kind", .text shape.kind.name),
    ("is_async", .bool shape.isAsync),
    ("delivery", shape.delivery.data),
    ("id_property", .ofOption .text shape.idProperty)]

def ResultType.data : ResultType → Data
  | ok ty => .tagged "Ok" ty.data
  | stream ty => .tagged "Stream" ty.data
  | serverSentEvents ty => .tagged "ServerSentEvents" ty.data
  | problem code => .tagged "Problem" (.text code)
  | result => .text result.text

def ResponseVariant.data (variant : ResponseVariant) : Data :=
  .record [
    ("status", .number variant.status.toNat),
    ("result_type", variant.resultType.data),
    ("has_body", .bool variant.hasBody)]

/-! ### Handlers and contracts -/

def Verb.name : Verb → String
  | get => "Get"
  | post => "Post"
  | put => "Put"
  | patch => "Patch"
  | delete => "Delete"
  | head => "Head"
  | options => "Options"
  | trace => "Trace"

def Middleware.data (facts : Middleware) : Data :=
  .record [
    ("requires_authorization", .bool facts.requiresAuthorization),
    ("allow_anonymous", .bool facts.allowAnonymous),
    ("rate_limited", .bool facts.rateLimited),
    ("rate_limit_disabled", .bool facts.rateLimitDisabled),
    ("output_cached", .bool facts.outputCached)]

def Handler.data (handler : Handler) : Data :=
  .record [
    ("id", .text handler.id.text),
    ("name", .text handler.name),
    ("verb", .text handler.verb.name),
    ("route", .text handler.route),
    ("route_variables", .texts handler.routeVariables),
    ("parameters", .ofList Parameter.data handler.parameters),
    ("return_type", handler.returnType.data),
    ("is_async", .bool handler.isAsync),
    ("middleware", handler.middleware.data),
    ("declared_errors", .ofOption DeclaredErrors.data handler.declaredErrors),
    ("location", handler.location.data)]

def Contract.data (contract : Contract) : Data :=
  .record [
    ("handler", .text contract.handler),
    ("verb", .text contract.verb.name),
    ("route", .text contract.route),
    ("parameters", .list (EndpointParameter.dataList contract.parameters)),
    ("success", contract.success.data),
    ("errors", contract.errors.data),
    ("responses", .ofList ResponseVariant.data contract.responses)]

/-! ### Options and targets -/

def WellKnown.data (known : WellKnown) : Data :=
  .record [
    ("result_type", .text known.resultType),
    ("error_type", .text known.errorType),
    ("async_wrappers", .texts known.asyncWrappers),
    ("stream_wrappers", .texts known.streamWrappers),
    ("event_envelope", .text known.eventEnvelope),
    ("success_marker", .text known.successMarker),
    ("created_marker", .text known.createdMarker),
    ("updated_marker", .text known.updatedMarker),
    ("deleted_marker", .text known.deletedMarker),
    ("primitives", .texts known.primitives),
    ("service_suffixes", .texts known.serviceSuffixes)]

def Options.data (options : Options) : Data :=
  .record [
    ("max_result_types", .number options.maxResultTypes),
    ("well_known", options.wellKnown.data)]

def TargetKind.name : TargetKind → String
  | function => "Function"
  | method => "Method"
  | interface => "Interface"
  | abstract => "Abstract"
  | external => "External"

def TargetKind.all : List TargetKind :=
  [function, method, interface, abstract, external]

/-- A constant; a number is written as the text of its digits. -/
def Constant.data : Constant → Data
  | text value => .tagged "Str" (.text value)
  | int value => .tagged "Int" (.text (toString value))
  | bool value => .tagged "Bool" (.bool value)

end EndpointInference
