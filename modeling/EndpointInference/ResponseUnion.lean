import EndpointInference.Handler
import EndpointInference.Log
import EndpointInference.Options
import EndpointInference.Text.Quoted

/-!
The responses of a handler. Each part of its contract contributes variants in a fixed order; of
variants with the same status and result type the first stays, and they are sorted by status.
-/

namespace EndpointInference

def SuccessShape.variant (success : SuccessShape) : ResponseVariant :=
  match success.kind, success.delivery, success.payload with
  | .payload, .stream _ (some data), _ => ⟨200, .serverSentEvents data, true⟩
  | .payload, .stream element none, _ => ⟨200, .stream element, true⟩
  | .payload, .single, some payload => ⟨200, .ok payload, true⟩
  | .created, _, _ => ⟨201, .created, false⟩
  | _, _, _ => ⟨204, .noContent, false⟩

/-- The response of an error; failures have that of the server. -/
def ErrorKind.variant? (kind : ErrorKind) : Option ResponseVariant :=
  match kind with
  | .validation => some ⟨kind.status, .validationProblem, true⟩
  | .unauthorized => some ⟨kind.status, .unauthorized, false⟩
  | .forbidden => some ⟨kind.status, .forbidden, false⟩
  | .notFound => some ⟨kind.status, .notFound, true⟩
  | .conflict => some ⟨kind.status, .conflict, true⟩
  | .failure | .unexpected => none

def CustomErrorCode.variant (custom : CustomErrorCode) : ResponseVariant :=
  ⟨custom.status, .problem custom.code, true⟩

namespace ResponseUnion

/-- All variants that are contributed, in order, perhaps several times. -/
def contributions (handler : Handler) (success : SuccessShape)
    (parameters : List EndpointParameter) (errors : ErrorOutcomes) : List ResponseVariant :=
  [success.variant, ⟨400, .badRequest, true⟩] ++
    (if EndpointParameter.readTypedBody parameters then [⟨415, .unsupportedMediaType, false⟩]
      else []) ++
    (if handler.middleware.authorizationActive then
      [⟨401, .unauthorized, false⟩, ⟨403, .forbidden, false⟩] else []) ++
    (if handler.middleware.rateLimitActive then [⟨429, .tooManyRequests, false⟩] else []) ++
    errors.kinds.filterMap ErrorKind.variant? ++
    [⟨500, .internalServerError, true⟩] ++
    errors.customCodes.map CustomErrorCode.variant

def same (a b : ResponseVariant) : Bool :=
  a.status == b.status && a.resultType == b.resultType

def push (variants : List ResponseVariant) (variant : ResponseVariant) : List ResponseVariant :=
  if variants.any (same · variant) then variants else variants ++ [variant]

def variants (handler : Handler) (success : SuccessShape) (parameters : List EndpointParameter)
    (errors : ErrorOutcomes) : List ResponseVariant :=
  ((contributions handler success parameters errors).foldl push []).mergeSort
    fun a b => a.status ≤ b.status

/-- The variants of a response. Too many of them, or custom errors, leave the response without a
type, which is reported. -/
def build (options : Options) (handler : Handler) (success : SuccessShape)
    (parameters : List EndpointParameter) (errors : ErrorOutcomes) :
    Logged (List ResponseVariant) := do
  let result := variants handler success parameters errors
  if result.length > options.maxResultTypes || !errors.customCodes.isEmpty then
    Logged.report
      (.tooManyResultTypes handler.name result.length options.maxResultTypes handler.location)
  Logged.debug "Response union built"
    [("handler", handler.name), ("responses", Text.quotedList (result.map (·.text)))]
  return result

end ResponseUnion

end EndpointInference
