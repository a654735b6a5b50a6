import EndpointInference.TypeRef

/-!
What a handler may answer: the shape of its success, and the variants of its response.
-/

namespace EndpointInference

inductive SuccessKind
  | payload
  | success
  | created
  | updated
  | deleted
deriving DecidableEq, Repr

def SuccessKind.name : SuccessKind → String
  | payload => "Payload"
  | success => "Success"
  | created => "Created"
  | updated => "Updated"
  | deleted => "Deleted"

inductive Delivery
  | single
  /-- A sequence of elements; `eventData` is the type of the data where they are event envelopes. -/
  | stream (element : TypeRef) (eventData : Option TypeRef)
deriving DecidableEq, Repr

structure SuccessShape where
  payload : Option TypeRef := none
  kind : SuccessKind
  isAsync : Bool := false
  delivery : Delivery := .single
  idProperty : Option String := none
deriving DecidableEq, Repr

def SuccessShape.isStreaming (shape : SuccessShape) : Bool :=
  match shape.delivery with
  | .single => false
  | .stream .. => true

inductive ResultType
  | ok (ty : TypeRef)
  | stream (ty : TypeRef)
  | serverSentEvents (ty : TypeRef)
  | created
  | noContent
  /-- A parameter could not be bound. -/
  | badRequest
  | validationProblem
  | unsupportedMediaType
  | unauthorized
  | forbidden
  | notFound
  | conflict
  | tooManyRequests
  | internalServerError
  | problem (code : String)
deriving DecidableEq, Repr

def ResultType.text : ResultType → String
  | ok ty => "Ok<" ++ ty.text ++ ">"
  | stream ty => "Stream<" ++ ty.text ++ ">"
  | serverSentEvents ty => "ServerSentEvents<" ++ ty.text ++ ">"
  | created => "Created"
  | noContent => "NoContent"
  | badRequest => "BadRequest"
  | validationProblem => "ValidationProblem"
  | unsupportedMediaType => "UnsupportedMediaType"
  | unauthorized => "Unauthorized"
  | forbidden => "Forbidden"
  | notFound => "NotFound"
  | conflict => "Conflict"
  | tooManyRequests => "TooManyRequests"
  | internalServerError => "InternalServerError"
  | problem code => "Problem(" ++ code ++ ")"

structure ResponseVariant where
  status : UInt16
  resultType : ResultType
  hasBody : Bool
deriving DecidableEq, Repr

def ResponseVariant.text (variant : ResponseVariant) : String :=
  toString variant.status.toNat ++ " " ++ variant.resultType.text

end EndpointInference
