import EndpointInference.Outcome
import EndpointInference.Parameter
import EndpointInference.Response
import EndpointInference.Text.CaseMap

/-!
Handlers of endpoints, and the contracts inferred for them.
-/

namespace EndpointInference

inductive Verb
  | get
  | post
  | put
  | patch
  | delete
  | head
  | options
  | trace
deriving DecidableEq, Repr

namespace Verb

def all : List Verb :=
  [get, post, put, patch, delete, head, options, trace]

/-- Whether requests of this kind usually have no body. -/
def isBodyless : Verb → Bool
  | get | head | delete | options | trace => true
  | post | put | patch => false

def text : Verb → String
  | get => "GET"
  | post => "POST"
  | put => "PUT"
  | patch => "PATCH"
  | delete => "DELETE"
  | head => "HEAD"
  | options => "OPTIONS"
  | trace => "TRACE"

/-- The verb of this name, in whatever case. -/
def ofText? (text : String) : Option Verb :=
  let upper := Text.toUpper text
  all.find? fun verb => verb.text == upper

end Verb

structure UnknownVerb where
  text : String
deriving DecidableEq, Repr

def UnknownVerb.message (unknown : UnknownVerb) : String :=
  "Invalid HTTP verb: " ++ unknown.text

def Verb.parse (text : String) : Except UnknownVerb Verb :=
  match ofText? text with
  | some verb => .ok verb
  | none => .error ⟨text⟩

structure Middleware where
  requiresAuthorization : Bool := false
  allowAnonymous : Bool := false
  rateLimited : Bool := false
  rateLimitDisabled : Bool := false
  outputCached : Bool := false
deriving DecidableEq, Repr

namespace Middleware

def authorizationActive (facts : Middleware) : Bool :=
  facts.requiresAuthorization && !facts.allowAnonymous

def rateLimitActive (facts : Middleware) : Bool :=
  facts.rateLimited && !facts.rateLimitDisabled

def merge (outer inner : Middleware) : Middleware where
  requiresAuthorization := outer.requiresAuthorization || inner.requiresAuthorization
  allowAnonymous := outer.allowAnonymous || inner.allowAnonymous
  rateLimited := outer.rateLimited || inner.rateLimited
  rateLimitDisabled := outer.rateLimitDisabled || inner.rateLimitDisabled
  outputCached := outer.outputCached || inner.outputCached

end Middleware

structure Handler where
  id : ElementId
  name : String
  verb : Verb
  route : String := "/"
  routeVariables : List String := []
  parameters : List Parameter := []
  returnType : TypeRef
  isAsync : Bool := false
  middleware : Middleware := {}
  declaredErrors : Option DeclaredErrors := none
  location : Location := {}
deriving DecidableEq, Repr

structure Contract where
  handler : String
  verb : Verb
  route : String
  parameters : List EndpointParameter
  success : SuccessShape
  errors : ErrorOutcomes
  responses : List ResponseVariant
deriving Repr

def Contract.statusCodes (contract : Contract) : List UInt16 :=
  contract.responses.map (·.status)

end EndpointInference
