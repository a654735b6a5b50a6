import EndpointInference.Diagnostic

/-!
Parameters of handlers, before and after they are bound to a part of the request.
-/

namespace EndpointInference

inductive Annotation
  /-- The parameter stands for a group of parameters. -/
  | asParameters
  | body (allowEmpty : Bool)
  | form (name : Option String)
  | service
  /-- A service chosen by a key, kept as it is written. -/
  | keyedService (key : String)
  | header (name : Option String)
  | route (name : Option String)
  | query (name : Option String)
deriving DecidableEq, Repr

inductive SpecialRole
  | context
  | cancellation
  | formFile
  | formFileCollection
  | formCollection
  | stream
  | pipeReader
deriving DecidableEq, Repr

inductive CustomBinding
  | tryParse
  | bindAsync
  | bindable
deriving DecidableEq, Repr

/-- A declared parameter; an optional one has the type it has when present. -/
structure Parameter where
  name : String
  ty : TypeRef
  nullable : Bool := false
  element : Option TypeRef := none
  annotation : Option Annotation := none
  special : Option SpecialRole := none
  customBinding : Option CustomBinding := none
  location : Location := {}
deriving DecidableEq, Repr

namespace Parameter

def isCollection (param : Parameter) : Bool :=
  param.element.isSome

def hasTryParse (param : Parameter) : Bool :=
  param.customBinding == some .tryParse

end Parameter

inductive BindingSource
  | route
  | query
  | header
  | body
  | form
  | formFile
  | formFileCollection
  | formCollection
  | service
  | keyedService (key : String)
  | context
  | cancellation
  | stream
  | pipeReader
  | asParameters
  | custom
deriving DecidableEq, Repr, Inhabited

namespace BindingSource

def isFormLike : BindingSource → Bool
  | form | formFile | formFileCollection | formCollection => true
  | _ => false

/-- Whether the request's body has to be of a certain media type. -/
def readsTypedBody (source : BindingSource) : Bool :=
  source == .body || source.isFormLike

def ofSpecial : SpecialRole → BindingSource
  | .context => context
  | .cancellation => cancellation
  | .formFile => formFile
  | .formFileCollection => formFileCollection
  | .formCollection => formCollection
  | .stream => stream
  | .pipeReader => pipeReader

def text : BindingSource → String
  | route => "Route"
  | query => "Query"
  | header => "Header"
  | body => "Body"
  | form => "Form"
  | formFile => "FormFile"
  | formFileCollection => "FormFileCollection"
  | formCollection => "FormCollection"
  | service => "Service"
  | keyedService key => "KeyedService(" ++ key ++ ")"
  | context => "Context"
  | cancellation => "Cancellation"
  | stream => "Stream"
  | pipeReader => "PipeReader"
  | asParameters => "AsParameters"
  | custom => "Custom"

end BindingSource

/-- A parameter with its source; groups and compound forms have children. -/
structure EndpointParameter where
  name : String
  ty : TypeRef
  source : BindingSource
  key : Option String := none
  nullable : Bool := false
  allowEmptyBody : Bool := false
  children : List EndpointParameter := []
deriving Repr, Inhabited

namespace EndpointParameter

def ofParameter (param : Parameter) (source : BindingSource) : EndpointParameter where
  name := param.name
  ty := param.ty
  source
  nullable := param.nullable

mutual
/-- The parameter and all below it, a parent before its children. -/
def flatten : EndpointParameter → List EndpointParameter
  | ⟨name, ty, source, key, nullable, allowEmptyBody, children⟩ =>
    ⟨name, ty, source, key, nullable, allowEmptyBody, children⟩ :: flattenList children

def flattenList : List EndpointParameter → List EndpointParameter
  | [] => []
  | param :: rest => param.flatten ++ flattenList rest
end

def readTypedBody (params : List EndpointParameter) : Bool :=
  (flattenList params).any (·.source.readsTypedBody)

end EndpointParameter

end EndpointInference
