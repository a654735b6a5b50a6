import EndpointInference.Syntax.Token
import EndpointInference.TypeRef

/-!
Diagnostics: what an author of a handler is told. Each has a stable code, which fixes its severity,
a place and a message.
-/

namespace EndpointInference

inductive Severity
  | error
  | warning
  | info
deriving DecidableEq, Repr

def Severity.text : Severity → String
  | error => "error"
  | warning => "warning"
  | info => "info"

inductive DiagnosticCode
  | multipleBodySources
  | invalidHeaderType
  | invalidRouteType
  | invalidQueryType
  | invalidFormType
  | nullableParameterGroup
  | nestedParameterGroup
  | noUsableConstructor
  | ambiguousBodylessBinding
  | undocumentedInterfaceCall
  | unknownErrorFactory
  | tooManyResultTypes
deriving DecidableEq, Repr

namespace DiagnosticCode

def all : List DiagnosticCode :=
  [multipleBodySources, invalidHeaderType, invalidRouteType, invalidQueryType, invalidFormType,
   nullableParameterGroup, nestedParameterGroup, noUsableConstructor, ambiguousBodylessBinding,
   undocumentedInterfaceCall, unknownErrorFactory, tooManyResultTypes]

def id : DiagnosticCode → String
  | multipleBodySources => "CC0001"
  | invalidHeaderType => "CC0002"
  | invalidRouteType => "CC0003"
  | invalidQueryType => "CC0004"
  | invalidFormType => "CC0005"
  | nullableParameterGroup => "CC0006"
  | nestedParameterGroup => "CC0007"
  | noUsableConstructor => "CC0008"
  | ambiguousBodylessBinding => "CC0009"
  | undocumentedInterfaceCall => "CC0010"
  | unknownErrorFactory => "CC0011"
  | tooManyResultTypes => "CC0012"

def name : DiagnosticCode → String
  | multipleBodySources => "MultipleBodySources"
  | invalidHeaderType => "InvalidHeaderType"
  | invalidRouteType => "InvalidRouteType"
  | invalidQueryType => "InvalidQueryType"
  | invalidFormType => "InvalidFormType"
  | nullableParameterGroup => "NullableParameterGroup"
  | nestedParameterGroup => "NestedParameterGroup"
  | noUsableConstructor => "NoUsableConstructor"
  | ambiguousBodylessBinding => "AmbiguousBodylessBinding"
  | undocumentedInterfaceCall => "UndocumentedInterfaceCall"
  | unknownErrorFactory => "UnknownErrorFactory"
  | tooManyResultTypes => "TooManyResultTypes"

def severity : DiagnosticCode → Severity
  | ambiguousBodylessBinding | undocumentedInterfaceCall | unknownErrorFactory => .warning
  | tooManyResultTypes => .info
  | _ => .error

end DiagnosticCode

structure Location where
  file : Option String := none
  line : Nat := 0
  column : Nat := 0
deriving DecidableEq, Repr, Inhabited

namespace Location

def ofPosition (file : Option String) (position : Syntax.Position) : Location :=
  ⟨file, position.line, position.column⟩

def text (location : Location) : String :=
  location.file.getD "<unknown>" ++ ":" ++ toString location.line ++ ":" ++
    toString location.column

end Location

structure Diagnostic where
  code : DiagnosticCode
  location : Location
  message : String
deriving DecidableEq, Repr

namespace Diagnostic

def severity (diagnostic : Diagnostic) : Severity :=
  diagnostic.code.severity

def isError (diagnostic : Diagnostic) : Bool :=
  diagnostic.severity == .error

/-- The line shown to the author, `file:1:2: error[CC0003]: message`. -/
def text (diagnostic : Diagnostic) : String :=
  diagnostic.location.text ++ ": " ++ diagnostic.severity.text ++ "[" ++ diagnostic.code.id ++
    "]: " ++ diagnostic.message

def multipleBodySources (handler : String) (params : List String) (location : Location) :
    Diagnostic where
  code := .multipleBodySources
  location
  message := s!"Handler '{handler}' reads the request body from more than one source (" ++
    ", ".intercalate params ++
    "); only one body, form, stream or pipe parameter is allowed"

/-- The part of the request that a code says a parameter cannot be bound from. -/
def requestPart : DiagnosticCode → String
  | .invalidHeaderType => "header"
  | .invalidRouteType => "route"
  | .invalidQueryType => "query"
  | _ => "form"

def invalidBindingType (code : DiagnosticCode) (param ty : String) (location : Location) :
    Diagnostic where
  code
  location
  message := s!"Parameter '{param}' of type '{ty}' cannot be bound from the " ++
    requestPart code ++ "; use a primitive type or a type implementing FromStr"

def ambiguousBodylessBinding (param ty verb : String) (location : Location) : Diagnostic where
  code := .ambiguousBodylessBinding
  location
  message := s!"Parameter '{param}' of complex type '{ty}' on a {verb} handler is resolved as a " ++
    "service; annotate it with #[autowired], #[request_body] or #[as_parameters] to make the " ++
    "intent explicit"

def undocumentedInterfaceCall (handler target : String) (location : Location) : Diagnostic where
  code := .undocumentedInterfaceCall
  location
  message := s!"Handler '{handler}' calls '{target}' which has no scannable body and no " ++
    "#[produces_errors]; errors it returns are not part of the response contract"

def unknownErrorFactory (call : String) (location : Location) : Diagnostic where
  code := .unknownErrorFactory
  location
  message := s!"'{call}' is not a known error factory; its error kind cannot be inferred"

def tooManyResultTypes (handler : String) (count max : Nat) (location : Location) :
    Diagnostic where
  code := .tooManyResultTypes
  location
  message := s!"Handler '{handler}' produces {count} result types (configured maximum {max}); " ++
    "the response union falls back to an untyped result"

end Diagnostic

abbrev Diagnostics := List Diagnostic

namespace Diagnostics

def hasErrors (diagnostics : Diagnostics) : Bool :=
  diagnostics.any Diagnostic.isError

def withCode (diagnostics : Diagnostics) (code : DiagnosticCode) : Diagnostics :=
  diagnostics.filter (·.code == code)

def count (diagnostics : Diagnostics) (code : DiagnosticCode) : Nat :=
  (diagnostics.withCode code).length

end Diagnostics

end EndpointInference
