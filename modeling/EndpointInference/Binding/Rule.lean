import EndpointInference.Options
import EndpointInference.Symbols

/-!
The rules that bind a parameter, in the order in which they are tried, and the tests they make.
-/

namespace EndpointInference

inductive BindingRule
  | parameterGroup
  | explicitBody
  | explicitForm
  | explicitService
  | explicitHeader
  | explicitRoute
  | explicitQuery
  | specialRole
  /-- A name that is a variable of the route. -/
  | implicitRoute
  /-- A primitive type or a collection of one. -/
  | implicitQuery
  | customParsing
  | fallback
deriving DecidableEq, Repr

namespace BindingRule

/-- All rules; the first that applies decides. -/
def order : List BindingRule :=
  [parameterGroup, explicitBody, explicitForm, explicitService, explicitHeader, explicitRoute,
   explicitQuery, specialRole, implicitRoute, implicitQuery, customParsing, fallback]

def name : BindingRule → String
  | parameterGroup => "parameter-group"
  | explicitBody => "explicit-body"
  | explicitForm => "explicit-form"
  | explicitService => "explicit-service"
  | explicitHeader => "explicit-header"
  | explicitRoute => "explicit-route"
  | explicitQuery => "explicit-query"
  | specialRole => "special-role"
  | implicitRoute => "implicit-route"
  | implicitQuery => "implicit-query"
  | customParsing => "custom-parsing"
  | fallback => "fallback"

end BindingRule

structure TypeView where
  symbols : Symbols
  known : WellKnown

namespace TypeView

/-- A known primitive type, or an enumeration of the program. -/
def isPrimitive (view : TypeView) (ty : TypeRef) : Bool :=
  view.known.isPrimitive ty ||
    (view.symbols.typeInfo? ty).any fun info => info.kind == .enumeration

def isCollectionOfPrimitives (view : TypeView) (param : Parameter) : Bool :=
  param.element.any view.isPrimitive

def isScalar (view : TypeView) (param : Parameter) : Bool :=
  !param.isCollection && view.isPrimitive param.ty

/-- A single value that can be read from a text. -/
def isRouteBindable (view : TypeView) (param : Parameter) : Bool :=
  !param.isCollection && (view.isPrimitive param.ty || param.hasTryParse)

def isHeaderBindable (view : TypeView) (param : Parameter) : Bool :=
  view.isRouteBindable param || view.isCollectionOfPrimitives param

def looksLikeService (view : TypeView) (param : Parameter) : Bool :=
  (view.symbols.typeInfo? param.ty).any TypeInfo.isInterfaceOrAbstract ||
    view.known.hasServiceName param.ty

def isComplex (view : TypeView) (param : Parameter) : Bool :=
  param.special.isNone && !view.isPrimitive param.ty && !view.isRouteBindable param &&
    !view.isCollectionOfPrimitives param

def constructor? (view : TypeView) (ty : TypeRef) : Option Constructor :=
  (view.symbols.typeInfo? ty).bind TypeInfo.bestPublicConstructor?

end TypeView

end EndpointInference
