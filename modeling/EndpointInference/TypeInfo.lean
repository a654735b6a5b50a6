import EndpointInference.Parameter

/-!
What is known about a type: its kind, how it is constructed, and its properties.
-/

namespace EndpointInference

inductive TypeKind
  | struct
  | enumeration
  | interface
  | abstract
deriving DecidableEq, Repr

structure Constructor where
  params : List Parameter
  isPublic : Bool
deriving DecidableEq, Repr

structure Property where
  name : String
  ty : TypeRef
  readable : Bool := true
  isPublic : Bool := true
  inherited : Bool := false
deriving DecidableEq, Repr

/-- Own properties come before inherited ones, each in the order of declaration. -/
structure TypeInfo where
  ty : TypeRef
  kind : TypeKind
  constructors : List Constructor := []
  properties : List Property := []
deriving DecidableEq, Repr

namespace TypeInfo

def isInterfaceOrAbstract (info : TypeInfo) : Bool :=
  info.kind == .interface || info.kind == .abstract

/-- The better of two constructors: the one with more parameters, the first if they have as many. -/
def better (best : Option Constructor) (next : Constructor) : Option Constructor :=
  match best with
  | some current => if current.params.length ≥ next.params.length then some current else some next
  | none => some next

def bestPublicConstructor? (info : TypeInfo) : Option Constructor :=
  (info.constructors.filter (·.isPublic)).foldl better none

end TypeInfo

end EndpointInference
