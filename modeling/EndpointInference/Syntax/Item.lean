import EndpointInference.Syntax.Expr
import EndpointInference.Syntax.Ty

/-!
Declarations of a source file, with what the index reads of them.
-/

namespace EndpointInference.Syntax

inductive AttributeArgs
  | none
  | list (tokens : List TokenTree)
  | value (value : Expr)

structure Attribute where
  /-- The names of its path; absent where the path starts with `::`. -/
  path : Option (List String)
  args : AttributeArgs

def Attribute.ident? (attr : Attribute) : Option String :=
  match attr.path with
  | some [name] => some name
  | _ => Option.none

def Attribute.isNamed (attr : Attribute) (name : String) : Bool :=
  attr.ident? == some name

def attributeValues (attributes : List Attribute) : List Expr :=
  attributes.filterMap fun attr =>
    match attr.args with
    | .value value => some value
    | _ => none

/-- A parameter with a type; `start` is the place of its pattern. -/
structure TypedParam where
  attributes : List Attribute
  pattern : Pattern
  start : Position
  ty : Ty

inductive FnParam
  | receiver
  | typed (param : TypedParam)

def FnParam.typed? : FnParam → Option TypedParam
  | .receiver => none
  | .typed param => some param

structure TypeParam where
  name : String
  bounds : List Bound

structure Signature where
  name : Ident
  isAsync : Bool
  typeParams : List TypeParam
  params : List FnParam
  output : Option Ty

def Signature.typedParams (signature : Signature) : List TypedParam :=
  signature.params.filterMap FnParam.typed?

def Signature.hasReceiver (signature : Signature) : Bool :=
  signature.params.any fun param => param.typed?.isNone

structure Function where
  attributes : List Attribute
  isPublic : Bool
  signature : Signature
  /-- Absent where a trait only requires the function. -/
  body : Option (List Stmt)

/-- A field; a tuple's fields have no name. `start` is the place of its first token. -/
structure Field where
  attributes : List Attribute
  isPublic : Bool
  name : Option String
  start : Position
  ty : Ty

structure Struct where
  attributes : List Attribute
  name : String
  fields : List Field
  isUnit : Bool
  fields_of_isUnit : isUnit = true → fields = [] := by simp

inductive Member
  | function (function : Function)
  | const (name : String) (value : Option Expr)

structure Impl where
  attributes : List Attribute
  selfTy : Ty
  traitName : Option String
  members : List Member

inductive Item
  | function (function : Function)
  | struct (struct : Struct)
  | enumeration (attributes : List Attribute) (name : String)
  | trait (name : String) (members : List Member)
  | impl (impl : Impl)
  | const (name : String) (value : Expr)
  | module (name : String) (items : List Item)
  | other

end EndpointInference.Syntax
