import EndpointInference.Annotations
import EndpointInference.Lowering
import EndpointInference.Symbols

/-!
What a source file declares, as the list of facts that an index takes in, in the order in which
they are written.
-/

namespace EndpointInference

open EndpointInference.Syntax

def qualify : List String → String → String
  | [], name => name
  | outer :: module, name => outer ++ "::" ++ qualify module name

structure FunctionEntry where
  id : ElementId
  name : String
  /-- The type or trait that it is a method of. -/
  owner : Option String
  /-- The module it is declared in, from the outside. -/
  module : List String
  kind : TargetKind
  signature : Signature
  attributes : List Attribute
  body : Option (List Stmt)
  file : Option String
  mapping : Option (Verb × String)
  /-- What the implementation around it says. -/
  implMiddleware : Middleware

inductive TypeShape
  | struct (struct : Struct)
  | enumeration
  | trait

structure TypeEntry where
  shape : TypeShape
  file : Option String

structure ConstructorEntry where
  signature : Signature
  isPublic : Bool
  file : Option String

structure ConstantEntry where
  owner : Option String
  module : List String
  value : Expr

structure Controller where
  basePath : String := ""
  middleware : Middleware := {}

inductive Declaration
  | function (entry : FunctionEntry)
  | type (name : String) (entry : TypeEntry)
  | constructor (owner : String) (entry : ConstructorEntry)
  | constant (id : ElementId) (entry : ConstantEntry)
  | implements (owner traitName : String)
  /-- A type that is a controller if it is mapped itself, or else if it is known to implement the
  trait of controllers. -/
  | controller (name : String) (isMapped : Bool) (controller : Controller)

structure DeclarationContext where
  known : WellKnown
  file : Option String

namespace DeclarationContext

/-- Whether a function without a receiver gives a value of the type it belongs to. -/
def isConstructor (cx : DeclarationContext) (owner : String) (signature : Signature) : Bool :=
  let output := Lowering.lowerOutput cx.known signature.output
  !signature.hasReceiver && (output.is "Self" || output.is owner)

def functionEntry (cx : DeclarationContext) (module : List String) (function : Function) :
    FunctionEntry where
  id := .function (qualify module function.signature.name.text)
  name := function.signature.name.text
  owner := none
  module
  kind := .function
  signature := function.signature
  attributes := function.attributes
  body := function.body
  file := cx.file
  mapping := Annotations.mapping? function.attributes
  implMiddleware := {}

def structDeclarations (cx : DeclarationContext) (struct : Struct) : List Declaration :=
  (Annotations.derivedTraits struct.attributes).map (.implements struct.name) ++
    [.controller struct.name (struct.attributes.any (·.isNamed "request_mapping"))
       ⟨Annotations.basePath struct.attributes, Annotations.middleware struct.attributes⟩,
     .type struct.name ⟨.struct struct, cx.file⟩]

/-- A method of a trait; one without a body is an interface. -/
def traitMember (cx : DeclarationContext) (module : List String) (owner : String) :
    Member → List Declaration
  | .function function =>
    [.function
      { cx.functionEntry module function with
        id := .method owner function.signature.name.text
        owner := some owner
        kind := if function.body.isSome then .method else .interface
        mapping := none }]
  | .const name (some value) => [.constant (.value (owner ++ "::" ++ name)) ⟨some owner, module, value⟩]
  | .const _ none => []

def traitDeclarations (cx : DeclarationContext) (module : List String) (name : String)
    (members : List Member) : List Declaration :=
  members.flatMap (cx.traitMember module name) ++ [.type name ⟨.trait, cx.file⟩]

/-- A method of a type; one without a receiver that gives the type is a constructor too. -/
def implMember (cx : DeclarationContext) (module : List String) (owner : String) (isInherent : Bool)
    (middleware : Middleware) : Member → List Declaration
  | .function function =>
    let constructors : List Declaration :=
      if isInherent && cx.isConstructor owner function.signature then
        [.constructor owner ⟨function.signature, function.isPublic, cx.file⟩]
      else []
    constructors ++
      [.function
        { cx.functionEntry module function with
          id := .method owner function.signature.name.text
          owner := some owner
          kind := .method
          implMiddleware := middleware }]
  | .const name (some value) => [.constant (.value (owner ++ "::" ++ name)) ⟨some owner, module, value⟩]
  | .const _ none => []

def implDeclarations (cx : DeclarationContext) (module : List String) (block : Impl) :
    List Declaration :=
  let owner := (Lowering.lower cx.known block.selfTy).name
  (block.traitName.toList.map (.implements owner)) ++
    block.members.flatMap (cx.implMember module owner block.traitName.isNone
      (Annotations.middleware block.attributes))

mutual
def itemDeclarations (cx : DeclarationContext) (module : List String) : Item → List Declaration
  | .function function => [.function (cx.functionEntry module function)]
  | .struct struct => cx.structDeclarations struct
  | .enumeration attributes name =>
    (Annotations.derivedTraits attributes).map (.implements name) ++
      [.type name ⟨.enumeration, cx.file⟩]
  | .trait name members => cx.traitDeclarations module name members
  | .impl block => cx.implDeclarations module block
  | .const name value => [.constant (.value (qualify module name)) ⟨none, module, value⟩]
  | .module name items => itemsDeclarations cx (module ++ [name]) items
  | .other => []

def itemsDeclarations (cx : DeclarationContext) (module : List String) :
    List Item → List Declaration
  | [] => []
  | item :: rest => itemDeclarations cx module item ++ itemsDeclarations cx module rest
end

end DeclarationContext

end EndpointInference
