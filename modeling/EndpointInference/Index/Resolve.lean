import EndpointInference.Index.Metadata
import EndpointInference.Text.Letter

/-!
Names in bodies. A path whose last qualifier starts with a lower-case letter is looked up in
modules, any other in a type. An unqualified name is looked up from the module of its scope
outwards.
-/

namespace EndpointInference

open EndpointInference.Syntax

def isModuleName (name : String) : Bool :=
  match name.toList with
  | first :: _ => Text.isLowercase first
  | [] => false

def splitLast? : List String → Option (List String × String)
  | [] => none
  | [name] => some ([], name)
  | name :: next :: rest => (splitLast? (next :: rest)).map fun (init, last) => (name :: init, last)

/-- The beginnings of a list, the longest first. -/
def beginnings (names : List String) : List (List String) :=
  (List.range (names.length + 1)).reverse.map names.take

inductive Place
  | type (owner : String)
  | modules (candidates : List (List String))

/-- Methods without arguments whose value has the type of their receiver. -/
def transparentMethods : List String :=
  ["clone", "as_ref", "as_deref", "borrow", "deref", "lock", "read", "write", "unwrap"]

namespace Index

def ownerOf? (index : Index) (scope : ElementId) : Option String :=
  match index.function? scope with
  | some entry => entry.owner
  | none => (index.constant? scope).bind (·.owner)

def moduleOf (index : Index) (scope : ElementId) : List String :=
  match index.function? scope with
  | some entry => entry.module
  | none => ((index.constant? scope).map (·.module)).getD []

def moduleCandidates (current : List String) : List String → List (List String)
  | [] => beginnings current
  | "crate" :: rest => [rest]
  | "self" :: rest => [current ++ rest]
  | "super" :: rest =>
    let supers := (rest.takeWhile (· == "super")).length + 1
    if supers ≤ current.length then
      [current.take (current.length - supers) ++ rest.dropWhile (· == "super")]
    else []
  | qualifier =>
    if current.isEmpty then [qualifier] else [current ++ qualifier, qualifier]

def place? (index : Index) (scope : ElementId) (qualifier : List String) : Option Place :=
  match qualifier.getLast? with
  | some owner =>
    if isModuleName owner then some (.modules (moduleCandidates (index.moduleOf scope) qualifier))
    else if owner == "Self" then (index.ownerOf? scope).map .type
    else some (.type owner)
  | none => some (.modules (moduleCandidates (index.moduleOf scope) qualifier))

/-- A method of a type, or of a trait that the type implements. -/
def lookupMethod? (index : Index) (owner method : String) : Option FunctionEntry :=
  (index.function? (.method owner method)).or
    ((index.traitsOf owner).findSome? fun name => index.function? (.method name method))

def lookupPath? (index : Index) (scope : ElementId) (names : List String) :
    Option FunctionEntry := do
  let (qualifier, member) ← splitLast? names
  match ← index.place? scope qualifier with
  | .type owner => index.lookupMethod? owner member
  | .modules candidates =>
    candidates.findSome? fun module => index.function? (.function (qualify module member))

/-! ### References -/

def isParameter (index : Index) (scope : ElementId) (name : String) : Bool :=
  (index.function? scope).any fun entry =>
    entry.signature.typedParams.any fun param => param.pattern.name == name

def isDeclared (index : Index) (id : ElementId) : Bool :=
  (index.constant? id).isSome || (index.function? id).isSome

/-- What a name may refer to, in the order of lookup: constants before functions. -/
def referents (member : String) : Place → List ElementId
  | .type owner => [.value (owner ++ "::" ++ member), .method owner member]
  | .modules candidates => candidates.flatMap fun module =>
    [.value (qualify module member), .function (qualify module member)]

/-- The element that a path refers to; a parameter of the scope hides all others. -/
def resolveReference? (index : Index) (scope : ElementId) (path : ExprPath) :
    Option ElementId := do
  if path.isQualified then none
  else
    let (qualifier, member) ← splitLast? path.names
    if qualifier.isEmpty && index.isParameter scope member then none
    else (referents member (← index.place? scope qualifier)).find? index.isDeclared

/-! ### Types of receivers -/

def boundOf? (index : Index) (signature : Signature) (name : String) : Option TypeRef :=
  signature.typeParams.findSome? fun param =>
    if param.name == name then Lowering.lowerFirst? index.known param.bounds else none

/-- The type of a parameter of the scope; a type parameter stands for its first bound. -/
def paramType? (index : Index) (scope : ElementId) (name : String) : Option TypeRef := do
  let entry ← index.function? scope
  let param ← entry.signature.typedParams.find? fun param => param.pattern.name == name
  let ty := (ParamShape.ofTypeRef (Lowering.lower index.known param.ty)).ty
  if ty.args.isEmpty then (index.boundOf? entry.signature ty.path).getD ty else ty

/-- The type of a value once its failure is handed on. -/
def successType? (index : Index) (ty : TypeRef) : Option TypeRef :=
  match index.known.falliblePayload? ty with
  | some payload => some payload
  | none => if ty.is "Option" || ty.is "Result" then ty.firstArg? else some ty

/-- The type of an expression that a method is called on, as far as declarations tell. -/
def receiverType? (index : Index) (scope : ElementId) : Expr → Option TypeRef
  | .path p =>
    match p.ident? with
    | some "self" => (index.ownerOf? scope).map .named
    | some name => index.paramType? scope name
    | none => none
  | .field base member =>
    (receiverType? index scope base).bind fun ty => index.fieldType? ty.name member
  | .reference operand => receiverType? index scope operand
  | .paren inner => receiverType? index scope inner
  | .unary .deref operand => receiverType? index scope operand
  | .tryOp operand => (receiverType? index scope operand).bind index.successType?
  | .await operand => receiverType? index scope operand
  | .methodCall _ receiver method _ args =>
    if args.isEmpty && transparentMethods.contains method.text then
      receiverType? index scope receiver
    else
      (receiverType? index scope receiver).bind fun ty =>
        (index.lookupMethod? ty.name method.text).map fun entry =>
          Lowering.lowerOutput index.known entry.signature.output
  | .attributed _ inner => receiverType? index scope inner
  | _ => none

/-! ### Calls -/

def callTarget (index : Index) (entry : FunctionEntry) : Logged CallTarget := do
  let declaredErrors ← Annotations.declaredErrors entry.attributes
  return {
    element := some entry.id
    declaringType := entry.owner
    name := entry.name
    kind := entry.kind
    returns := some (Lowering.lowerOutput index.known entry.signature.output)
    declaredErrors }

def callee? (index : Index) (scope : ElementId) : CallSite → Option FunctionEntry
  | .function callee =>
    match callee.bare with
    | .path p => if p.isQualified then none else index.lookupPath? scope p.names
    | _ => none
  | .method receiver name =>
    (index.receiverType? scope receiver).bind fun ty => index.lookupMethod? ty.name name

def resolveCall? (index : Index) (scope : ElementId) (site : CallSite) :
    Option (Logged CallTarget) :=
  (index.callee? scope site).map index.callTarget

end Index

end EndpointInference
