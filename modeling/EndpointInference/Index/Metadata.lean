import EndpointInference.Index.Basic

/-!
Parameters and types as the index describes them.

A parameter's type may be an extractor, which says where the parameter comes from and stands for
the type inside it. The properties of a struct are its fields; a flattened field stands for the
properties of its type instead, unless that type is being expanded or was expanded before.
-/

namespace EndpointInference

open EndpointInference.Syntax

def specialTypes : List (String × SpecialRole) :=
  [("RequestContext", .context), ("RequestHeaders", .context), ("Cookies", .context),
   ("Session", .context), ("CancellationToken", .cancellation), ("UploadedFile", .formFile),
   ("MultipartFile", .formFile), ("UploadedFiles", .formFileCollection),
   ("Multipart", .formCollection), ("BodyStream", .stream), ("PipeReader", .pipeReader)]

/-- The role of a parameter; of collections only those of uploads have one. -/
def specialRole? (shape : ParamShape) : Option SpecialRole :=
  match shape.element with
  | some element =>
    if specialTypes.lookup element.name = some .formFile then some .formFileCollection else none
  | none => specialTypes.lookup shape.ty.name

namespace Index

def isEnumeration (index : Index) (ty : TypeRef) : Bool :=
  match index.type? ty.name with
  | some ⟨.enumeration, _⟩ => true
  | _ => false

/-- A type whose values are written as one text. -/
def isScalar (index : Index) (ty : TypeRef) : Bool :=
  index.known.isPrimitive ty || index.isEnumeration ty

/-- Where a parameter of a type inside an extractor comes from: collections of scalars are left to
the rules, scalars are part of the query, and all else is a group of parameters. -/
def queryAnnotation? (index : Index) (inner : TypeRef) : Option Annotation :=
  let shape := ParamShape.ofTypeRef inner
  if shape.element.any index.isScalar then none
  else if index.isScalar shape.ty then some (.query none)
  else some .asParameters

def extractor? (index : Index) (name : String) (inner : TypeRef) : Option (Option Annotation) :=
  match name with
  | "PathVariable" | "Path" => some (some (.route none))
  | "RequestBody" | "ValidatedRequestBody" | "Json" => some (some (.body false))
  | "RequestParam" | "ValidatedRequestParam" | "Query" => some (index.queryAnnotation? inner)
  | "FormData" | "ValidatedFormData" | "MultipartForm" | "Form" => some (some (.form none))
  | "RequestHeader" => some (some (.header none))
  | "Extension" | "State" => some (some .service)
  | _ => none

def unwrapExtractor (index : Index) (ty : TypeRef) : TypeRef × Option Annotation :=
  match ty.args with
  | [inner] =>
    match index.extractor? ty.name inner with
    | some implied => (inner, implied)
    | none => (ty, none)
  | _ => (ty, none)

def customBinding? (index : Index) (ty : TypeRef) : Option CustomBinding :=
  let traits := index.traitsOf ty.name
  if traits.contains "BindFromRequest" then some .bindAsync
  else if traits.contains "Bindable" then some .bindable
  else if traits.contains "FromStr" then some .tryParse
  else none

/-- Describes a parameter or a field; its own annotation goes before that of an extractor. -/
def describe (index : Index) (name : String) (attributes : List Attribute) (ty : Ty)
    (location : Location) : Parameter :=
  let (inner, implied) := index.unwrapExtractor (Lowering.lower index.known ty)
  let shape := ParamShape.ofTypeRef inner
  { name
    ty := shape.ty
    nullable := shape.nullable
    element := shape.element
    annotation := (Annotations.binding? attributes).or implied
    special := specialRole? shape
    customBinding := if shape.element.isSome then none else index.customBinding? shape.ty
    location }

def describeParams (index : Index) (file : Option String) (signature : Signature) :
    List Parameter :=
  signature.typedParams.map fun param =>
    index.describe param.pattern.name param.attributes param.ty (.ofPosition file param.start)

/-! ### Properties -/

/-- The name of the field at a position: its own, or the position. -/
def fieldName (position : Nat) (field : Field) : String :=
  field.name.getD (toString position)

structure Expansion where
  own : List Property := []
  inherited : List Property := []
  seen : List String

/-- The properties of fields; `expand` gives those of a type and the types expanded by then. -/
def expandFields (index : Index)
    (expand : List String → String → List Property × List String) (found : Expansion) :
    Nat → List Field → Expansion
  | _, [] => found
  | position, field :: rest =>
    let ty := Lowering.lower index.known field.ty
    if Annotations.isFlattened field.attributes && !found.seen.contains ty.name then
      let (properties, seen) := expand found.seen ty.name
      index.expandFields expand
        { found with
          inherited := found.inherited ++ properties.map ({ · with inherited := true })
          seen }
        (position + 1) rest
    else
      index.expandFields expand
        { found with
          own := found.own ++ [{ name := fieldName position field, ty, isPublic := field.isPublic }] }
        (position + 1) rest

/-- The properties of a type, its own before those of flattened fields. The depth bounds the chain
of flattened types. -/
def propertiesWithin (index : Index) : Nat → List String → String → List Property × List String
  | 0, seen, _ => ([], seen)
  | depth + 1, seen, name =>
    match index.type? name with
    | none => ([], seen)
    | some ⟨.struct struct, _⟩ =>
      let found := index.expandFields (index.propertiesWithin depth) { seen := name :: seen } 0
        struct.fields
      (found.own ++ found.inherited, found.seen)
    | some _ => ([], name :: seen)

/-- The properties of a type. Each declared type is expanded once at most, so their number bounds
the depth. -/
def properties (index : Index) (name : String) : List Property :=
  (index.propertiesWithin (index.types.length + 1) [] name).1

/-! ### Types -/

/-- The constructor that takes all fields; it is public if they are. -/
def fieldConstructor (index : Index) (file : Option String) (struct : Struct) : Constructor where
  params := struct.fields.mapIdx fun position field =>
    index.describe (fieldName position field) field.attributes field.ty
      (.ofPosition file field.start)
  isPublic := struct.fields.all (·.isPublic) || struct.isUnit

def associatedConstructor (index : Index) (entry : ConstructorEntry) : Constructor where
  params := index.describeParams entry.file entry.signature
  isPublic := entry.isPublic

def describeType (index : Index) (name : String) (entry : TypeEntry) : TypeInfo :=
  match entry.shape with
  | .enumeration => { ty := .named name, kind := .enumeration }
  | .trait => { ty := .named name, kind := .interface }
  | .struct struct =>
    { ty := .named name
      kind := .struct
      constructors := index.fieldConstructor entry.file struct ::
        (index.constructorsOf name).map index.associatedConstructor
      properties := index.properties name }

def typeInfo? (index : Index) (ty : TypeRef) : Option TypeInfo :=
  (index.type? ty.name).map (index.describeType ty.name)

def fieldType? (index : Index) (owner field : String) : Option TypeRef := do
  let struct ← index.struct? owner
  let fields := struct.fields.mapIdx fun position field => (fieldName position field, field)
  let found ← fields.lookup field
  some (ParamShape.ofTypeRef (Lowering.lower index.known found.ty)).ty

end Index

end EndpointInference
