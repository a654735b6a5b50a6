import EndpointInference.Options
import EndpointInference.Syntax.Ty

/-!
From a type as it is written to a reference to it. References and smart pointers are left out,
bounds give their first trait, and a plain result with the error type of the service counts as the
service's own result.
-/

namespace EndpointInference

open EndpointInference.Syntax

def transparentNames : List String :=
  ["Arc", "Rc", "Box", "Cow", "Pin"]

def TypeRef.normal (known : WellKnown) (path : String) (args : List TypeRef) : TypeRef :=
  let ty : TypeRef := ⟨path, args⟩
  match args with
  | [inner] => if transparentNames.contains ty.name then inner else ty
  | [payload, error] =>
    if ty.is "Result" && error.is known.errorType then ⟨known.resultType, [payload]⟩ else ty
  | _ => ty

namespace Lowering

mutual
def lower (known : WellKnown) : Ty → TypeRef
  | .path segments => lowerPath known "" segments
  | .reference inner => lower known inner
  | .paren inner => lower known inner
  | .tuple [] => .unit
  | .tuple (first :: rest) => ⟨"Tuple", lower known first :: lowerList known rest⟩
  | .slice element => ⟨"Slice", [lower known element]⟩
  | .array element => ⟨"Array", [lower known element]⟩
  | .bounds bounds written =>
    (lowerFirst? known bounds).getD (.named (TokenTree.listText written))
  | .other written => .named (TokenTree.listText written)

def lowerList (known : WellKnown) : List Ty → List TypeRef
  | [] => []
  | ty :: rest => lower known ty :: lowerList known rest

/-- The reference for a path, `before` being its text so far; the last segment's arguments count. -/
def lowerPath (known : WellKnown) (before : String) : List Segment → TypeRef
  | [] => .normal known before []
  | [.mk name args] => .normal known (before ++ name) (lowerArgs known args)
  | .mk name _ :: next :: rest => lowerPath known (before ++ name ++ "::") (next :: rest)

def lowerArgs (known : WellKnown) : List GenericArg → List TypeRef
  | [] => []
  | .ty ty :: rest => lower known ty :: lowerArgs known rest
  | .assoc ty :: rest => lower known ty :: lowerArgs known rest
  | .other :: rest => lowerArgs known rest

/-- The reference for the first bound that is a trait. -/
def lowerFirst? (known : WellKnown) : List Bound → Option TypeRef
  | [] => none
  | .path segments :: _ => some (lowerPath known "" segments)
  | .other :: rest => lowerFirst? known rest
end

def lowerOutput (known : WellKnown) (output : Option Ty) : TypeRef :=
  (output.map (lower known)).getD .unit

end Lowering

/-- Types with one argument whose values are several of it. -/
def collectionNames : List String :=
  ["Vec", "VecDeque", "HashSet", "BTreeSet", "LinkedList", "Slice", "Array"]

structure ParamShape where
  ty : TypeRef
  nullable : Bool
  element : Option TypeRef
deriving DecidableEq, Repr

namespace ParamShape

def unwrapOption (ty : TypeRef) : TypeRef × Bool :=
  match ty.args with
  | [inner] => if ty.is "Option" then (inner, true) else (ty, false)
  | _ => (ty, false)

def element? (ty : TypeRef) : Option TypeRef :=
  match ty.args with
  | [element] => if collectionNames.contains ty.name then some element else none
  | _ => none

def ofTypeRef (ty : TypeRef) : ParamShape :=
  let (inner, nullable) := unwrapOption ty
  ⟨inner, nullable, element? inner⟩

end ParamShape

end EndpointInference
