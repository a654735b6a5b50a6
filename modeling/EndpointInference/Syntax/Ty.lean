import EndpointInference.Syntax.Token

/-!
Types as they are written in signatures and fields. Forms that carry no type name of their own are
kept as the tokens they are written with.
-/

namespace EndpointInference.Syntax

mutual
inductive Ty
  /-- A path without a self type, such as `std::vec::Vec<u8>`. -/
  | path (segments : List Segment)
  | reference (inner : Ty)
  | paren (inner : Ty)
  | tuple (elements : List Ty)
  | slice (element : Ty)
  | array (element : Ty)
  | bounds (bounds : List Bound) (written : List TokenTree)
  | other (written : List TokenTree)

inductive Segment
  | mk (name : String) (args : List GenericArg)

inductive GenericArg
  | ty (ty : Ty)
  /-- An argument for an associated type, such as `Output = T`. -/
  | assoc (ty : Ty)
  /-- A lifetime, a constant or a constraint. -/
  | other

inductive Bound
  | path (segments : List Segment)
  | other
end

instance : Inhabited Ty := ⟨.tuple []⟩

def Segment.name : Segment → String
  | .mk name _ => name

def Segment.args : Segment → List GenericArg
  | .mk _ args => args

end EndpointInference.Syntax
