import EndpointInference.Handler
import EndpointInference.Log
import EndpointInference.Syntax.Expr
import EndpointInference.TypeInfo

/-!
What an analysis can ask about a program: its types, what a call or a path refers to, the bodies of
declared elements, and the values of constants. Nothing found is an answer like any other.

Only finitely many elements have a body, and only finitely many types occur in constructors. Both
are given with the answers, and bound how far an analysis can go.
-/

namespace EndpointInference

open EndpointInference.Syntax

inductive CallSite
  | function (callee : Expr)
  | method (receiver : Expr) (name : String)

inductive TargetKind
  | function
  | method
  /-- A method of a trait without a body. -/
  | interface
  | abstract
  | external
deriving DecidableEq, Repr

structure CallTarget where
  element : Option ElementId := none
  declaringType : Option String := none
  name : String
  kind : TargetKind
  returns : Option TypeRef := none
  declaredErrors : Option DeclaredErrors := none
deriving DecidableEq, Repr

namespace CallTarget

/-- Whether the errors of the target cannot be seen from its body. -/
def isBoundary (target : CallTarget) : Bool :=
  target.kind == .interface || target.kind == .abstract

def displayName (target : CallTarget) : String :=
  match target.declaringType with
  | some owner => owner ++ "::" ++ target.name
  | none => target.name

end CallTarget

inductive Constant
  | text (value : String)
  | int (value : Int)
  | bool (value : Bool)
deriving DecidableEq, Repr

def unseen [BEq α] (elements seen : List α) : Nat :=
  (elements.filter fun element => !seen.contains element).length

theorem unseen_cons_lt [BEq α] [LawfulBEq α] {elements seen : List α} {element : α}
    (declared : element ∈ elements) (fresh : seen.contains element = false) :
    unseen elements (element :: seen) < unseen elements seen := by
  unfold unseen
  have split : (elements.filter fun x => !(element :: seen).contains x) =
      (elements.filter fun x => !seen.contains x).filter (· != element) := by
    rw [List.filter_filter]
    apply List.filter_congr
    intro x _
    by_cases hx : x = element <;> simp [hx, bne]
  rw [split]
  apply List.length_filter_lt_length_iff_exists.mpr
  exact ⟨element, List.mem_filter.mpr ⟨declared, by rw [fresh]; rfl⟩, by simp⟩

structure Symbols where
  typeInfo? : TypeRef → Option TypeInfo
  /-- The target of a call in the body of an element, with remarks on how it is declared. -/
  resolveCall? : ElementId → CallSite → Option (Logged CallTarget)
  resolveReference? : ElementId → ExprPath → Option ElementId
  body? : ElementId → Option Body
  foldConstant? : ElementId → Expr → Option Constant
  locate : Position → Location
  declared : List ElementId
  mem_declared : ∀ element body, body? element = some body → element ∈ declared
  memberTypes : List TypeRef
  mem_memberTypes : ∀ ty info, typeInfo? ty = some info →
    ∀ ctor ∈ info.constructors, ∀ param ∈ ctor.params, param.ty ∈ memberTypes

namespace Symbols

/-- Knows these types and nothing else; of several entries for a type the last one counts. -/
def ofTypes (types : List TypeInfo) : Symbols where
  typeInfo? ty := types.reverse.find? fun info => info.ty == ty
  resolveCall? _ _ := none
  resolveReference? _ _ := none
  body? _ := none
  foldConstant? _ _ := none
  locate := .ofPosition none
  declared := []
  mem_declared := nofun
  memberTypes := types.flatMap fun info => info.constructors.flatMap fun ctor =>
    ctor.params.map (·.ty)
  mem_memberTypes := by
    intro ty info h ctor hc param hp
    have hi : info ∈ types := List.mem_reverse.mp (List.mem_of_find?_eq_some h)
    exact List.mem_flatMap.mpr ⟨info, hi, List.mem_flatMap.mpr ⟨ctor, hc,
      List.mem_map.mpr ⟨param, hp, rfl⟩⟩⟩

end Symbols

end EndpointInference
