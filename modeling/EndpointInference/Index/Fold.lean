import EndpointInference.Index.Resolve

/-!
Values of constant expressions: literals, under parentheses, casts, references, signs and
conversions of texts, and constants by name. A constant is evaluated in its own scope; one that
depends on itself has no value.
-/

namespace EndpointInference

open EndpointInference.Syntax

/-- The value of a literal; whole numbers have at most 127 bits. -/
def Constant.ofLiteral? : Literal → Option Constant
  | .text value => some (.text value)
  | .int value => if value < Nat.pow 2 127 then some (.int value) else none
  | .bool value => some (.bool value)
  | .other => none

def Constant.negate? : Constant → Option Constant
  | .int value => some (.int (-value))
  | _ => none

def Constant.asText? : Constant → Option Constant
  | .text value => some (.text value)
  | _ => none

def textConversions : List String :=
  ["to_string", "to_owned", "into"]

namespace Index

/-- The value of an expression, `valueOf` being the value of a constant. -/
def foldWith (index : Index) (valueOf : ElementId → Option Constant) (scope : ElementId) :
    Expr → Option Constant
  | .literal value => Constant.ofLiteral? value
  | .path p => (index.resolveReference? scope p).bind valueOf
  | .paren inner => foldWith index valueOf scope inner
  | .cast operand _ => foldWith index valueOf scope operand
  | .reference operand => foldWith index valueOf scope operand
  | .unary .neg operand => (foldWith index valueOf scope operand).bind Constant.negate?
  | .methodCall _ receiver method _ args =>
    if args.isEmpty && textConversions.contains method.text then
      (foldWith index valueOf scope receiver).bind Constant.asText?
    else none
  | .attributed _ inner => foldWith index valueOf scope inner
  | _ => none

/-- The value of a constant, `seen` being the constants on the way to it. One that is met again
depends on itself, and has no value. -/
def valueUnseen (index : Index) (seen : List ElementId) (id : ElementId) : Option Constant :=
  match _declared : index.constant? id with
  | none => none
  | some entry =>
    if _fresh : seen.contains id then none
    else index.foldWith (fun next => index.valueUnseen (id :: seen) next) id entry.value
termination_by unseen (index.constants.map (·.1)) seen
decreasing_by
  apply unseen_cons_lt
  · obtain ⟨stored, hm, hk⟩ := List.lookup_isSome_iff.mp (Option.isSome_of_eq_some _declared)
    exact List.mem_map.mpr ⟨stored, hm, (beq_iff_eq.mp hk).symm⟩
  · simpa using _fresh

theorem valueUnseen_eq (index : Index) (seen : List ElementId) (id : ElementId) :
    index.valueUnseen seen id =
      if seen.contains id then none
      else (index.constant? id).bind fun entry =>
        index.foldWith (index.valueUnseen (id :: seen)) id entry.value := by
  rw [valueUnseen]
  split
  · next hn => simp [hn]
  · next entry hc => simp [hc]

theorem valueUnseen_congr {first second : Index}
    (h : ∀ valueOf id,
      ((first.constant? id).bind fun entry => first.foldWith valueOf id entry.value) =
        (second.constant? id).bind fun entry => second.foldWith valueOf id entry.value)
    (seen : List ElementId) : first.valueUnseen seen = second.valueUnseen seen := by
  funext id
  fun_induction first.valueUnseen seen id with
  | case1 seen id hn =>
    rw [valueUnseen_eq, ← h, hn]
    simp
  | case2 seen id entry hc hs => rw [valueUnseen_eq, if_pos hs]
  | case3 seen id entry hc hs ih =>
    have hnext : first.valueUnseen (id :: seen) = second.valueUnseen (id :: seen) := funext ih
    rw [valueUnseen_eq, if_neg hs, ← h, hc, ← hnext, Option.bind_some]

def foldConstant? (index : Index) (scope : ElementId) (expr : Expr) : Option Constant :=
  index.foldWith (index.valueUnseen []) scope expr

end Index

end EndpointInference
