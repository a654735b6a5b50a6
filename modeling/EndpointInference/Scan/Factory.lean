import EndpointInference.Options
import EndpointInference.Symbols

/-!
Calls that make errors. They are recognised by their path alone: its last name but one is the error
type, and its last name the kind of the error.
-/

namespace EndpointInference

open EndpointInference.Syntax

inductive Factory
  | kind (kind : ErrorKind)
  | custom
  /-- Any other member, with the type's name in front. -/
  | unknown (text : String)
deriving DecidableEq, Repr

def Factory.ofNames? (known : WellKnown) (names : List String) : Option Factory :=
  match names.reverse with
  | member :: owner :: _ =>
    if known.isErrorType owner then
      match ErrorKind.ofMember? member with
      | some found => some (.kind found)
      | none =>
        if member == "custom" || member == "Custom" then some .custom
        else some (.unknown (owner ++ "::" ++ member))
    else none
  | _ => none

/-- The text of a literal, perhaps converted to an owned text. -/
def literalText? : Expr → Option String
  | .literal (.text value) => some value
  | .methodCall _ receiver method _ args =>
    if args.isEmpty && ["to_string", "into", "to_owned"].contains method.text then
      literalText? receiver
    else none
  | .call _ (.path p) [arg] => if p.names == ["String", "from"] then literalText? arg else none
  | .paren inner => literalText? inner
  | .reference operand => literalText? operand
  | .attributed _ inner => literalText? inner
  | _ => none

/-- The number of a literal, perhaps cast, if it has at most 16 bits. -/
def literalStatus? : Expr → Option UInt16
  | .literal (.int value) => statusOfNat? value
  | .cast operand _ => literalStatus? operand
  | .paren inner => literalStatus? inner
  | .attributed _ inner => literalStatus? inner
  | _ => none

def statusOfInt? : Int → Option UInt16
  | .ofNat value => statusOfNat? value
  | .negSucc _ => none

def fallbackStatus : UInt16 := 500

def constantText? (symbols : Symbols) (scope : ElementId) (expr : Expr) : Option String :=
  match symbols.foldConstant? scope expr with
  | some (.text value) => some value
  | _ => literalText? expr

def constantStatus? (symbols : Symbols) (scope : ElementId) (expr : Expr) : Option UInt16 :=
  match symbols.foldConstant? scope expr with
  | some (.int value) => statusOfInt? value
  | _ => literalStatus? expr

/-- The custom error of the arguments status and code; none if the code is not constant. -/
def customError? (symbols : Symbols) (scope : ElementId) : List Expr → Option CustomErrorCode
  | status :: code :: _ =>
    (constantText? symbols scope code).map fun text =>
      ⟨text, (constantStatus? symbols scope status).getD fallbackStatus⟩
  | _ => none

end EndpointInference
