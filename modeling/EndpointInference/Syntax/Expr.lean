import EndpointInference.Syntax.Literal
import EndpointInference.Syntax.Pattern

/-!
Bodies: expressions and statements. The tree keeps what is evaluated, in the order in which it is
written. A type inside a body is represented by the expressions that stand in it (array lengths,
constant arguments), and an attribute by the expression of its value, if it has one.
-/

namespace EndpointInference.Syntax

structure Ident where
  text : String
  start : Position
deriving DecidableEq, Repr

structure ExprPath where
  /-- Whether it has a self type in angle brackets. -/
  isQualified : Bool := false
  isGlobal : Bool := false
  names : List String
  hasArguments : Bool := false
deriving DecidableEq, Repr

def ExprPath.ident? (path : ExprPath) : Option String :=
  match path.names with
  | [name] => if path.isGlobal || path.isQualified || path.hasArguments then none else some name
  | _ => none

inductive UnaryOp
  | deref
  | not
  | neg
deriving DecidableEq, Repr

/-- Forms whose parts are expressions and nothing else. -/
inductive Form
  | array
  | assign
  | asyncBlock
  /-- An operator between two operands; comparisons do not chain. -/
  | binary (isComparison : Bool)
  | breakOut
  | constBlock
  | continueOn
  | ifElse
  | index
  | infer
  | loop
  | range
  | rawAddress
  | repetition
  | returnOut
  | structLiteral
  | tryBlock
  | tuple
  | unsafeBlock
  | whileLoop
  | yieldOut
  /-- An expression whose parts are not looked at. -/
  | unread
deriving DecidableEq, Repr

mutual
inductive Expr
  | literal (value : Literal)
  | path (path : ExprPath)
  | call (start : Position) (callee : Expr) (args : List Expr)
  /-- `values` are those of its attributes, `typeArgs` the expressions in its type arguments. -/
  | methodCall (values : List Expr) (receiver : Expr) (method : Ident) (typeArgs : List Expr)
      (args : List Expr)
  | field (base : Expr) (member : String)
  | reference (operand : Expr)
  | unary (op : UnaryOp) (operand : Expr)
  | paren (inner : Expr)
  /-- A cast; `typeParts` are the expressions in the type. -/
  | cast (operand : Expr) (typeParts : List Expr)
  | tryOp (operand : Expr)
  | await (operand : Expr)
  /-- A macro call and those of its arguments that read as expressions; `braced` says that they
  stand in braces. -/
  | invocation (args : List Expr) (braced : Bool)
  | block (stmts : List Stmt)
  | letIs (pattern : Pattern) (operand : Expr)
  | forLoop (pattern : Pattern) (iterated : Expr) (body : List Stmt)
  | matchOn (scrutinee : Expr) (arms : List Arm)
  /-- A closure; `typeParts` are the expressions in its binder and its output type. -/
  | closure (inputs : List Pattern) (typeParts : List Expr) (body : Expr)
  | compound (form : Form) (parts : List Expr)
  | attributed (values : List Expr) (inner : Expr)

inductive Stmt
  | letBinding (values : List Expr) (pattern : Pattern) (init : Option Expr)
      (otherwise : Option Expr)
  | item (written : List TokenTree)
  | expr (value : Expr)
  | empty

inductive Arm
  | mk (values : List Expr) (pattern : Pattern) (guard : Option Expr) (body : Expr)
end

instance : Inhabited Expr := ⟨.literal .other⟩
instance : Inhabited Stmt := ⟨.empty⟩

inductive Body
  | block (stmts : List Stmt)
  | expr (value : Expr)

namespace Expr

/-- Puts attributes on an expression: where they start, if there are any, and their values. A call
starts with its attributes; those of paths and of calls are not evaluated, and an expression whose
parts are not looked at drops them. -/
def withAttributes (start : Option Position) (values : List Expr) : Expr → Expr
  | .path p => .path p
  | .call place callee args => .call (start.getD place) callee args
  | .methodCall inner receiver method typeArgs args =>
    .methodCall (values ++ inner) receiver method typeArgs args
  | .attributed inner e => .attributed (values ++ inner) e
  | .compound .unread parts => .compound .unread parts
  | e => if values.isEmpty then e else .attributed values e

def attributeLeftmost (start : Option Position) (values : List Expr) : Expr → Expr
  | .compound .assign (left :: rest) =>
    .compound .assign (attributeLeftmost start values left :: rest)
  | .compound (.binary comparison) (left :: rest) =>
    .compound (.binary comparison) (attributeLeftmost start values left :: rest)
  | .cast operand typeParts => .cast (attributeLeftmost start values operand) typeParts
  | e => e.withAttributes start values

def leftmost : Expr → Expr
  | .compound .assign (left :: _) => left.leftmost
  | .compound (.binary _) (left :: _) => left.leftmost
  | .cast operand _ => operand.leftmost
  | e => e

def isUnread : Expr → Bool
  | .compound .unread _ => true
  | _ => false

def bare : Expr → Expr
  | .attributed _ inner => inner
  | e => e

/-- Whether an arm of a match with this body ends without a comma. -/
def endsArm (e : Expr) : Bool :=
  match e.bare with
  | .block _ | .forLoop .. | .matchOn .. => true
  | .compound form _ =>
    match form with
    | .ifElse | .unsafeBlock | .whileLoop | .loop | .tryBlock | .constBlock => true
    | _ => false
  | _ => false

/-- Whether the expression is a statement without a semicolon. -/
def endsStatement (e : Expr) : Bool :=
  match e.bare with
  | .invocation _ braced => braced
  | _ => e.endsArm

def isRange (e : Expr) : Bool :=
  match e.bare with
  | .compound .range _ => true
  | _ => false

def isComparison (e : Expr) : Bool :=
  match e.bare with
  | .compound (.binary comparison) _ => comparison
  | _ => false

end Expr

end EndpointInference.Syntax
