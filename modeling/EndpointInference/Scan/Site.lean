import EndpointInference.Scan.Factory

/-!
The sites of a body: the places at which an error is made, something is called, or a declared
element is referred to, in the order in which they are visited. Patterns and declarations inside a
body have no sites, nor have the arguments of a call that makes an error.
-/

namespace EndpointInference

open EndpointInference.Syntax

inductive Site
  | kind (kind : ErrorKind)
  /-- A custom error, with its code if that is constant. -/
  | custom (code : Option CustomErrorCode)
  | unknown (text : String) (start : Position)
  | call (target : Logged CallTarget) (start : Position)
  /-- A declared element used as a value. -/
  | reference (element : ElementId)

structure SiteContext where
  symbols : Symbols
  known : WellKnown
  scope : ElementId

namespace SiteContext

def callSites (cx : SiteContext) (site : CallSite) (start : Position) : List Site :=
  ((cx.symbols.resolveCall? cx.scope site).map fun target => Site.call target start).toList

def pathSites (cx : SiteContext) (path : ExprPath) : List Site :=
  match Factory.ofNames? cx.known path.names with
  | some (.kind kind) => [.kind kind]
  | some _ => []
  | none => ((cx.symbols.resolveReference? cx.scope path).map Site.reference).toList

def factorySite (cx : SiteContext) (args : List Expr) (start : Position) : Factory → Site
  | .kind kind => .kind kind
  | .custom => .custom (customError? cx.symbols cx.scope args)
  | .unknown text => .unknown text start

def calledFactory? (cx : SiteContext) : Expr → Option Factory
  | .path p => Factory.ofNames? cx.known p.names
  | _ => none

mutual
def exprSites (cx : SiteContext) : Expr → List Site
  | .literal _ => []
  | .path p => cx.pathSites p
  | .call start callee args =>
    match cx.calledFactory? callee with
    | some factory => [cx.factorySite args start factory]
    | none =>
      cx.callSites (.function callee) start ++ calleeSites cx callee ++ listSites cx args
  | .methodCall values receiver method typeArgs args =>
    cx.callSites (.method receiver method.text) method.start ++ listSites cx values ++
      exprSites cx receiver ++ listSites cx typeArgs ++ listSites cx args
  | .field base _ => exprSites cx base
  | .reference operand => exprSites cx operand
  | .unary _ operand => exprSites cx operand
  | .paren inner => exprSites cx inner
  | .cast operand typeParts => exprSites cx operand ++ listSites cx typeParts
  | .tryOp operand => exprSites cx operand
  | .await operand => exprSites cx operand
  | .invocation args _ => listSites cx args
  | .block stmts => stmtsSites cx stmts
  | .letIs _ operand => exprSites cx operand
  | .forLoop _ iterated body => exprSites cx iterated ++ stmtsSites cx body
  | .matchOn scrutinee arms => exprSites cx scrutinee ++ armsSites cx arms
  | .closure _ typeParts body => listSites cx typeParts ++ exprSites cx body
  | .compound _ parts => listSites cx parts
  | .attributed values inner => listSites cx values ++ exprSites cx inner

/-- The sites of what is called; a path was looked up with the call. -/
def calleeSites (cx : SiteContext) : Expr → List Site
  | .path _ => []
  | callee => exprSites cx callee

def listSites (cx : SiteContext) : List Expr → List Site
  | [] => []
  | e :: rest => exprSites cx e ++ listSites cx rest

def optionSites (cx : SiteContext) : Option Expr → List Site
  | none => []
  | some e => exprSites cx e

def stmtSites (cx : SiteContext) : Stmt → List Site
  | .letBinding values _ init otherwise =>
    listSites cx values ++ optionSites cx init ++ optionSites cx otherwise
  | .item _ => []
  | .expr value => exprSites cx value
  | .empty => []

def stmtsSites (cx : SiteContext) : List Stmt → List Site
  | [] => []
  | stmt :: rest => stmtSites cx stmt ++ stmtsSites cx rest

def armSites (cx : SiteContext) : Arm → List Site
  | .mk values _ guard body =>
    listSites cx values ++ optionSites cx guard ++ exprSites cx body

def armsSites (cx : SiteContext) : List Arm → List Site
  | [] => []
  | arm :: rest => armSites cx arm ++ armsSites cx rest
end

def bodySites (cx : SiteContext) : Body → List Site
  | .block stmts => cx.stmtsSites stmts
  | .expr value => cx.exprSites value

end SiteContext

end EndpointInference
