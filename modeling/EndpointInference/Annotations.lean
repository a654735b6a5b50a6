import EndpointInference.Handler
import EndpointInference.Log
import EndpointInference.Syntax.Grammar.Cursor
import EndpointInference.Syntax.Item

/-!
What attributes say: the route of a handler, where a parameter comes from, which errors a function
declares, and the middleware of an endpoint.

Arguments are read from the front. Each starts with a path, behind which its reader may take more
tokens; a comma divides it from the next. Reading ends at the first argument that is malformed, and
what was read before it counts.
-/

namespace EndpointInference.Annotations

open EndpointInference.Syntax

/-! ### Arguments -/

/-- The path at the start of an argument, if it is a lone name, and what follows it. -/
structure ArgumentHead where
  names : List String
  isGlobal : Bool
  rest : List TokenTree

def ArgumentHead.ident? (head : ArgumentHead) : Option String :=
  match head.names with
  | [name] => if head.isGlobal then none else some name
  | _ => none

def pathTail : Nat → List TokenTree → Option (List String × List TokenTree)
  | 0, _ => none
  | budget + 1, trees =>
    if Ahead.mark "::" trees then
      match trees.drop 2 with
      | .ident text _ :: rest => do
        let (names, rest) ← pathTail budget rest
        some (text :: names, rest)
      | _ => none
    else some ([], trees)

def argumentHead? (trees : List TokenTree) : Option ArgumentHead :=
  let isGlobal := Ahead.mark "::" trees
  match if isGlobal then trees.drop 2 else trees with
  | .ident text _ :: rest => do
    let (names, rest) ← pathTail (rest.length + 1) rest
    some ⟨text :: names, isGlobal, rest⟩
  | _ => none

/-- What reading one argument gives: the new state, and the tokens behind the argument unless it is
malformed. -/
abbrev ArgumentReader (σ : Type) := σ → ArgumentHead → σ × Option (List TokenTree)

def readArguments (reader : ArgumentReader σ) : Nat → σ → List TokenTree → σ × Bool
  | 0, state, _ => (state, false)
  | budget + 1, state, trees =>
    match argumentHead? trees with
    | none => (state, false)
    | some head =>
      match reader state head with
      | (state, none) => (state, false)
      | (state, some []) => (state, true)
      | (state, some (.punct ',' _ _ :: [])) => (state, true)
      | (state, some (.punct ',' _ _ :: rest)) => readArguments reader budget state rest
      | (state, some _) => (state, false)

/-- Reads the arguments of an attribute; one without a list of arguments is malformed. -/
def readAttribute (reader : ArgumentReader σ) (state : σ) (attr : Attribute) : σ × Bool :=
  match attr.args with
  | .list [] => (state, true)
  | .list trees => readArguments reader (trees.length + 1) state trees
  | _ => (state, false)

def text? : List TokenTree → Option (String × List TokenTree)
  | .literal lexeme _ :: rest =>
    match Literal.ofLexeme lexeme with
    | .text value => some (value, rest)
    | _ => none
  | _ => none

/-! ### Texts in attributes -/

/-- Takes the text of an argument called `name`, `path` or `value`. -/
def stringReader : ArgumentReader (Option String) := fun found head =>
  match head.ident? with
  | some "name" | some "path" | some "value" =>
    if Ahead.mark "=" head.rest then
      match text? (head.rest.drop 1) with
      | some (value, rest) => (some value, some rest)
      | none => (found, none)
    else (found, none)
  | _ => (found, some head.rest)

/-- The text that an attribute is given: its only argument, or one by name. -/
def stringArgument? (attr : Attribute) : Option String :=
  match attr.args with
  | .list trees =>
    match text? trees with
    | some (value, []) => some value
    | _ => (readAttribute stringReader none attr).1
  | _ => none

def hasFlag (attr : Attribute) (flag : String) : Bool :=
  match attr.args with
  | .list trees => trees.any fun tree => Ahead.word flag [tree]
  | _ => false

def writtenArguments? (attr : Attribute) : Option String :=
  match attr.args with
  | .list [] => none
  | .list trees => some (TokenTree.listText trees)
  | _ => none

/-! ### Routes and middleware -/

def mappingVerb? : String → Option Verb
  | "get_mapping" => some .get
  | "post_mapping" => some .post
  | "put_mapping" => some .put
  | "delete_mapping" => some .delete
  | "patch_mapping" => some .patch
  | "head_mapping" => some .head
  | "options_mapping" => some .options
  | "trace_mapping" => some .trace
  | _ => none

def mapping? (attributes : List Attribute) : Option (Verb × String) :=
  attributes.findSome? fun attr => do
    let verb ← mappingVerb? (← attr.ident?)
    some (verb, (stringArgument? attr).getD "/")

def basePath (attributes : List Attribute) : String :=
  ((attributes.find? (·.isNamed "request_mapping")).bind stringArgument?).getD ""

def middleware (attributes : List Attribute) : Middleware :=
  attributes.foldl
    (fun facts attr =>
      match attr.ident? with
      | some "authorize" | some "pre_authorize" => { facts with requiresAuthorization := true }
      | some "allow_anonymous" => { facts with allowAnonymous := true }
      | some "rate_limit" => { facts with rateLimited := true }
      | some "disable_rate_limit" => { facts with rateLimitDisabled := true }
      | some "output_cache" => { facts with outputCached := true }
      | _ => facts)
    {}

/-! ### Declared errors -/

/-- A status and a code, `423, "LOCKED"`. -/
def customCode? (trees : List TokenTree) : Option CustomErrorCode :=
  match trees with
  | .literal lexeme _ :: .punct ',' _ _ :: rest =>
    match Literal.ofLexeme lexeme, text? rest with
    | .int status, some (code, []) => (statusOfNat? status).map fun status => ⟨code, status⟩
    | _, _ => none
  | _ => none

def malformedCode : LogEntry :=
  .event ⟨.debug, "Ignoring malformed custom error code: ", []⟩

def malformedArguments : LogEntry :=
  .event ⟨.debug, "Ignoring malformed #[produces_errors] arguments: ", []⟩

/-- Takes the name of an error kind, or a custom code in parentheses; other names are passed over.
A malformed code is left out with a remark. -/
def errorReader : ArgumentReader (DeclaredErrors × Log) := fun (declared, log) head =>
  match head.ident? with
  | none => ((declared, log), some head.rest)
  | some "custom" =>
    match head.rest with
    | .group .paren inner _ :: rest =>
      match customCode? inner with
      | some code => (({ declared with custom := declared.custom ++ [code] }, log), some rest)
      | none => ((declared, log ++ [malformedCode]), some rest)
    | _ => ((declared, log), none)
  | some member =>
    match ErrorKind.ofMember? member with
    | some kind =>
      if declared.kinds.contains kind then ((declared, log), some head.rest)
      else (({ declared with kinds := declared.kinds ++ [kind] }, log), some head.rest)
    | none => ((declared, log), some head.rest)

def declaredErrors (attributes : List Attribute) : Logged (Option DeclaredErrors) :=
  match attributes.find? (·.isNamed "produces_errors") with
  | none => pure none
  | some attr =>
    let ((declared, log), complete) := readAttribute errorReader ({}, []) attr
    ⟨some declared, if complete then log else log ++ [malformedArguments]⟩

/-! ### Parameters, fields and types -/

def annotation? (attr : Attribute) : Option Annotation :=
  match attr.ident? with
  | some "as_parameters" => some .asParameters
  | some "request_body" => some (.body (hasFlag attr "allow_empty"))
  | some "form" => some (.form (stringArgument? attr))
  | some "autowired" => some .service
  | some "keyed_service" => (writtenArguments? attr).map .keyedService
  | some "request_header" => some (.header (stringArgument? attr))
  | some "path_variable" | some "path_param" => some (.route (stringArgument? attr))
  | some "request_param" | some "query_param" => some (.query (stringArgument? attr))
  | _ => none

def binding? (attributes : List Attribute) : Option Annotation :=
  attributes.findSome? annotation?

/-- Whether a field's own fields stand in for it. -/
def isFlattened (attributes : List Attribute) : Bool :=
  attributes.any fun attr => attr.isNamed "serde" && hasFlag attr "flatten"

/-- Takes the last name of a derived trait. -/
def deriveReader : ArgumentReader (List String) := fun found head =>
  (found ++ [head.names.getLastD ""], some head.rest)

def derivedTraits (attributes : List Attribute) : List String :=
  (attributes.filter (·.isNamed "derive")).flatMap fun attr => (readAttribute deriveReader [] attr).1

end EndpointInference.Annotations
