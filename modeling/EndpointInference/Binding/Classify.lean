import EndpointInference.Binding.Form
import EndpointInference.Text.Quoted

/-!
Binding the parameters of a handler. The first rule that applies to a parameter decides where it
comes from. At most one part of the request's body may be read: before and after binding, handlers
that read more are given up.
-/

namespace EndpointInference

structure BindingContext where
  handler : String
  routeVariables : List String := []
  verb : Verb
  bodyless : Bool

def BindingContext.ofHandler (handler : Handler) : BindingContext where
  handler := handler.name
  routeVariables := handler.routeVariables
  verb := handler.verb
  bodyless := handler.verb.isBodyless

def BindingContext.isRouteVariable (cx : BindingContext) (name : String) : Bool :=
  cx.routeVariables.contains name

def LogEntry.decidingRule? : LogEntry → Option String
  | .event ⟨_, message, fields⟩ =>
    if message == "Parameter bound" || message == "Parameter rejected" then fields.lookup "rule"
    else none
  | _ => none

def Log.decidingRules (log : Log) : List String :=
  log.filterMap LogEntry.decidingRule?

namespace TypeView

/-- Binds what no other rule does: services, and complex types from the body if there is one. -/
def bindFallback (view : TypeView) (cx : BindingContext) (param : Parameter) : Logged Bound := do
  let service := EndpointParameter.ofParameter param .service
  if view.looksLikeService param then
    return some service
  else if view.isComplex param then
    if !cx.bodyless then
      return some (.ofParameter param .body)
    else
      Logged.report
        (.ambiguousBodylessBinding param.name param.ty.text cx.verb.text param.location)
      return some service
  else
    return some service

/-- What a rule makes of a parameter, if it applies; `group` binds a group of parameters. -/
def applyRule? (view : TypeView) (group : Parameter → Logged Bound) (cx : BindingContext)
    (param : Parameter) : BindingRule → Option (Logged Bound)
  | .parameterGroup =>
    match param.annotation with
    | some .asParameters => some (group param)
    | _ => none
  | .explicitBody =>
    match param.annotation with
    | some (.body allowEmpty) =>
      some (pure (some
        { EndpointParameter.ofParameter param .body with allowEmptyBody := allowEmpty }))
    | _ => none
  | .explicitForm =>
    match param.annotation with
    | some (.form name) => some (view.bindForm param name)
    | _ => none
  | .explicitService =>
    match param.annotation with
    | some .service => some (pure (some (.ofParameter param .service)))
    | some (.keyedService key) => some (pure (some (.ofParameter param (.keyedService key))))
    | _ => none
  | .explicitHeader =>
    match param.annotation with
    | some (.header name) =>
      some (if view.isHeaderBindable param then pure (some (.keyed param .header name))
        else rejectType .invalidHeaderType param)
    | _ => none
  | .explicitRoute =>
    match param.annotation with
    | some (.route name) =>
      some (if view.isRouteBindable param then pure (some (.keyed param .route name))
        else rejectType .invalidRouteType param)
    | _ => none
  | .explicitQuery =>
    match param.annotation with
    | some (.query name) =>
      some (if view.isRouteBindable param then pure (some (.keyed param .query name))
        else rejectType .invalidQueryType param)
    | _ => none
  | .specialRole => param.special.map fun role => pure (some (.ofParameter param (.ofSpecial role)))
  | .implicitRoute =>
    if cx.isRouteVariable param.name then
      some (if view.isRouteBindable param then pure (some (.keyed param .route none))
        else rejectType .invalidRouteType param)
    else none
  | .implicitQuery =>
    if view.isScalar param || view.isCollectionOfPrimitives param then
      some (pure (some (.keyed param .query none)))
    else none
  | .customParsing =>
    match param.customBinding with
    | some .tryParse =>
      some (pure (some (.keyed param (if cx.isRouteVariable param.name then .route else .query)
        none)))
    | some .bindAsync | some .bindable => some (pure (some (.ofParameter param .custom)))
    | none => none
  | .fallback => some (view.bindFallback cx param)

def decided (cx : BindingContext) (param : Parameter) (rule : BindingRule) (result : Bound) :
    Logged Bound := do
  let fields := [("handler", cx.handler), ("parameter", param.name), ("rule", rule.name)]
  match result with
  | some bound => Logged.debug "Parameter bound" (fields ++ [("source", bound.source.text)])
  | none => Logged.debug "Parameter rejected" fields
  return result

def classifyWith (view : TypeView) (group : Parameter → Logged Bound) (cx : BindingContext)
    (param : Parameter) : Logged Bound :=
  match BindingRule.order.findSome? fun rule =>
      (view.applyRule? group cx param rule).map fun result => (rule, result) with
  | some (rule, result) => do decided cx param rule (← result)
  | none => pure none

def classifyMember (view : TypeView) (cx : BindingContext) (param : Parameter) : Logged Bound :=
  view.classifyWith (fun _ => pure none) cx param

def nullableGroup (param : Parameter) : Diagnostic where
  code := .nullableParameterGroup
  location := param.location
  message := "Parameter group '" ++ param.name ++ "' of type '" ++ param.ty.text ++
    "' must not be optional"

def noUsableConstructor (param : Parameter) : Diagnostic where
  code := .noUsableConstructor
  location := param.location
  message := "Type '" ++ param.ty.text ++ "' of parameter group '" ++ param.name ++
    "' has no public constructor"

def nestedGroup (param child : Parameter) : Diagnostic where
  code := .nestedParameterGroup
  location := child.location
  message := "Parameter group '" ++ param.name ++ "' cannot contain the nested group '" ++
    child.name ++ "' of type '" ++ child.ty.text ++ "'"

/-- Binds a member of a group; a group inside a group is rejected. -/
def classifyChild (view : TypeView) (cx : BindingContext) (param child : Parameter) :
    Logged Bound := do
  if child.annotation = some .asParameters then
    Logged.report (nestedGroup param child)
    return none
  else
    view.classifyMember cx child

def expandGroup (view : TypeView) (cx : BindingContext) (param : Parameter) : Logged Bound := do
  if param.nullable then
    Logged.report (nullableGroup param)
    return none
  else
    match view.constructor? param.ty with
    | none =>
      Logged.report (noUsableConstructor param)
      return none
    | some ctor =>
      let results ← ctor.params.mapM (view.classifyChild cx param)
      return (allBound results).map fun children =>
        { EndpointParameter.ofParameter param .asParameters with children }

def classify (view : TypeView) (cx : BindingContext) (param : Parameter) : Logged Bound :=
  view.classifyWith (view.expandGroup cx) cx param

end TypeView

/-! ### The body of the request -/

inductive BodyCategory
  | body
  | form
  | stream
  | pipeReader
deriving DecidableEq, Repr

def Parameter.bodyCategory? (param : Parameter) : Option BodyCategory :=
  match param.annotation with
  | some (.body _) => some .body
  | some (.form _) => some .form
  | some _ => none
  | none =>
    match param.special with
    | some .formFile | some .formFileCollection | some .formCollection => some .form
    | some .stream => some .stream
    | some .pipeReader => some .pipeReader
    | some .context | some .cancellation | none => none

def BindingSource.bodyCategory? (source : BindingSource) : Option BodyCategory :=
  match source with
  | .body => some .body
  | .form | .formFile | .formFileCollection | .formCollection => some .form
  | .stream => some .stream
  | .pipeReader => some .pipeReader
  | _ => none

/-- The names of all that read the body, if they cannot stand together: two whole bodies, or two
different ways. -/
def bodyConflict? (entries : List (String × BodyCategory)) : Option (List String) :=
  let bodies := (entries.filter (·.2 == .body)).length
  let categories := (entries.map (·.2)).eraseDups
  if bodies > 1 || categories.length > 1 then some (entries.map (·.1)) else none

/-! ### Handlers -/

structure Classification where
  parameters : List EndpointParameter := []
  failed : Nat := 0
  /-- Whether the handler was given up because it reads the body more than once. -/
  aborted : Bool := false
deriving Repr

namespace Classification

def isComplete (result : Classification) : Bool :=
  result.failed == 0 && !result.aborted

def complete? (result : Classification) : Option (List EndpointParameter) :=
  if result.isComplete then some result.parameters else none

def gaveUp : Classification where
  aborted := true

def ofResults (results : List Bound) : Classification where
  parameters := results.filterMap id
  failed := results.countP Option.isNone

end Classification

def declaredBodies (handler : Handler) : List (String × BodyCategory) :=
  handler.parameters.filterMap fun param => param.bodyCategory?.map fun category =>
    (param.name, category)

def boundBodies (params : List EndpointParameter) : List (String × BodyCategory) :=
  (EndpointParameter.flattenList params).filterMap fun param =>
    param.source.bodyCategory?.map fun category => (param.name, category)

def TypeView.classifyHandler (view : TypeView) (handler : Handler) : Logged Classification := do
  match bodyConflict? (declaredBodies handler) with
  | some names =>
    Logged.debug "Multiple body sources"
      [("handler", handler.name), ("names", Text.quotedList names)]
    Logged.report (.multipleBodySources handler.name names handler.location)
    return .gaveUp
  | none =>
    let results ← handler.parameters.mapM (view.classify (.ofHandler handler))
    let classification := Classification.ofResults results
    if classification.failed == 0 then
      match bodyConflict? (boundBodies classification.parameters) with
      | some names =>
        Logged.report (.multipleBodySources handler.name names handler.location)
        return .gaveUp
      | none => return classification
    else
      return classification

end EndpointInference
