import EndpointInference.Binding.Rule

/-!
Binding from a form. Uploads, primitive types and collections of them are fields of the form; any
other type is bound by the parameters of its constructor, each from the form again.

A type that is being bound is not bound again inside itself. All types met on the way down are
among those that occur in constructors, so their number bounds the depth.
-/

namespace EndpointInference

/-- What binding a parameter gives: nothing where it was rejected. -/
abbrev Bound := Option EndpointParameter

/-- Bound under a key, which is the parameter's own name unless another one is given. -/
def EndpointParameter.keyed (param : Parameter) (source : BindingSource) (name : Option String) :
    EndpointParameter :=
  { EndpointParameter.ofParameter param source with key := some (name.getD param.name) }

def rejectType (code : DiagnosticCode) (param : Parameter) : Logged Bound := do
  Logged.report (.invalidBindingType code param.name param.ty.text param.location)
  return none

/-- The name under which an annotation puts a field of a form. -/
def Parameter.formName (param : Parameter) : Option String :=
  match param.annotation with
  | some (.form name) => name
  | _ => none

def Parameter.uploadSource? (param : Parameter) : Option BindingSource :=
  match param.special with
  | some .formFile => some .formFile
  | some .formFileCollection => some .formFileCollection
  | some .formCollection => some .formCollection
  | _ => none

def allBound (results : List Bound) : Option (List EndpointParameter) :=
  results.mapM id

namespace TypeView

/-- Binds a parameter from a form; `path` are the types that are being bound. -/
def bindFormWithin (view : TypeView) :
    Nat → List TypeRef → Parameter → Option String → Logged Bound
  | depth, path, param, name =>
    match param.uploadSource? with
    | some source => pure (some (.ofParameter param source))
    | none =>
      if view.isScalar param || view.isCollectionOfPrimitives param then
        pure (some (.keyed param .form name))
      else
        match view.constructor? param.ty, depth with
        | some ctor, depth + 1 =>
          if param.isCollection || path.contains param.ty then rejectType .invalidFormType param
          else do
            let results ← ctor.params.mapM fun child =>
              view.bindFormWithin depth (param.ty :: path) child child.formName
            return (allBound results).map fun children =>
              { EndpointParameter.keyed param .form name with children }
        | _, _ => rejectType .invalidFormType param

def bindForm (view : TypeView) (param : Parameter) (name : Option String) : Logged Bound :=
  view.bindFormWithin (view.symbols.memberTypes.length + 2) [] param name

end TypeView

end EndpointInference
