import EndpointInference.Index.Fold
import EndpointInference.Route

/-!
What an index answers: its handlers, and the questions of an analysis.
-/

namespace EndpointInference.Index

open EndpointInference.Syntax

def controllerOf (index : Index) (entry : FunctionEntry) : Controller :=
  (entry.owner.bind index.controller?).getD {}

def describeHandler (index : Index) (entry : FunctionEntry) (verb : Verb) (path : String) :
    Logged Handler := do
  let controller := index.controllerOf entry
  let route := Route.join controller.basePath path
  let declaredErrors ← Annotations.declaredErrors entry.attributes
  Logged.trace "Handler extracted"
    [("handler", entry.name), ("verb", verb.text), ("route", route)]
  return {
    id := entry.id
    name := entry.name
    verb
    route
    routeVariables := Route.variableNames route
    parameters := index.describeParams entry.file entry.signature
    returnType := Lowering.lowerOutput index.known entry.signature.output
    isAsync := entry.signature.isAsync
    middleware := (controller.middleware.merge entry.implMiddleware).merge
      (Annotations.middleware entry.attributes)
    declaredErrors
    location := .ofPosition entry.file entry.signature.name.start }

def handler? (index : Index) (id : ElementId) : Option (Logged Handler) := do
  let entry ← index.function? id
  let (verb, path) ← entry.mapping
  some (index.describeHandler entry verb path)

def handlers (index : Index) : Logged (List Handler) :=
  (index.handlerOrder.filterMap index.handler?).mapM id

/-! ### Questions of an analysis -/

def body? (index : Index) (element : ElementId) : Option Body :=
  match index.function? element with
  | some entry => entry.body.map .block
  | none => (index.constant? element).map fun entry => .expr entry.value

/-- A place in a body; the file is known where the index has the name of one file only. -/
def locate (index : Index) (position : Position) : Location :=
  match index.files with
  | [file] => .ofPosition (some file) position
  | _ => .ofPosition none position

def elements (index : Index) : List ElementId :=
  index.functions.map (·.1) ++ index.constants.map (·.1)

def memberTypes (index : Index) : List TypeRef :=
  index.types.flatMap fun (name, entry) =>
    (index.describeType name entry).constructors.flatMap fun ctor => ctor.params.map (·.ty)

theorem mem_of_lookup [BEq α] [LawfulBEq α] {key : α} {value : β} :
    {entries : List (α × β)} → entries.lookup key = some value → (key, value) ∈ entries
  | (k, v) :: rest, h => by
    rw [List.lookup_cons] at h
    by_cases hk : key = k
    · simp_all
    · rw [beq_false_of_ne hk] at h
      exact .tail _ (mem_of_lookup h)

theorem mem_elements_of_body? (index : Index) (element : ElementId) (body : Body)
    (h : index.body? element = some body) : element ∈ index.elements := by
  unfold body? at h
  split at h
  · next entry hf =>
    exact List.mem_append_left _ (List.mem_map.mpr ⟨_, mem_of_lookup hf, rfl⟩)
  · next hf =>
    obtain ⟨entry, hc, -⟩ := Option.map_eq_some_iff.mp h
    exact List.mem_append_right _ (List.mem_map.mpr ⟨_, mem_of_lookup hc, rfl⟩)

theorem mem_memberTypes_of_typeInfo? (index : Index) (ty : TypeRef) (info : TypeInfo)
    (h : index.typeInfo? ty = some info) (ctor : Constructor) (hc : ctor ∈ info.constructors)
    (param : Parameter) (hp : param ∈ ctor.params) : param.ty ∈ index.memberTypes := by
  obtain ⟨entry, he, rfl⟩ := Option.map_eq_some_iff.mp h
  exact List.mem_flatMap.mpr ⟨_, mem_of_lookup he,
    List.mem_flatMap.mpr ⟨ctor, hc, List.mem_map.mpr ⟨param, hp, rfl⟩⟩⟩

def symbols (index : Index) : Symbols where
  typeInfo? := index.typeInfo?
  resolveCall? := index.resolveCall?
  resolveReference? := index.resolveReference?
  body? := index.body?
  foldConstant? := index.foldConstant?
  locate := index.locate
  declared := index.elements
  mem_declared := index.mem_elements_of_body?
  memberTypes := index.memberTypes
  mem_memberTypes := index.mem_memberTypes_of_typeInfo?

end EndpointInference.Index
