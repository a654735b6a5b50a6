import EndpointInference.Options
import EndpointInference.Symbols

/-!
The shape of a handler's success, from its return type: a result that may fail, under at most one
asynchronous wrapper, with a marker, a stream or any other payload.
-/

namespace EndpointInference

def isIdName (name : String) : Bool :=
  name == "id" || name == "Id" || name == "iD" || name == "ID"

/-- The property that identifies a value: `Id`, or else the first that is so called in another
case; only public readable properties count. -/
def idProperty? (properties : List Property) : Option String :=
  let visible := properties.filter fun property => property.readable && property.isPublic
  ((visible.find? (·.name == "Id")).or (visible.find? (isIdName ·.name))).map (·.name)

def SuccessShape.marker (kind : SuccessKind) (isAsync : Bool) : SuccessShape :=
  { kind, isAsync }

def SuccessShape.ofPayload (symbols : Symbols) (known : WellKnown) (isAsync : Bool)
    (payload : TypeRef) : SuccessShape :=
  if payload.isUnit then .marker .success isAsync
  else
    match known.markerKind? payload with
    | some kind => .marker kind isAsync
    | none =>
      match if known.isStream payload then payload.firstArg? else none with
      | some element =>
        { payload := some payload
          kind := .payload
          isAsync
          delivery := .stream element
            (if known.isEventEnvelope element then element.firstArg? else none) }
      | none =>
        { payload := some payload
          kind := .payload
          isAsync
          idProperty := (symbols.typeInfo? payload).bind fun info => idProperty? info.properties }

/-- The shape of a handler's success; none if its return type is no result that may fail. -/
def inferSuccess? (symbols : Symbols) (known : WellKnown) (returnType : TypeRef)
    (isAsync : Bool) : Option SuccessShape :=
  (known.falliblePayload? returnType).map
    (.ofPayload symbols known (isAsync || known.isAsyncWrapper returnType))

end EndpointInference
