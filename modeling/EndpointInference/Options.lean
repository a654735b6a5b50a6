import EndpointInference.Response

/-!
Options of an analysis: the names of the types it knows, and how many result types a response may
have. Names are compared with the last segment of a type's path.
-/

namespace EndpointInference

structure WellKnown where
  resultType : String := "ApiResult"
  /-- The type whose members make errors. -/
  errorType : String := "ApiError"
  asyncWrappers : List String := ["Future", "BoxFuture", "LocalBoxFuture"]
  streamWrappers : List String := ["Stream", "BoxStream", "LocalBoxStream"]
  eventEnvelope : String := "SseEvent"
  successMarker : String := "Success"
  createdMarker : String := "Created"
  updatedMarker : String := "Updated"
  deletedMarker : String := "Deleted"
  primitives : List String :=
    ["bool", "char", "i8", "i16", "i32", "i64", "i128", "isize", "u8", "u16", "u32", "u64", "u128",
     "usize", "f32", "f64", "String", "str", "Uuid", "DateTime", "NaiveDate", "NaiveDateTime",
     "NaiveTime", "Duration", "Decimal", "IpAddr", "Ipv4Addr", "Ipv6Addr", "Url"]
  serviceSuffixes : List String :=
    ["Service", "Repository", "Handler", "Manager", "Provider", "Factory", "Client"]
deriving DecidableEq, Repr

namespace WellKnown

def isAsyncWrapper (known : WellKnown) (ty : TypeRef) : Bool :=
  known.asyncWrappers.any ty.is

def isResult (known : WellKnown) (ty : TypeRef) : Bool :=
  ty.is known.resultType

def isStream (known : WellKnown) (ty : TypeRef) : Bool :=
  known.streamWrappers.any ty.is

def isEventEnvelope (known : WellKnown) (ty : TypeRef) : Bool :=
  ty.is known.eventEnvelope

def isPrimitive (known : WellKnown) (ty : TypeRef) : Bool :=
  known.primitives.any ty.is

def isErrorType (known : WellKnown) (name : String) : Bool :=
  name == known.errorType

def markerKind? (known : WellKnown) (ty : TypeRef) : Option SuccessKind :=
  if !ty.args.isEmpty then none
  else if ty.is known.successMarker then some .success
  else if ty.is known.createdMarker then some .created
  else if ty.is known.updatedMarker then some .updated
  else if ty.is known.deletedMarker then some .deleted
  else none

def awaited? (known : WellKnown) (ty : TypeRef) : Option TypeRef :=
  if known.isAsyncWrapper ty then ty.firstArg? else some ty

/-- The payload of a result that may fail, under at most one asynchronous wrapper. -/
def falliblePayload? (known : WellKnown) (ty : TypeRef) : Option TypeRef := do
  let inner ← known.awaited? ty
  match inner.args with
  | [payload] => if known.isResult inner then some payload else none
  | _ => none

def holdsPart (part : List Char) : List Char → Bool
  | [] => part.isEmpty
  | c :: rest => part.isPrefixOf (c :: rest) || holdsPart part rest

/-- Whether a type is named like a service: by a suffix with something before it, or as a context
of a database. -/
def hasServiceName (known : WellKnown) (ty : TypeRef) : Bool :=
  let name := ty.name.toList
  known.serviceSuffixes.any (fun suffix =>
      suffix.utf8ByteSize < ty.name.utf8ByteSize && suffix.toList.isSuffixOf name) ||
    ("Context".toList.isSuffixOf name && holdsPart ['D', 'b'] name)

end WellKnown

structure Options where
  /-- Responses with more result types are reported. -/
  maxResultTypes : Nat := 6
  wellKnown : WellKnown := {}
deriving DecidableEq, Repr

end EndpointInference
