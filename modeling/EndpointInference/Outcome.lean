/-!
Error outcomes of a handler: kinds of a closed set, and custom codes with a status. A collector
takes them one by one, keeping each kind once and the first of each custom code.
-/

namespace EndpointInference

inductive ErrorKind
  | failure
  | unexpected
  | validation
  | conflict
  | notFound
  | unauthorized
  | forbidden
deriving DecidableEq, Repr

namespace ErrorKind

def all : List ErrorKind :=
  [failure, unexpected, validation, conflict, notFound, unauthorized, forbidden]

def name : ErrorKind → String
  | failure => "Failure"
  | unexpected => "Unexpected"
  | validation => "Validation"
  | conflict => "Conflict"
  | notFound => "NotFound"
  | unauthorized => "Unauthorized"
  | forbidden => "Forbidden"

def factoryName : ErrorKind → String
  | failure => "failure"
  | unexpected => "unexpected"
  | validation => "validation"
  | conflict => "conflict"
  | notFound => "not_found"
  | unauthorized => "unauthorized"
  | forbidden => "forbidden"

/-- The kind with this name or this factory. -/
def ofMember? (member : String) : Option ErrorKind :=
  all.find? fun kind => kind.factoryName == member || kind.name == member

def status : ErrorKind → UInt16
  | validation => 400
  | unauthorized => 401
  | forbidden => 403
  | notFound => 404
  | conflict => 409
  | failure | unexpected => 500

def byName : List ErrorKind :=
  [conflict, failure, forbidden, notFound, unauthorized, unexpected, validation]

end ErrorKind

/-- A number as a status, which has 16 bits. -/
def statusOfNat? (value : Nat) : Option UInt16 :=
  if value < 65536 then some value.toUInt16 else none

structure CustomErrorCode where
  code : String
  status : UInt16
deriving DecidableEq, Repr

structure DeclaredErrors where
  kinds : List ErrorKind := []
  custom : List CustomErrorCode := []
deriving DecidableEq, Repr

structure ErrorOutcomes where
  kinds : List ErrorKind := []
  customCodes : List CustomErrorCode := []
deriving DecidableEq, Repr

namespace ErrorOutcomes

def isEmpty (outcomes : ErrorOutcomes) : Bool :=
  outcomes.kinds.isEmpty && outcomes.customCodes.isEmpty

def contains (outcomes : ErrorOutcomes) (kind : ErrorKind) : Bool :=
  outcomes.kinds.contains kind

def kindNames (outcomes : ErrorOutcomes) : List String :=
  outcomes.kinds.map ErrorKind.name

end ErrorOutcomes

structure OutcomeCollector where
  kinds : List ErrorKind := []
  codes : List CustomErrorCode := []
deriving DecidableEq, Repr

namespace OutcomeCollector

/-- Adds a kind; says whether it is new. -/
def recordKind (collector : OutcomeCollector) (kind : ErrorKind) : Bool × OutcomeCollector :=
  if collector.kinds.contains kind then (false, collector)
  else (true, { collector with kinds := collector.kinds ++ [kind] })

/-- Adds a custom code, unless there is one of that text; says whether it was added. -/
def recordCustom (collector : OutcomeCollector) (code : CustomErrorCode) :
    Bool × OutcomeCollector :=
  if collector.codes.any (·.code == code.code) then (false, collector)
  else (true, { collector with codes := collector.codes ++ [code] })

def recordDeclared (collector : OutcomeCollector) (declared : DeclaredErrors) :
    OutcomeCollector :=
  let collector := declared.kinds.foldl (fun c kind => (c.recordKind kind).2) collector
  declared.custom.foldl (fun c code => (c.recordCustom code).2) collector

/-- What was collected: the kinds by name, the custom codes in order. -/
def finish (collector : OutcomeCollector) : ErrorOutcomes where
  kinds := ErrorKind.byName.filter collector.kinds.contains
  customCodes := collector.codes

end OutcomeCollector

end EndpointInference
