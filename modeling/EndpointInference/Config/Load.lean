import EndpointInference.Config.Environment
import EndpointInference.Disk
import EndpointInference.Logging
import EndpointInference.Options

/-!
Options and settings from layers of configuration. What has no value there stays as it is by
default; a value that cannot be used is an error for some keys and passed over for others.
-/

namespace EndpointInference

inductive OptionFault
  | notInteger (value : ConfigValue)
  | belowOne (value : Int64)
  | level (unknown : UnknownLevel)
  | format (unknown : UnknownFormat)

def OptionFault.message : OptionFault → String
  | notInteger value => "expected an integer, got " ++ value.shown
  | belowOne value => "must be at least 1, got " ++ toString value.toInt
  | level unknown => unknown.message
  | format unknown => unknown.message

inductive ConfigError
  | read (path : String) (fault : ReadFault)
  | malformed
  | invalidOption (key : String) (fault : OptionFault)

/-- The message; that of a malformed file ends before the fault is described. -/
def ConfigError.message : ConfigError → String
  | read path fault => "Failed to read '" ++ path ++ "': " ++ fault.text
  | malformed => "Configuration error: Failed to parse TOML: "
  | invalidOption key fault => "Invalid option '" ++ key ++ "': " ++ fault.message

namespace PropertySource

def parseToml (name content : String) (priority : Int := 0) : Except ConfigError PropertySource :=
  match Toml.parse? content with
  | some value => .ok (.ofToml name value priority)
  | none => .error .malformed

def readToml (disk : Disk) (path : String) (priority : Int := 0) :
    Except ConfigError PropertySource :=
  match disk.read path with
  | .ok content => parseToml path content priority
  | .error fault => .error (.read path fault)

end PropertySource

/-! ### Options -/

namespace Options

def maxResultTypesKey : String := "chimera.contract.max-result-types"

def resultTypeKey : String := "chimera.contract.result-type"

def errorTypeKey : String := "chimera.contract.error-type"

def eventEnvelopeKey : String := "chimera.contract.event-envelope"

def serviceSuffixesKey : String := "chimera.contract.service-suffixes"

/-- The greatest number of result types: a number of at least one. -/
def maxResultTypesOf (value : ConfigValue) : Except OptionFault Nat :=
  match value.int? with
  | none => .error (.notInteger value)
  | some number => if number ≤ 0 then .error (.belowOne number) else .ok number.toInt.toNat

def addSuffixes (suffixes added : List String) : List String :=
  added.foldl
    (fun suffixes suffix =>
      if suffixes.contains suffix then suffixes else suffixes ++ [suffix])
    suffixes

def configureNames (environment : Environment) (vars : Variables) (known : WellKnown) :
    WellKnown :=
  let name (key current : String) : String := (environment.getText? vars key).getD current
  { known with
    resultType := name resultTypeKey known.resultType
    errorType := name errorTypeKey known.errorType
    eventEnvelope := name eventEnvelopeKey known.eventEnvelope
    serviceSuffixes := addSuffixes known.serviceSuffixes
      ((environment.getTexts? vars serviceSuffixesKey).getD []) }

def ofEnvironment (environment : Environment) (vars : Variables) :
    Except ConfigError Options :=
  let wellKnown := configureNames environment vars {}
  match environment.get? vars maxResultTypesKey with
  | none => .ok { wellKnown }
  | some value =>
    match maxResultTypesOf value with
    | .ok maxResultTypes => .ok { maxResultTypes, wellKnown }
    | .error fault => .error (.invalidOption maxResultTypesKey fault)

end Options

/-! ### Logging -/

namespace LoggingConfig

def levelKey : String := "chimera.contract.logging.level"

def formatKey : String := "chimera.contract.logging.format"

def levelOf (environment : Environment) (vars : Variables) (current : LogLevel) :
    Except ConfigError LogLevel :=
  match environment.getText? vars levelKey with
  | none => .ok current
  | some text => (LogLevel.parse text).mapError fun unknown =>
    .invalidOption levelKey (.level unknown)

def formatOf (environment : Environment) (vars : Variables) (current : LogFormat) :
    Except ConfigError LogFormat :=
  match environment.getText? vars formatKey with
  | none => .ok current
  | some text => (LogFormat.parse text).mapError fun unknown =>
    .invalidOption formatKey (.format unknown)

def ofEnvironment (environment : Environment) (vars : Variables) :
    Except ConfigError LoggingConfig := do
  let base : LoggingConfig := {}
  let level ← levelOf environment vars base.level
  let format ← formatOf environment vars base.format
  return { base with level, format }

/-- The settings in variables; unknown levels and formats are passed over. -/
def ofVariables (vars : Variables) : LoggingConfig :=
  let base : LoggingConfig := {}
  { base with
    level := ((vars.lookup "CHIMERA_CONTRACT_LOG_LEVEL").bind fun text =>
      (LogLevel.parse text).toOption).getD base.level
    format := ((vars.lookup "CHIMERA_CONTRACT_LOG_FORMAT").bind fun text =>
      (LogFormat.parse text).toOption).getD base.format
    filter := vars.lookup "RUST_LOG" }

end LoggingConfig

end EndpointInference
