import EndpointInference.Text.CaseMap

/-!
Settings for the log: from which level on and in which format it is written.
-/

namespace EndpointInference

inductive LogLevel
  | trace
  | debug
  | info
  | warn
  | error
deriving DecidableEq, Repr

structure UnknownLevel where
  text : String
deriving DecidableEq, Repr

def UnknownLevel.message (unknown : UnknownLevel) : String :=
  "Invalid log level: " ++ unknown.text

namespace LogLevel

def text : LogLevel → String
  | trace => "trace"
  | debug => "debug"
  | info => "info"
  | warn => "warn"
  | error => "error"

def label : LogLevel → String
  | trace => "TRACE"
  | debug => "DEBUG"
  | info => "INFO"
  | warn => "WARN"
  | error => "ERROR"

def parse (text : String) : Except UnknownLevel LogLevel :=
  match Text.toLower text with
  | "trace" => .ok trace
  | "debug" => .ok debug
  | "info" => .ok info
  | "warn" | "warning" => .ok warn
  | "error" => .ok error
  | _ => .error ⟨text⟩

end LogLevel

inductive LogFormat
  | compact
  | full
  | json
  | pretty
deriving DecidableEq, Repr

structure UnknownFormat where
  text : String
deriving DecidableEq, Repr

def UnknownFormat.message (unknown : UnknownFormat) : String :=
  "Invalid log format: " ++ unknown.text

namespace LogFormat

def text : LogFormat → String
  | compact => "compact"
  | full => "full"
  | json => "json"
  | pretty => "pretty"

def parse (text : String) : Except UnknownFormat LogFormat :=
  match Text.toLower text with
  | "compact" => .ok compact
  | "full" => .ok full
  | "json" => .ok json
  | "pretty" => .ok pretty
  | _ => .error ⟨text⟩

end LogFormat

structure LoggingConfig where
  level : LogLevel := .warn
  format : LogFormat := .compact
  showTarget : Bool := true
  filter : Option String := none
deriving DecidableEq, Repr

end EndpointInference
