import EndpointInference.Config.Value

/-!
Layers of configuration. A source gives values to keys, either from a fixed set of properties or
from variables. Of the sources that give a key a value, the one with the highest priority counts,
and of those the one that was added first.
-/

namespace EndpointInference

abbrev Variables := List (String × String)

/-- The variables with one set to a value, or without it. -/
def Variables.set (vars : Variables) (name : String) (value : Option String) : Variables :=
  (value.toList.map fun value => (name, value)) ++ vars.filter (·.1 != name)

/-- Properties by their keys, each key once. -/
abbrev Properties := List (String × ConfigValue)

def Properties.put (properties : Properties) (key : String) (value : ConfigValue) : Properties :=
  (key, value) :: properties.filter (·.1 != key)

/-! ### Properties of a configuration file -/

namespace Properties

def subkey (table key : String) : String :=
  if table.isEmpty then key else table ++ "." ++ key

mutual
/-- Adds the values in a table under keys with dots; of two values for a key the later counts. -/
def addToml (properties : Properties) (key : String) : Toml.Value → Properties
  | .table entries => addTomlEntries properties key entries
  | .text value => properties.put key (.ofToml (.text value))
  | .int value => properties.put key (.ofToml (.int value))
  | .float value => properties.put key (.ofToml (.float value))
  | .bool value => properties.put key (.ofToml (.bool value))
  | .moment value => properties.put key (.ofToml (.moment value))
  | .array items => properties.put key (.ofToml (.array items))

def addTomlEntries (properties : Properties) (table : String) :
    List (String × Toml.Value) → Properties
  | [] => properties
  | (key, value) :: rest =>
    addTomlEntries (addToml properties (subkey table key) value) table rest
end

def ofToml (value : Toml.Value) : Properties :=
  addToml [] "" value

end Properties

/-! ### Sources -/

def keyRoot : List Char :=
  "chimera.contract.".toList

def strip? (beginning cs : List Char) : Option (List Char) :=
  if beginning.isPrefixOf cs then some (cs.drop beginning.length) else none

/-- The variable for a key: the key without its root, in capitals, with underscores for dots and
hyphens. -/
def variableOfKey (start key : String) : String :=
  let key := ((strip? keyRoot key.toList).getD key.toList).map fun c =>
    if c == '.' || c == '-' then '_' else c
  start ++ Text.toUpper (String.ofList key)

def keyOfVariable? (start name : String) : Option String :=
  (strip? start.toList name.toList).map fun rest =>
    String.ofList (keyRoot ++ (Text.toLower (String.ofList rest)).toList.map fun c =>
      if c == '_' then '-' else c)

inductive SourceContent
  /-- Variables whose names start so. -/
  | fromVariables (start : String)
  | properties (properties : Properties)

structure PropertySource where
  name : String
  priority : Int
  content : SourceContent

namespace PropertySource

def defaultStart : String := "CHIMERA_CONTRACT_"

def ofVariables (start : String := defaultStart) : PropertySource :=
  ⟨"environment", 100, .fromVariables start⟩

def ofProperties (name : String) (properties : Properties) (priority : Int := 50) :
    PropertySource :=
  ⟨name, priority, .properties properties⟩

def ofToml (name : String) (value : Toml.Value) (priority : Int := 0) : PropertySource :=
  ⟨name, priority, .properties (.ofToml value)⟩

def find? (source : PropertySource) (vars : Variables) (key : String) : Option ConfigValue :=
  match source.content with
  | .fromVariables start => (vars.lookup (variableOfKey start key)).map .text
  | .properties properties => properties.lookup key

def keys (source : PropertySource) (vars : Variables) : List String :=
  let found : List String :=
    match source.content with
    | .fromVariables start => vars.filterMap fun entry => keyOfVariable? start entry.1
    | .properties properties => properties.map (·.1)
  found.mergeSort fun a b => a ≤ b

def precedes (source other : PropertySource) : Bool :=
  source.priority ≥ other.priority

end PropertySource

/-! ### Layers -/

/-- Sources, those with the highest priority first. -/
structure Environment where
  sources : List PropertySource := []

namespace Environment

/-- Adds a source and sorts all by priority; sources of the same priority stay in their order. -/
def add (environment : Environment) (source : PropertySource) : Environment :=
  ⟨(environment.sources ++ [source]).mergeSort PropertySource.precedes⟩

def get? (environment : Environment) (vars : Variables) (key : String) :
    Option ConfigValue :=
  environment.sources.findSome? fun source => source.find? vars key

def getText? (environment : Environment) (vars : Variables) (key : String) :
    Option String :=
  (environment.get? vars key).bind ConfigValue.text?

def getInt? (environment : Environment) (vars : Variables) (key : String) : Option Int64 :=
  (environment.get? vars key).bind ConfigValue.int?

def getBool? (environment : Environment) (vars : Variables) (key : String) : Option Bool :=
  (environment.get? vars key).bind ConfigValue.bool?

def getTexts? (environment : Environment) (vars : Variables) (key : String) :
    Option (List String) :=
  (environment.get? vars key).bind ConfigValue.texts?

def summary (environment : Environment) : String :=
  "Environment \x7b sources: " ++ Text.quotedList (environment.sources.map (·.name)) ++ " \x7d"

end Environment

end EndpointInference
