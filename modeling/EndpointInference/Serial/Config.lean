import EndpointInference.Config.Load
import EndpointInference.Serial.Data

/-!
The serialized form of configuration. Numbers are written as texts.
-/

namespace EndpointInference

mutual
def ConfigValue.data : ConfigValue → Data
  | text value => .tagged "String" (.text value)
  | int value => .tagged "Int" (.text (toString value.toInt))
  | float value => .tagged "Float" (.text (Decimal.floatText value))
  | bool value => .tagged "Bool" (.bool value)
  | array items => .tagged "Array" (.list (ConfigValue.dataList items))
  | object entries => .tagged "Object" (.record (ConfigValue.dataEntries entries))

def ConfigValue.dataList : List ConfigValue → List Data
  | [] => []
  | item :: rest => item.data :: ConfigValue.dataList rest

def ConfigValue.dataEntries : List (String × ConfigValue) → List (String × Data)
  | [] => []
  | (key, value) :: rest => (key, value.data) :: ConfigValue.dataEntries rest
end

def LoggingConfig.data (config : LoggingConfig) : Data :=
  .record [
    ("level", .text config.level.text),
    ("format", .text config.format.text),
    ("show_target", .bool config.showTarget),
    ("filter", .ofOption .text config.filter),
    ("tracing_level", .text config.level.label)]

end EndpointInference
