import EndpointInference.Decimal.Shortest
import EndpointInference.Text.Blank
import EndpointInference.Text.CaseMap
import EndpointInference.Text.Quoted
import EndpointInference.Toml.Document

/-!
Values of configuration, and how they are taken as texts, numbers, truth values and lists. A text
may stand for any of them.
-/

namespace EndpointInference

inductive ConfigValue
  | text (value : String)
  | int (value : Int64)
  | float (value : Float)
  | bool (value : Bool)
  | array (items : List ConfigValue)
  | object (entries : List (String × ConfigValue))
deriving Inhabited

namespace ConfigValue

def text? : ConfigValue → Option String
  | text value => some value
  | _ => none

/-- A number, or a text of one with blanks around it. -/
def int? : ConfigValue → Option Int64
  | int value => some value
  | text value => (Decimal.int? (Text.trim value.toList)).bind Decimal.int64?
  | _ => none

/-- A truth value, or a word for one in whatever case. -/
def bool? : ConfigValue → Option Bool
  | bool value => some value
  | text value =>
    match Text.toLower value with
    | "true" | "yes" | "1" => some true
    | "false" | "no" | "0" => some false
    | _ => none
  | _ => none

/-- The parts of a text between commas, without blanks around them; empty parts are left out. -/
def textParts (value : String) : List String :=
  (((value.toList.splitOn ',').map Text.trim).filter (· != [])).map String.ofList

def texts? : ConfigValue → Option (List String)
  | array items => some (items.filterMap text?)
  | text value => some (textParts value)
  | _ => none

mutual
def shown : ConfigValue → String
  | text value => "String(" ++ Text.quoted value ++ ")"
  | int value => "Int(" ++ toString value.toInt ++ ")"
  | float value => "Float(" ++ Decimal.floatText value ++ ")"
  | bool value => "Bool(" ++ (if value then "true" else "false") ++ ")"
  | array items => "Array([" ++ ", ".intercalate (shownList items) ++ "])"
  | object entries => "Object(\x7b" ++ ", ".intercalate (shownEntries entries) ++ "\x7d)"

def shownList : List ConfigValue → List String
  | [] => []
  | item :: rest => item.shown :: shownList rest

def shownEntries : List (String × ConfigValue) → List String
  | [] => []
  | (key, value) :: rest => (Text.quoted key ++ ": " ++ value.shown) :: shownEntries rest
end

mutual
/-- The value that a configuration file holds; dates and times are texts. -/
def ofToml : Toml.Value → ConfigValue
  | .text value => text value
  | .int value => int value
  | .float value => float value
  | .bool value => bool value
  | .moment value => text value.text
  | .array items => array (ofTomlList items)
  | .table entries => object (ofTomlEntries entries)

def ofTomlList : List Toml.Value → List ConfigValue
  | [] => []
  | item :: rest => ofToml item :: ofTomlList rest

def ofTomlEntries : List (String × Toml.Value) → List (String × ConfigValue)
  | [] => []
  | (key, value) :: rest => (key, ofToml value) :: ofTomlEntries rest
end

end ConfigValue

end EndpointInference
