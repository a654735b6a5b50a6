/-!
Data of the kind that contracts are exchanged in: numbers, texts, lists and records of named
fields.
-/

namespace EndpointInference

inductive Data
  | null
  | bool (value : Bool)
  | number (value : Nat)
  | text (value : String)
  | list (items : List Data)
  | record (fields : List (String × Data))
deriving Repr, Inhabited

namespace Data

def ofOption (encode : α → Data) : Option α → Data
  | some value => encode value
  | none => null

def ofList (encode : α → Data) (values : List α) : Data :=
  list (values.map encode)

def tagged (tag : String) (content : Data) : Data :=
  record [(tag, content)]

def texts (values : List String) : Data :=
  ofList text values

end Data

end EndpointInference
