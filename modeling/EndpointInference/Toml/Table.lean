import EndpointInference.Toml.Scalar

/-!
Tables while a configuration file is read. A table comes into being by its header, or because a
longer path leads through it; in the second case a header may still follow, but only once. A table
made by dotted keys is extended by dotted keys alone.
-/

namespace EndpointInference.Toml

mutual
inductive Entry
  | value (value : Value)
  | table (table : Table)
  /-- An array of tables, the last of which is being filled. -/
  | tables (before : List Table) (last : Table)

inductive Table
  /-- `isImplicit`: no header named it so far; `isDotted`: it was made by a dotted key. -/
  | mk (isImplicit isDotted : Bool) (entries : List (String × Entry))
end

namespace Table

def isImplicit : Table → Bool
  | mk isImplicit _ _ => isImplicit

def isDotted : Table → Bool
  | mk _ isDotted _ => isDotted

def entries : Table → List (String × Entry)
  | mk _ _ entries => entries

def empty : Table :=
  mk false false []

def get? (table : Table) (key : String) : Option Entry :=
  table.entries.lookup key

/-- Puts an entry in the place of the one with its key, or behind the others. -/
def put (table : Table) (key : String) (entry : Entry) : Table :=
  mk table.isImplicit table.isDotted (go table.entries)
where
  go : List (String × Entry) → List (String × Entry)
    | [] => [(key, entry)]
    | (other, found) :: rest =>
      if other == key then (key, entry) :: rest else (other, found) :: go rest

def erase (table : Table) (key : String) : Table :=
  mk table.isImplicit table.isDotted (table.entries.filter (·.1 != key))

/-- Changes the table at the end of a path. Tables that are missing on the way are made; a path of
dotted keys does not lead through a table that has a header. -/
def descend (isDotted : Bool) (change : Table → Option Table) :
    List String → Table → Option Table
  | [], table => change table
  | key :: path, table =>
    match table.get? key with
    | none => do
      let child ← descend isDotted change path (mk true isDotted [])
      some (table.put key (.table child))
    | some (.value _) => none
    | some (.tables before last) => do
      let last ← descend isDotted change path last
      some (table.put key (.tables before last))
    | some (.table child) =>
      if isDotted && !child.isImplicit then none
      else do
        let child ← descend isDotted change path child
        some (table.put key (.table child))

/-- Adds a value that is new; `isDirect` says that its key has no dots. -/
def addNew (isDirect : Bool) (key : String) (value : Value) (table : Table) : Option Table :=
  if table.isDotted == isDirect || (table.get? key).isSome then none
  else some (table.put key (.value value))

def addValue (path : List String) (key : String) (value : Value) (table : Table) :
    Option Table :=
  table.descend true (addNew path.isEmpty key value) path

/-- Gives the table under a key its header; the table comes behind the others from then on. -/
def openTable (key : String) (table : Table) : Option Table :=
  match table.get? key with
  | none => some (table.put key (.table empty))
  | some (.table child) =>
    if child.isImplicit && !child.isDotted then
      some ((table.erase key).put key (.table (mk false false child.entries)))
    else none
  | some _ => none

def openNext (key : String) (table : Table) : Option Table :=
  match table.get? key with
  | none => some (table.put key (.tables [] empty))
  | some (.tables before last) => some (table.put key (.tables (before ++ [last]) empty))
  | some _ => none

end Table

mutual
def Entry.toValue : Entry → Value
  | .value value => value
  | .table table => table.toValue
  | .tables before last => .array (Table.listValues before ++ [last.toValue])

def Table.toValue : Table → Value
  | .mk _ _ entries => .table (Table.entryValues entries)

def Table.listValues : List Table → List Value
  | [] => []
  | table :: rest => table.toValue :: Table.listValues rest

def Table.entryValues : List (String × Entry) → List (String × Value)
  | [] => []
  | (key, entry) :: rest => (key, entry.toValue) :: Table.entryValues rest
end

/-! ### Settled values -/

/-- The key of a moment that is written as a table: its first key, with the moment as a text. -/
def momentKey : String := "$__toml_private_datetime"

def isMomentTable : List (String × Value) → Bool
  | (key, _) :: _ => key == momentKey
  | [] => false

def momentOfTable? : List (String × Value) → Option Moment
  | (_, .text text) :: _ => Moment.ofText? text
  | _ => none

mutual
/-- The value with tables that are moments read as such, and the entries of others in the order of
their keys. There is none if a table should be a moment and is not. -/
def Value.settle? : Value → Option Value
  | .array items => (Value.settleItems? items).map .array
  | .table entries =>
    if isMomentTable entries then (momentOfTable? entries).map .moment
    else (Value.settleEntries? entries).map fun entries =>
      .table (entries.mergeSort fun a b => a.1 ≤ b.1)
  | value => some value

def Value.settleItems? : List Value → Option (List Value)
  | [] => some []
  | item :: rest =>
    match item.settle?, Value.settleItems? rest with
    | some item, some rest => some (item :: rest)
    | _, _ => none

def Value.settleEntries? : List (String × Value) → Option (List (String × Value))
  | [] => some []
  | (key, value) :: rest =>
    match value.settle?, Value.settleEntries? rest with
    | some value, some rest => some ((key, value) :: rest)
    | _, _ => none
end

end EndpointInference.Toml
