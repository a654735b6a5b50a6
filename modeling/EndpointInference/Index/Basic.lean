import EndpointInference.Disk
import EndpointInference.Index.Declaration
import EndpointInference.Syntax.Grammar
import EndpointInference.Text.Quoted

/-!
An index of what source files declare. Of functions and types the first declaration counts, of
constants and controllers the last. A file that cannot be read leaves the index as it is.
-/

namespace EndpointInference

open EndpointInference.Syntax

structure Index where
  known : WellKnown := {}
  files : List String := []
  functions : List (ElementId × FunctionEntry) := []
  types : List (String × TypeEntry) := []
  /-- Constructors by the type they belong to, in the order of declaration. -/
  constructors : List (String × ConstructorEntry) := []
  /-- Constants, the latest first. -/
  constants : List (ElementId × ConstantEntry) := []
  /-- Types with the traits they implement or derive, in the order of declaration. -/
  impls : List (String × String) := []
  controllers : List (String × Controller) := []
  /-- The functions that are mapped to a route, in the order of declaration. -/
  handlerOrder : List ElementId := []

namespace Index

def function? (index : Index) (id : ElementId) : Option FunctionEntry :=
  index.functions.lookup id

def type? (index : Index) (name : String) : Option TypeEntry :=
  index.types.lookup name

def constant? (index : Index) (id : ElementId) : Option ConstantEntry :=
  index.constants.lookup id

def controller? (index : Index) (name : String) : Option Controller :=
  index.controllers.lookup name

def struct? (index : Index) (name : String) : Option Struct :=
  match index.type? name with
  | some ⟨.struct struct, _⟩ => some struct
  | _ => none

def traitsOf (index : Index) (name : String) : List String :=
  (index.impls.filter (·.1 == name)).map (·.2)

def constructorsOf (index : Index) (name : String) : List ConstructorEntry :=
  (index.constructors.filter (·.1 == name)).map (·.2)

/-- Takes in a function, unless there is one with its id. -/
def addFunction (index : Index) (entry : FunctionEntry) : Logged Index := do
  if (index.function? entry.id).isSome then
    Logged.trace "Duplicate declaration ignored" [("id", entry.id.text)]
    return index
  else
    return { index with
      functions := index.functions ++ [(entry.id, entry)]
      handlerOrder :=
        if entry.mapping.isSome then index.handlerOrder ++ [entry.id] else index.handlerOrder }

def declare (index : Index) : Declaration → Logged Index
  | .function entry => index.addFunction entry
  | .type name entry =>
    pure (if (index.type? name).isSome then index
      else { index with types := index.types ++ [(name, entry)] })
  | .constructor owner entry =>
    pure { index with constructors := index.constructors ++ [(owner, entry)] }
  | .constant id entry => pure { index with constants := (id, entry) :: index.constants }
  | .implements owner traitName =>
    pure { index with impls := index.impls ++ [(owner, traitName)] }
  | .controller name isMapped controller =>
    pure (if isMapped || (index.traitsOf name).contains "Controller" then
        { index with controllers := (name, controller) :: index.controllers }
      else index)

def declareAll (index : Index) : List Declaration → Logged Index
  | [] => pure index
  | declaration :: rest => do (← index.declare declaration).declareAll rest

def addItems (index : Index) (file : Option String) (items : List Item) : Logged Index := do
  let declarations := DeclarationContext.itemsDeclarations ⟨index.known, file⟩ [] items
  let result ← { index with files := index.files ++ file.toList }.declareAll declarations
  Logged.debug "Indexed source"
    [("file", file.getD "<source>"),
     ("functions", toString (result.functions.length - index.functions.length)),
     ("handlers", toString result.handlerOrder.length)]
  return result

end Index

/-- A source text, perhaps with the name of its file. -/
structure SourceFile where
  name : Option String
  content : String
deriving DecidableEq, Repr

inductive IndexError
  | parse (file : Option String)
  | read (path : String) (fault : ReadFault)
deriving DecidableEq, Repr

/-- The message; that of a text against the grammar ends before the fault is described. -/
def IndexError.message : IndexError → String
  | parse file => "Failed to parse '" ++ file.getD "<source>" ++ "': "
  | read path fault => "Failed to read '" ++ path ++ "': " ++ fault.text

namespace Index

/-- Takes in a source text: whether it could be read, and the index behind it. -/
def addSource (index : Index) (source : SourceFile) : Logged (Except IndexError Unit × Index) := do
  match parseFile? source.content with
  | none => return (.error (.parse source.name), index)
  | some items => return (.ok (), ← index.addItems source.name items)

/-- Takes in source texts up to the first that cannot be read. -/
def addSources (index : Index) : List SourceFile → Logged (Except IndexError Unit × Index)
  | [] => return (.ok (), index)
  | source :: rest => do
    match ← index.addSource source with
    | (.ok (), index) => index.addSources rest
    | (.error error, index) => return (.error error, index)

def ofSources (known : WellKnown) (sources : List SourceFile) : Except IndexError (Logged Index) :=
  let ⟨(result, index), log⟩ := ({ known } : Index).addSources sources
  result.map fun _ => ⟨index, log⟩

def readSources (disk : Disk) : List String → Except IndexError (List SourceFile)
  | [] => .ok []
  | path :: rest =>
    match disk.read path with
    | .error fault => .error (.read path fault)
    | .ok content => (readSources disk rest).map (⟨some path, content⟩ :: ·)

/-- The index of files on a disk; all are read before any is taken in. -/
def load (known : WellKnown) (disk : Disk) (paths : List String) :
    Except IndexError (Logged Index) := do
  ofSources known (← readSources disk paths)

def summary (index : Index) : String :=
  "SourceIndex \x7b files: " ++ Text.quotedList index.files ++
    ", functions: " ++ toString index.functions.length ++
    ", types: " ++ toString index.types.length ++
    ", handlers: " ++ toString index.handlerOrder.length ++ " \x7d"

end Index

end EndpointInference
