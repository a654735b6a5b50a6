import EndpointInference.Toml.Table

/-!
Configuration files: lines that are blank, open a table, or give a key its value.
-/

namespace EndpointInference.Toml

/-- How deep values nest, and how many parts a key has, at most. -/
def depthLimit : Nat := 80

/-! ### Keys and blanks -/

def isBareKeyChar (c : Char) : Bool :=
  c.isAlphanum || c == '_' || c == '-'

def readKeyPart (cs : List Char) : Option (String × List Char) :=
  match cs with
  | '"' :: rest => (basicChars (rest.length + 1) rest).map fun (key, rest) =>
    (String.ofList key, rest)
  | '\'' :: rest => (literalChars rest).map fun (key, rest) => (String.ofList key, rest)
  | cs =>
    let key := cs.takeWhile isBareKeyChar
    if key.isEmpty then none else some (String.ofList key, cs.dropWhile isBareKeyChar)

def readKeyParts : Nat → Reader (List String)
  | 0, _ => none
  | budget + 1, cs => do
    let (key, rest) ← readKeyPart (skipSpaces cs)
    match skipSpaces rest with
    | '.' :: rest => do
      let (keys, rest) ← readKeyParts budget rest
      some (key :: keys, rest)
    | rest => some ([key], rest)

def readKey (cs : List Char) : Option ((List String × String) × List Char) := do
  let (keys, rest) ← readKeyParts depthLimit cs
  if keys.length < depthLimit then
    some ((keys.dropLast, keys.getLastD ""), rest)
  else none

def skipComment : List Char → List Char
  | '#' :: rest => rest.dropWhile isLineChar
  | cs => cs

def skipBlanks : Nat → List Char → List Char
  | 0, cs => cs
  | budget + 1, cs =>
    match skipLineBreaks cs with
    | '#' :: rest => skipBlanks budget (rest.dropWhile isLineChar)
    | rest => rest

def lineEnd? (cs : List Char) : Option (List Char) :=
  match skipComment (skipSpaces cs) with
  | [] => some []
  | rest => newline? rest

/-! ### Values -/

def tableOf? (pairs : List ((List String × String) × Value)) : Option Value :=
  (pairs.foldlM (fun table pair => Table.addValue pair.1.1 pair.1.2 pair.2 table) Table.empty).map
    Table.toValue

mutual
def readValue : Nat → Nat → Reader Value
  | 0, _, _ | _, _, [] => none
  | budget + 1, depth, c :: rest =>
    if c == '"' || c == '\'' then
      (readText (c :: rest)).map fun (text, rest) => (.text (String.ofList text), rest)
    else if c == '[' then
      if depth + 1 < depthLimit then
        (readItems budget (depth + 1) rest).map fun (items, rest) => (.array items, rest)
      else none
    else if c == '\x7b' then
      if depth + 1 < depthLimit then
        match readPairs budget (depth + 1) rest with
        | some (pairs, rest) => (tableOf? pairs).map fun table => (table, rest)
        | none => none
      else none
    else if c == '+' || c == '-' || c.isDigit then readMomentOrNumber (c :: rest)
    else if c == 'i' || c == 'n' then readNumber (c :: rest)
    else readBool (c :: rest)

def readItems : Nat → Nat → Reader (List Value)
  | 0, _, _ => none
  | budget + 1, depth, cs =>
    match skipBlanks (cs.length + 1) cs with
    | ']' :: rest => some ([], rest)
    | cs =>
      match readValue budget depth cs with
      | none => none
      | some (item, rest) =>
        match skipBlanks (rest.length + 1) rest with
        | ',' :: rest =>
          (readItems budget depth rest).map fun (items, rest) => (item :: items, rest)
        | ']' :: rest => some ([item], rest)
        | _ => none

def readPairs : Nat → Nat → Reader (List ((List String × String) × Value))
  | 0, _, _ => none
  | budget + 1, depth, cs =>
    match skipSpaces cs with
    | '\x7d' :: rest => some ([], rest)
    | cs => readPairsFrom budget depth cs

def readPairsFrom : Nat → Nat → Reader (List ((List String × String) × Value))
  | 0, _, _ => none
  | budget + 1, depth, cs =>
    match readKey cs with
    | some (key, '=' :: rest) =>
      match readValue budget depth (skipSpaces rest) with
      | none => none
      | some (value, rest) =>
        match skipSpaces rest with
        | ',' :: rest =>
          (readPairsFrom budget depth rest).map fun (pairs, rest) => ((key, value) :: pairs, rest)
        | '\x7d' :: rest => some ([(key, value)], rest)
        | _ => none
    | _ => none
end

/-! ### Lines -/

inductive Line
  | blank
  | table (path : List String) (key : String)
  /-- The header of the next table in an array. -/
  | next (path : List String) (key : String)
  | pair (path : List String) (key : String) (value : Value)

def readLine (cs : List Char) : Option (Line × List Char) :=
  match skipSpaces cs with
  | '[' :: '[' :: rest => do
    let ((path, key), rest) ← readKey rest
    match rest with
    | ']' :: ']' :: rest => (lineEnd? rest).map fun rest => (.next path key, rest)
    | _ => none
  | '[' :: rest => do
    let ((path, key), rest) ← readKey rest
    match rest with
    | ']' :: rest => (lineEnd? rest).map fun rest => (.table path key, rest)
    | _ => none
  | cs =>
    match lineEnd? cs with
    | some rest => some (.blank, rest)
    | none => do
      let ((path, key), rest) ← readKey cs
      match rest with
      | '=' :: rest => do
        let cs := skipSpaces rest
        let (value, rest) ← readValue (cs.length + 1) 0 cs
        (lineEnd? rest).map fun rest => (.pair path key value, rest)
      | _ => none

def readLines : Nat → List Char → Option (List Line)
  | _, [] => some []
  | 0, _ => none
  | budget + 1, cs => do
    let (line, rest) ← readLine cs
    (readLines budget rest).map (line :: ·)

/-- A file while it is read: all tables, and the path to the one that is being filled. -/
structure Document where
  root : Table := .empty
  current : List String := []

namespace Document

def add (document : Document) : Line → Option Document
  | .blank => some document
  | .table path key => do
    let root ← document.root.descend false (Table.openTable key) path
    some ⟨root, path ++ [key]⟩
  | .next path key => do
    let root ← document.root.descend false (Table.openNext key) path
    some ⟨root, path ++ [key]⟩
  | .pair path key value => do
    let root ← document.root.descend false (Table.addValue path key value) document.current
    some { document with root }

end Document

def withoutMark : List Char → List Char
  | [] => []
  | c :: rest => if c.toNat == 0xFEFF then rest else c :: rest

/-- What a configuration file holds: a table, or the moment that one stands for. -/
def parse? (text : String) : Option Value := do
  let cs := withoutMark text.toList
  let lines ← readLines (cs.length + 1) cs
  let document ← lines.foldlM Document.add {}
  document.root.toValue.settle?

end EndpointInference.Toml
