import EndpointInference.Syntax.Expr

/-!
Reading a list of tokens from the front. A cursor has the tokens that are left and those that were
taken; an operator of several marks is taken as one unit, whose marks are joined to one another and
not to what follows. So the tokens taken by a phrase are also how the phrase is written out.
-/

namespace EndpointInference.Syntax

/-! ### Looking ahead -/

namespace Ahead

/-- Whether the tokens start with these marks, each but the last joined to the next. -/
def marks : List Char → List TokenTree → Bool
  | [c], .punct mark _ _ :: _ => mark == c
  | c :: rest, .punct mark joint _ :: trees => mark == c && joint && marks rest trees
  | _, _ => false

def mark (text : String) (trees : List TokenTree) : Bool :=
  marks text.toList trees

def word (text : String) : List TokenTree → Bool
  | .ident found _ :: _ => found == text
  | _ => false

def anyWord : List TokenTree → Bool
  | .ident .. :: _ => true
  | _ => false

def reserved : List String :=
  ["_", "abstract", "as", "async", "await", "become", "box", "break", "const", "continue", "crate",
   "do", "dyn", "else", "enum", "extern", "false", "final", "fn", "for", "if", "impl", "in", "let",
   "loop", "macro", "match", "mod", "move", "mut", "override", "priv", "pub", "ref", "return",
   "Self", "self", "static", "struct", "super", "trait", "true", "try", "type", "typeof", "unsafe",
   "unsized", "use", "virtual", "where", "while", "yield"]

def name : List TokenTree → Bool
  | .ident text _ :: _ => !reserved.contains text
  | _ => false

def lifetime : List TokenTree → Bool
  | .punct '\'' true _ :: .ident .. :: _ => true
  | _ => false

def group (delimiter : Delimiter) : List TokenTree → Bool
  | .group found _ _ :: _ => found == delimiter
  | _ => false

def isNumber (lexeme : String) : Bool :=
  match lexeme.toList with
  | c :: _ => c.isDigit
  | [] => false

/-- A literal, one of the truth values, or a number with a minus sign. -/
def literal : List TokenTree → Bool
  | .literal .. :: _ => true
  | .ident text _ :: _ => text == "true" || text == "false"
  | .punct '-' _ _ :: .literal text _ :: _ => isNumber text
  | _ => false

/-- The tokens behind the next one; a lifetime counts as one. -/
def next : List TokenTree → List TokenTree
  | .punct '\'' true _ :: .ident .. :: rest => rest
  | _ :: rest => rest
  | [] => []

def pathStart (trees : List TokenTree) : Bool :=
  name trees || mark "::" trees || mark "<" trees || word "self" trees || word "Self" trees ||
    word "super" trees || word "crate" trees

end Ahead

/-! ### Taking tokens -/

structure Cursor where
  rest : List TokenTree
  /-- The tokens taken so far, the last one first. -/
  taken : List TokenTree := []

abbrev Parser := StateT Cursor Option

namespace Parser

def rest : Parser (List TokenTree) := do
  return (← get).rest

def isEmpty : Parser Bool := do
  return (← rest).isEmpty

def ahead (test : List TokenTree → Bool) : Parser Bool := do
  return test (← rest)

def require (condition : Bool) : Parser Unit :=
  if condition then pure () else failure

def position : Parser Position := do
  match ← rest with
  | tree :: _ => return tree.start
  | [] => return {}

def token : Parser TokenTree := fun cursor =>
  match cursor.rest with
  | tree :: rest => some (tree, ⟨rest, tree :: cursor.taken⟩)
  | [] => none

def joined (start : Position) : List Char → List TokenTree
  | [] => []
  | [c] => [.punct c false start]
  | c :: rest => .punct c true start :: joined start rest

/-- Takes `count` tokens, which are written out as `trees`. -/
def replace (count : Nat) (trees : List TokenTree) : Parser Unit :=
  modify fun cursor => ⟨cursor.rest.drop count, trees.reverse ++ cursor.taken⟩

def mark (text : String) : Parser Unit := do
  require (Ahead.mark text (← rest))
  let start ← position
  replace text.length (joined start text.toList)

def mark? (text : String) : Parser Bool := do
  if ← ahead (Ahead.mark text) then
    mark text
    return true
  else
    return false

def word (text : String) : Parser Unit := do
  require (Ahead.word text (← rest))
  let _ ← token

def word? (text : String) : Parser Bool := do
  if ← ahead (Ahead.word text) then
    word text
    return true
  else
    return false

def anyWord : Parser Ident := do
  match ← token with
  | .ident text start => return ⟨text, start⟩
  | _ => failure

def name : Parser Ident := do
  require (Ahead.name (← rest))
  anyWord

def lifetime : Parser Unit := do
  require (Ahead.lifetime (← rest))
  let _ ← token
  let _ ← token

def lifetime? : Parser Bool := do
  if ← ahead Ahead.lifetime then
    lifetime
    return true
  else
    return false

/-- A literal; a minus sign belongs to the number behind it. -/
def literal : Parser Literal := do
  match ← rest with
  | .literal text _ :: _ =>
    let _ ← token
    return .ofLexeme text
  | .ident text _ :: _ =>
    require (text == "true" || text == "false")
    let _ ← token
    return .bool (text == "true")
  | .punct '-' _ start :: .literal text place :: _ =>
    require (Ahead.isNumber text)
    replace 2 [.punct '-' false start, .literal text place]
    return .other
  | _ => failure

/-- A group, all of whose tokens are read by `inner`. -/
def delimited (delimiter : Delimiter) (inner : Parser α) : Parser α := fun cursor =>
  match cursor.rest with
  | .group found trees start :: rest =>
    if found = delimiter then do
      let (result, ⟨left, taken⟩) ← inner ⟨trees, []⟩
      if left.isEmpty then
        some (result, ⟨rest, .group delimiter taken.reverse start :: cursor.taken⟩)
      else none
    else none
  | _ => none

def anyGroup : Parser (Delimiter × List TokenTree) := do
  match ← token with
  | .group delimiter inner _ => return (delimiter, inner)
  | _ => failure

/-- What the phrase reads, and the tokens it took. -/
def written (phrase : Parser α) : Parser (α × List TokenTree) := fun cursor => do
  let (result, after) ← phrase ⟨cursor.rest, []⟩
  some ((result, after.taken.reverse), ⟨after.rest, after.taken ++ cursor.taken⟩)

/-- Writes out what was taken since `before` as `trees`. -/
def writeOut (before : Cursor) (trees : List TokenTree) : Parser Unit :=
  modify fun cursor => ⟨cursor.rest, trees.reverse ++ before.taken⟩

def parenthesize (before : Cursor) : Parser Unit :=
  modify fun cursor =>
    let inside := cursor.taken.take (cursor.taken.length - before.taken.length)
    let start := (inside.getLast?.map (·.start)).getD {}
    ⟨cursor.rest, .group .paren inside.reverse start :: before.taken⟩

/-- Writes out what was taken since `before` as it stands in the source. -/
def keepSource (before : Cursor) : Parser Unit := do
  writeOut before (before.rest.take (before.rest.length - (← rest).length))

/-- What the phrase gives. If it gives nothing, what was taken since `before` is written out as it
stands in the source, and `other` is given. -/
def elseSource (before : Cursor) (other : α) (phrase : Parser (Option α)) : Parser α := do
  match ← phrase with
  | some result => return result
  | none =>
    keepSource before
    return other

/-- What the phrase reads, and the tokens it took as they stand in the source. -/
def verbatim (phrase : Parser α) : Parser (α × List TokenTree) := do
  let before ← get
  written do
    let result ← phrase
    keepSource ⟨before.rest, []⟩
    return result

def lookAhead (phrase : Parser α) : Parser (Option α) := fun cursor =>
  some ((phrase cursor).map (·.1), cursor)

/-! ### Repetition -/

def repeatUpTo : Nat → (List TokenTree → Bool) → Parser α → Parser (List α)
  | 0, _, _ => return []
  | budget + 1, more, phrase => do
    if more (← rest) then
      let first ← phrase
      return first :: (← repeatUpTo budget more phrase)
    else
      return []

/-- Reads phrases as long as `more` holds of what is left; each takes a token. -/
def repeatWhile (more : List TokenTree → Bool) (phrase : Parser α) : Parser (List α) := do
  repeatUpTo ((← rest).length + 1) more phrase

/-- Reads phrases divided by `separator`, up to where `stop` holds, a last separator allowed; also
says whether there was one. -/
def separatedUpTo : Nat → String → (List TokenTree → Bool) → Parser α → Parser (List α × Bool)
  | 0, _, _, _ => failure
  | budget + 1, separator, stop, phrase => do
    if stop (← rest) then return ([], false)
    let first ← phrase
    if stop (← rest) then return ([first], false)
    mark separator
    if stop (← rest) then return ([first], true)
    let (others, trailing) ← separatedUpTo budget separator stop phrase
    return (first :: others, trailing)

def separated (separator : String) (stop : List TokenTree → Bool) (phrase : Parser α) :
    Parser (List α) := do
  return (← separatedUpTo ((← rest).length + 1) separator stop phrase).1

def commaList (phrase : Parser α) : Parser (List α) :=
  separated "," List.isEmpty phrase

/-- The result of a phrase that takes all tokens. -/
def readAll (phrase : Parser α) (trees : List TokenTree) : Option α := do
  let (result, after) ← phrase ⟨trees, []⟩
  if after.rest.isEmpty then some result else none

end Parser

end EndpointInference.Syntax
