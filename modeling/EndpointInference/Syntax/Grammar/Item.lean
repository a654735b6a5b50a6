import EndpointInference.Syntax.Grammar.Function

/-!
Declarations. Those that the index does not read are read to their end and left out.
-/

namespace EndpointInference.Syntax

namespace Grammar

open EndpointInference.Syntax.Parser

/-! ### Types -/

def atFieldsTy (trees : List TokenTree) : Bool :=
  Ahead.word "struct" trees ||
    (Ahead.word "union" trees && Ahead.group .brace (Ahead.next trees))

/-- Fields with names, nested at most `budget` deep. A field that is an underscore may have a type
that is written out as fields, which is kept as it stands in the source. -/
def namedFields (g : Grammar) : Nat → Parser (List Field)
  | 0 => failure
  | budget + 1 =>
    delimited .brace <| commaList do
      let start ← position
      let attributes ← g.outerAttributes
      let vis ← visibility
      let blank ← ahead (Ahead.word "_")
      let found ← if blank then anyWord else name
      mark ":"
      if blank && atFieldsTy (← rest) then
        let (_, trees) ← verbatim do
          let _ ← anyWord
          g.namedFields budget
        return ⟨attributes, vis = .isPublic, some found.text, start, .other trees⟩
      else
        let ty ← g.ty true
        return ⟨attributes, vis = .isPublic, some found.text, start, ty.ty⟩

def bracedFields (g : Grammar) : Parser (List Field) := do
  g.namedFields (TokenTree.listSize (← rest) + 1)

def tupleFields (g : Grammar) : Parser (List Field) :=
  delimited .paren <| commaList do
    let start ← position
    let attributes ← g.outerAttributes
    let vis ← visibility
    let ty ← g.ty true
    return ⟨attributes, vis = .isPublic, none, start, ty.ty⟩

def structItem (g : Grammar) (attributes : List Attribute) : Parser Item := do
  word "struct"
  let found ← name
  let _ ← g.genericParams
  let conditioned ← g.whereClause
  let trees ← rest
  if !conditioned && Ahead.group .paren trees then
    let fields ← g.tupleFields
    let _ ← g.whereClause
    mark ";"
    return .struct { attributes, name := found.text, fields, isUnit := false }
  else if Ahead.group .brace trees then
    let fields ← g.bracedFields
    return .struct { attributes, name := found.text, fields, isUnit := false }
  else
    mark ";"
    return .struct { attributes, name := found.text, fields := [], isUnit := true }

/-- A constructor; its visibility is not written out. -/
def enumVariant (g : Grammar) : Parser Unit := do
  let _ ← g.outerAttributes
  let before ← get
  let _ ← visibility
  writeOut before []
  let _ ← name
  let trees ← rest
  if Ahead.group .brace trees then
    let _ ← g.bracedFields
  else if Ahead.group .paren trees then
    let _ ← g.tupleFields
  if ← mark? "=" then
    let _ ← g.expr true

def enumItem (g : Grammar) (attributes : List Attribute) : Parser Item := do
  word "enum"
  let found ← name
  let _ ← g.genericParams
  let _ ← g.whereClause
  let _ ← delimited .brace (commaList g.enumVariant)
  return .enumeration attributes found.text

def unionItem (g : Grammar) : Parser Item := do
  word "union"
  let _ ← name
  let _ ← g.genericParams
  let _ ← g.whereClause
  let _ ← g.bracedFields
  return .other

/-- Where a type's other name may have its conditions: before what it stands for, behind it, or in
one of both places. -/
inductive AliasConditions
  | before
  | behind
  | either
deriving DecidableEq

structure AliasForm where
  bounded : Bool
  defined : Bool

def typeAlias (g : Grammar) (conditions : AliasConditions) : Parser AliasForm := do
  word "type"
  let _ ← name
  let _ ← g.genericParams
  let ends (trees : List TokenTree) : Bool :=
    Ahead.word "where" trees || Ahead.mark "=" trees || Ahead.mark ";" trees
  let bounded ← boundColon? ends
  if bounded then
    let _ ← g.boundsWhile .constraint fun trees => !ends trees
  let conditioned ← if conditions = .behind then pure false else g.whereClause
  let defined ← mark? "="
  if defined then
    let _ ← g.ty true
  if conditions ≠ .before && !conditioned then
    let _ ← g.whereClause
  mark ";"
  return ⟨bounded, defined⟩

/-! ### Constants -/

/-- A constant behind its keyword: its name and value. One with parameters or conditions is not read
on. -/
def constRest (g : Grammar) : Parser (Option (String × Option Expr)) := do
  let found ← if ← ahead (Ahead.word "_") then anyWord else name
  let (bracketed, _) ← g.genericParams
  mark ":"
  let _ ← g.ty true
  let value ← if ← mark? "=" then some <$> g.expr true else pure none
  let conditioned ← g.whereClause
  mark ";"
  return if bracketed || conditioned then none else some (found.text, value)

def constItem (g : Grammar) : Parser (Option Item) := do
  word "const"
  match ← g.constRest with
  | some (found, some value) => return some (.const found value)
  | _ => return none

/-- A variable; one without a type or a value is not read on. -/
def staticItem (g : Grammar) : Parser (Option Item) := do
  word "static"
  let _ ← word? "mut"
  let found ← name
  if ← mark? "=" then
    let _ ← g.expr true
    mark ";"
    return none
  mark ":"
  let _ ← g.ty true
  if ← mark? ";" then
    return none
  mark "="
  let value ← g.expr true
  mark ";"
  return some (.const found.text value)

/-! ### Macro calls -/

/-- A macro call as a declaration; without braces it ends with a semicolon. Where `allowName`
holds, a name may stand behind the mark. -/
def macroItem (allowName : Bool) : Parser Unit := do
  let _ ← plainPath
  mark "!"
  if allowName then
    if ← ahead Ahead.name then
      let _ ← name
    else
      let _ ← word? "try"
  let (delimiter, _) ← anyGroup
  if delimiter ≠ .brace then mark ";"

def atMacroItem (trees : List TokenTree) : Bool :=
  Ahead.name trees || Ahead.word "self" trees || Ahead.word "super" trees ||
    Ahead.word "crate" trees || Ahead.mark "::" trees

/-! ### Members -/

def traitFunction (g : Grammar) (attributes : List Attribute) : Parser Member := do
  let signature ← g.signature false
  if ← ahead (Ahead.group .brace) then
    let (inner, stmts) ← g.fnBody
    return .function ⟨attributes ++ inner, false, signature, some stmts⟩
  else
    mark ";"
    return .function ⟨attributes, false, signature, none⟩

def traitMemberRest (g : Grammar) (attributes : List Attribute) :
    Parser (Option (Option Member)) := do
  let vis ← visibility
  let isDefault ← word? "default"
  let plain := vis = .inherited && !isDefault
  let trees ← rest
  if ← atSignature then
    let member ← g.traitFunction attributes
    return if plain then some (some member) else none
  else if ← word? "const" then
    let found ← g.constRest
    return if plain then found.map fun entry => some (.const entry.1 entry.2) else none
  else if Ahead.word "type" trees then
    let _ ← g.typeAlias .behind
    return if plain then some none else none
  else
    require (plain && atMacroItem trees)
    macroItem false
    return some none

/-- A member of a trait. One that is marked as public or as a default is left out and kept as it
stands in the source. -/
def traitMember (g : Grammar) : Parser (Option Member) := do
  let before ← get
  let attributes ← g.outerAttributes
  elseSource before none (g.traitMemberRest attributes)

def implMemberRest (g : Grammar) (attributes : List Attribute) :
    Parser (Option (Option Member)) := do
  let vis ← visibility
  let trees ← rest
  let isDefault := Ahead.word "default" trees && !Ahead.mark "!" (Ahead.next trees)
  if isDefault then word "default"
  let trees ← rest
  if ← atSignature then
    let signature ← g.signature false
    if ← mark? ";" then return none
    let (inner, stmts) ← g.fnBody
    return some (some (.function ⟨attributes ++ inner, vis = .isPublic, signature, some stmts⟩))
  else if ← word? "const" then
    match ← g.constRest with
    | some (found, some value) => return some (some (.const found (some value)))
    | _ => return none
  else if Ahead.word "type" trees then
    let form ← g.typeAlias .behind
    return if form.defined && !form.bounded then some none else none
  else
    require (vis = .inherited && !isDefault && atMacroItem trees)
    macroItem false
    return some none

/-- A member of an implementation. One without a body, or a type with bounds, is left out and kept
as it stands in the source. -/
def implMember (g : Grammar) : Parser (Option Member) := do
  let before ← get
  let attributes ← g.outerAttributes
  elseSource before none (g.implMemberRest attributes)

/-! ### Traits and implementations -/

def traitItem (g : Grammar) : Parser Item := do
  let isUnsafe ← word? "unsafe"
  let isAuto ← word? "auto"
  word "trait"
  let found ← name
  let _ ← g.genericParams
  let isAlias ← if isUnsafe || isAuto then pure false else mark? "="
  if isAlias then
    let _ ← g.boundsWhile .abbreviation fun trees =>
      !Ahead.word "where" trees && !Ahead.mark ";" trees
    let _ ← g.whereClause
    mark ";"
    return .other
  let ends (trees : List TokenTree) : Bool :=
    Ahead.word "where" trees || Ahead.group .brace trees
  if ← boundColon? ends then
    let _ ← g.boundsWhile .constraint fun trees => !ends trees
  let _ ← g.whereClause
  let members ← delimited .brace do
    let _ ← g.innerAttributes
    repeatWhile (fun trees => !trees.isEmpty) g.traitMember
  return .trait found.text (members.filterMap id)

def traitName? : Ty → Option String
  | .path segments => segments.getLast?.map (·.name)
  | _ => none

/-- An implementation. Only that of a trait may be negative. One that is marked as public or
constant, or whose trait is no path, is not read on. -/
def implItem (g : Grammar) (attributes : List Attribute) (isPlain : Bool) :
    Parser (Option Item) := do
  let _ ← word? "default"
  let _ ← word? "unsafe"
  word "impl"
  if ← ahead atParams then
    let _ ← g.genericParams
  let trees ← rest
  let isConst := Ahead.word "const" trees ||
    (Ahead.mark "?" trees && Ahead.word "const" (Ahead.next trees))
  if isConst then
    let _ ← mark? "?"
    word "const"
  let trees ← rest
  let negative := Ahead.mark "!" trees && !Ahead.group .brace (Ahead.next trees)
  if negative then mark "!"
  let first ← g.ty true
  let isFor ← word? "for"
  require (isFor || !negative)
  let selfTy ← if isFor then do pure (← g.ty true).ty else pure first.ty
  let implemented := if isFor then traitName? first.ty else none
  let _ ← g.whereClause
  let (inner, members) ← delimited .brace do
    let inner ← g.innerAttributes
    return (inner, ← repeatWhile (fun trees => !trees.isEmpty) g.implMember)
  if !isPlain || isConst || (isFor && implemented.isNone) then
    return none
  else
    return some (.impl ⟨attributes ++ inner, selfTy, implemented, members.filterMap id⟩)

/-! ### Modules and imports -/

def moduleItem (g : Grammar) : Parser Item := do
  let _ ← word? "unsafe"
  word "mod"
  let found ← if ← ahead (Ahead.word "try") then anyWord else name
  if ← mark? ";" then
    return .other
  else
    let items ← delimited .brace do
      let _ ← g.innerAttributes
      repeatWhile (fun trees => !trees.isEmpty) g.item
    return .module found.text items

/-- The tree of an import; says whether a tree inside braces starts with `::`. Where `allowGlobal`
holds, one may, as long as no other tree around it does and no name stands before it. -/
def useTree : Nat → Bool → Parser Bool
  | 0, _ => failure
  | budget + 1, allowGlobal => do
    let trees ← rest
    if ← mark? "*" then return false
    if Ahead.group .brace trees then
      let inside ← delimited .brace <| commaList do
        let isGlobal ← if allowGlobal then mark? "::" else pure false
        let deeper ← useTree budget (allowGlobal && !isGlobal)
        return isGlobal || deeper
      return inside.any id
    require (Ahead.name trees || Ahead.word "self" trees || Ahead.word "super" trees ||
      Ahead.word "crate" trees || Ahead.word "try" trees)
    let _ ← anyWord
    if ← mark? "::" then
      useTree budget false
    else
      if ← word? "as" then
        if !(← word? "_") then
          let _ ← name
      return false

/-- An import; one with `::` inside braces is not read on. -/
def useItem : Parser (Option Item) := do
  word "use"
  let isGlobal ← mark? "::"
  let globalInside ← useTree (TokenTree.listSize (← rest) + 1) !isGlobal
  mark ";"
  return if globalInside then none else some .other

def libraryItem : Parser Item := do
  word "extern"
  word "crate"
  if !(← word? "self") then
    let _ ← name
  if ← word? "as" then
    if !(← word? "_") then
      let _ ← name
  mark ";"
  return .other

/-! ### Foreign declarations -/

/-- A function of another language; says whether it has no body. -/
def foreignFunction (g : Grammar) : Parser Bool := do
  let _ ← g.signature true
  if ← ahead (Ahead.group .brace) then
    let _ ← g.fnBody
    return false
  else
    mark ";"
    return true

def atForeignStatic (trees : List TokenTree) : Bool :=
  Ahead.word "static" trees ||
    ((Ahead.word "unsafe" trees || Ahead.word "safe" trees) &&
      Ahead.word "static" (Ahead.next trees))

/-- A variable of another language; says whether no word stands before it and it has no value. -/
def foreignStatic (g : Grammar) : Parser Bool := do
  let isUnsafe ← word? "unsafe"
  let isSafe ← if isUnsafe then pure false else word? "safe"
  word "static"
  let _ ← word? "mut"
  let _ ← name
  mark ":"
  let _ ← g.ty true
  let hasValue ← mark? "="
  if hasValue then
    let _ ← g.expr true
  mark ";"
  return !isUnsafe && !isSafe && !hasValue

/-- A declaration of another language. One that is safe or has a value is kept as it stands in the
source. -/
def foreignMember (g : Grammar) : Parser Unit := do
  let before ← get
  let _ ← g.outerAttributes
  let vis ← visibility
  let trees ← rest
  if let some qualifiers ← signatureAhead true then
    let bodiless ← g.foreignFunction
    if qualifiers.isSafe || !bodiless then keepSource before
  else if atForeignStatic trees then
    if !(← g.foreignStatic) then keepSource before
  else if Ahead.word "type" trees then
    let form ← g.typeAlias .either
    if form.bounded || form.defined then keepSource before
  else
    require (vis = .inherited && atMacroItem trees)
    macroItem false

def foreignItem (g : Grammar) : Parser Item := do
  let _ ← word? "unsafe"
  require (← convention?)
  let _ ← delimited .brace do
    let _ ← g.innerAttributes
    repeatWhile (fun trees => !trees.isEmpty) g.foreignMember
  return .other

def macroDeclaration : Parser (Option Item) := do
  word "macro"
  let _ ← name
  if ← ahead (Ahead.group .paren) then
    let _ ← anyGroup
  let (delimiter, _) ← anyGroup
  require (delimiter = .brace)
  return none

/-! ### Declarations -/

def functionItem (g : Grammar) (attributes : List Attribute) (vis : Visibility) :
    Parser (Option Item) := do
  let signature ← g.signature false
  if ← mark? ";" then return none
  let (inner, stmts) ← g.fnBody
  return some (.function ⟨attributes ++ inner, vis = .isPublic, signature, some stmts⟩)

def itemRest (g : Grammar) (attributes : List Attribute) : Parser (Option Item) := do
  let vis ← visibility
  let trees ← rest
  let second := Ahead.next trees
  let word (text : String) := Ahead.word text trees
  let word2 (text : String) := Ahead.word text second
  if ← atSignature then
    g.functionItem attributes vis
  else if word "extern" then
    if word2 "crate" then
      some <$> libraryItem
    else
      require (vis = .inherited)
      some <$> g.foreignItem
  else if word "use" then
    useItem
  else if word "static" then
    g.staticItem
  else if word "const" then
    g.constItem
  else if word "unsafe" then
    if word2 "trait" || word2 "auto" then some <$> g.traitItem
    else if word2 "impl" then g.implItem attributes (vis = .inherited)
    else if word2 "extern" then
      require (vis = .inherited)
      some <$> g.foreignItem
    else some <$> g.moduleItem
  else if word "mod" then
    some <$> g.moduleItem
  else if word "type" then
    let form ← g.typeAlias .before
    return if form.defined && !form.bounded then some .other else none
  else if word "struct" then
    some <$> g.structItem attributes
  else if word "enum" then
    some <$> g.enumItem attributes
  else if word "union" && Ahead.name second then
    some <$> g.unionItem
  else if word "trait" || (word "auto" && word2 "trait") then
    some <$> g.traitItem
  else if word "impl" || (word "default" && !Ahead.mark "!" second) then
    g.implItem attributes (vis = .inherited)
  else if word "macro" then
    macroDeclaration
  else
    require (vis = .inherited && atMacroItem trees)
    macroItem true
    return some .other

/-- A declaration. One that is not read on is kept as it stands in the source. -/
def itemPhrase (g : Grammar) : Parser Item := do
  let before ← get
  let attributes ← g.outerAttributes
  elseSource before .other (g.itemRest attributes)

def fileItems (g : Grammar) : Parser (List Item) := do
  let _ ← g.innerAttributes
  repeatWhile (fun trees => !trees.isEmpty) g.item

end Grammar

end EndpointInference.Syntax
