import EndpointInference.Syntax.Grammar.Path

/-!
Patterns.
-/

namespace EndpointInference.Syntax

namespace Grammar

open EndpointInference.Syntax.Parser

/-- A pattern but for the tokens it is written with. -/
abbrev PatternShape := List TokenTree → Pattern

/-- Takes `..=`, `..` or the obsolete `...`, which is written out as `..=`; says whether the end is
included. -/
def rangeMark (allowObsolete : Bool) : Parser Bool := do
  if ← ahead (Ahead.mark "...") then
    require allowObsolete
    let start ← position
    replace 3 (joined start ['.', '.', '='])
    return true
  else if ← mark? "..=" then
    return true
  else
    mark ".."
    return false

/-- The end of a range, if there is one: a literal, a path or a constant block. -/
def rangeBound (g : Grammar) : Parser Bool := do
  let trees ← rest
  if trees.isEmpty || Ahead.mark "|" trees || Ahead.mark "=" trees ||
      (Ahead.mark ":" trees && !Ahead.mark "::" trees) || Ahead.mark "," trees ||
      Ahead.mark ";" trees || Ahead.word "if" trees then
    return false
  else if Ahead.literal trees then
    let _ ← literal
    return true
  else if Ahead.pathStart trees then
    let _ ← g.qualifiedPath true
    return true
  else
    word "const"
    let _ ← g.attributedBlock
    return true

def rangePattern (g : Grammar) : Parser PatternShape := do
  let closed ← rangeMark true
  let ends ← g.rangeBound
  require (ends || !closed)
  return .range ends

def openRangePattern (g : Grammar) : Parser PatternShape := do
  let closed ← rangeMark false
  if ← g.rangeBound then
    return .range false
  else
    require !closed
    return fun _ => .rest

def fieldPattern (g : Grammar) : Parser Unit := do
  let boxed ← word? "box"
  let byRef ← word? "ref"
  let mutable ← word? "mut"
  if boxed || byRef || mutable then
    let _ ← name
  else
    match ← memberName with
    | .named _ =>
      if ← mark? ":" then
        let _ ← g.patterns
    | .index _ =>
      mark ":"
      let _ ← g.patterns

def fieldPatterns (g : Grammar) : Nat → Parser Unit
  | 0 => failure
  | budget + 1 => do
    if ← isEmpty then return
    let _ ← g.outerAttributes
    if ← mark? ".." then return
    g.fieldPattern
    if ← isEmpty then return
    mark ","
    g.fieldPatterns budget

def pathPattern (g : Grammar) : Parser PatternShape := do
  let found ← g.qualifiedPath true
  let trees ← rest
  if found.selfParts.isNone && atBang trees && found.path.isPlain then
    let _ ← g.macroCall found.path.names
    return .other
  else if Ahead.group .brace trees then
    delimited .brace (do g.fieldPatterns ((← rest).length + 1))
    return .other
  else if Ahead.group .paren trees then
    let elements ← delimited .paren (commaList g.patterns)
    return .tupleStruct elements
  else if Ahead.mark ".." trees then
    g.rangePattern
  else
    return .other

def bindingPattern (g : Grammar) : Parser PatternShape := do
  let _ ← word? "ref"
  let _ ← word? "mut"
  let found ← if ← ahead (Ahead.word "self") then anyWord else name
  if ← mark? "@" then
    let _ ← g.pattern
  return fun _ => .binding found.text

def isRest : Pattern → Bool
  | .rest => true
  | _ => false

/-- Patterns in parentheses; a lone one without a comma is in parentheses only. -/
def parenPattern (g : Grammar) : Parser PatternShape := do
  let (elements, trailing) ←
    delimited .paren (do separatedUpTo ((← rest).length + 1) "," List.isEmpty g.patterns)
  match elements, trailing with
  | [element], false => return if isRest element then .other else fun _ => .paren element
  | _, _ => return .other

def isHalfOpen : Pattern → Bool
  | .range bounded _ => !bounded
  | _ => false

def slicePattern (g : Grammar) : Parser PatternShape := do
  let elements ← delimited .bracket (commaList g.patterns)
  require !(elements.any isHalfOpen)
  return .other

def literalPattern (g : Grammar) : Parser PatternShape := do
  let starts ← g.rangeBound
  require starts
  if ← ahead (Ahead.mark "..") then g.rangePattern else return .other

def patternShape (g : Grammar) : Parser PatternShape := do
  let trees ← rest
  let second := Ahead.next trees
  if (Ahead.name trees &&
        (Ahead.mark "::" second || Ahead.mark "!" second || Ahead.group .brace second ||
          Ahead.group .paren second || Ahead.mark ".." second)) ||
      (Ahead.word "self" trees && Ahead.mark "::" second) || Ahead.mark "::" trees ||
      Ahead.mark "<" trees || Ahead.word "Self" trees || Ahead.word "super" trees ||
      Ahead.word "crate" trees then
    g.pathPattern
  else if Ahead.word "_" trees then
    word "_"
    return fun _ => .wild
  else if Ahead.mark "-" trees || Ahead.literal trees || Ahead.word "const" trees then
    g.literalPattern
  else if Ahead.word "ref" trees || Ahead.word "mut" trees || Ahead.word "self" trees ||
      Ahead.name trees then
    g.bindingPattern
  else if ← mark? "&" then
    let _ ← word? "mut"
    let inner ← g.pattern
    return fun _ => .reference inner
  else if Ahead.group .paren trees then
    g.parenPattern
  else if Ahead.group .bracket trees then
    g.slicePattern
  else if Ahead.mark ".." trees && !Ahead.mark "..." trees then
    g.openRangePattern
  else
    failure

/-- A pattern without alternatives; one for a box is kept as it stands in the source. -/
def patternPhrase (g : Grammar) : Parser Pattern := do
  if ← ahead (Ahead.word "box") then
    let (_, trees) ← verbatim (do word "box"; g.pattern)
    return .other trees
  else
    let (shape, trees) ← written g.patternShape
    return shape trees

def patternsPhrase (g : Grammar) : Parser Pattern := do
  let atBar (trees : List TokenTree) : Bool :=
    Ahead.mark "|" trees && !Ahead.mark "||" trees && !Ahead.mark "|=" trees
  let ((first, several), trees) ← written do
    let leading ← mark? "|"
    let first ← g.pattern
    let others ← repeatWhile atBar (do mark "|"; g.pattern)
    return (first, leading || !others.isEmpty)
  return if several then .other trees else first

end Grammar

end EndpointInference.Syntax
