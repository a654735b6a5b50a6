/-!
Route templates: how the path of a handler is joined to the path of its controller, and the names
of the variables in a template. Variables are written `{name}`, perhaps with a star before the name
and a question mark, a constraint or a default behind it, or as a whole segment `:name`.
-/

namespace EndpointInference.Route

def withoutEndSlashes (text : List Char) : List Char :=
  (text.reverse.dropWhile (· == '/')).reverse

def joinChars (base path : List Char) : List Char :=
  match withoutEndSlashes base, path with
  | [], [] => ['/']
  | [], path => path
  | base, [] => base
  | base, ['/'] => base
  | base, '/' :: rest => base ++ '/' :: rest
  | base, path => base ++ '/' :: path

def join (base path : String) : String :=
  String.ofList (joinChars base.toList path.toList)

/-- The texts between braces, in order; `opened` is what was read behind an open one, in reverse.
A brace that is not closed is left out. -/
def placeholders : Option (List Char) → List Char → List (List Char)
  | none, c :: rest => placeholders (if c == '\x7b' then some [] else none) rest
  | some opened, c :: rest =>
    if c == '\x7d' then opened.reverse :: placeholders none rest
    else placeholders (some (c :: opened)) rest
  | _, [] => []

/-- The name in a placeholder, before its constraint or default. -/
def placeholderName (inner : List Char) : List Char :=
  inner.takeWhile fun c => c != ':' && c != '='

def trimName (name : List Char) : List Char :=
  ((name.dropWhile (· == '*')).reverse.dropWhile (· == '?')).reverse

def segmentNames (segment : List Char) : List (List Char) :=
  match segment with
  | ':' :: name => [trimName name]
  | segment => (placeholders none segment).map fun inner => trimName (placeholderName inner)

/-- The names in a template, each once, in the order of their first use. -/
def variableChars (route : List Char) : List (List Char) :=
  (((route.splitOn '/').flatMap segmentNames).filter (· != [])).eraseDups

def variableNames (route : String) : List String :=
  (variableChars route.toList).map String.ofList

end EndpointInference.Route
