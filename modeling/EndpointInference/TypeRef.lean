/-!
References to types: a path and its arguments. Two references are the same type when they are equal
in structure. Types are looked up by the last segment of their path.
-/

namespace EndpointInference

structure TypeRef where
  path : String
  args : List TypeRef
deriving Repr, Inhabited

structure ElementId where
  text : String
deriving DecidableEq, Repr, Inhabited

namespace TypeRef

mutual
def decEq : (a b : TypeRef) → Decidable (a = b)
  | ⟨path, args⟩, ⟨path', args'⟩ =>
    if hp : path = path' then
      match decEqList args args' with
      | isTrue ha => isTrue (by rw [hp, ha])
      | isFalse ha => isFalse fun h => ha (TypeRef.mk.inj h).2
    else isFalse fun h => hp (TypeRef.mk.inj h).1

def decEqList : (as bs : List TypeRef) → Decidable (as = bs)
  | [], [] => isTrue rfl
  | [], _ :: _ => isFalse nofun
  | _ :: _, [] => isFalse nofun
  | a :: as, b :: bs =>
    match decEq a b with
    | isTrue hab =>
      match decEqList as bs with
      | isTrue hs => isTrue (by rw [hab, hs])
      | isFalse hs => isFalse fun h => hs (List.cons.inj h).2
    | isFalse hab => isFalse fun h => hab (List.cons.inj h).1
end

instance : DecidableEq TypeRef := decEq

def named (path : String) : TypeRef :=
  ⟨path, []⟩

def unit : TypeRef :=
  named "()"

def isUnit (ty : TypeRef) : Bool :=
  ty.path == "()" && ty.args.isEmpty

def beforeColons : List Char → List Char
  | ':' :: ':' :: _ => []
  | c :: rest => c :: beforeColons rest
  | [] => []

def lastSegment (path : String) : String :=
  String.ofList (beforeColons path.toList.reverse).reverse

def name (ty : TypeRef) : String :=
  lastSegment ty.path

def is (ty : TypeRef) (name : String) : Bool :=
  ty.name == name

def firstArg? (ty : TypeRef) : Option TypeRef :=
  ty.args.head?

mutual
/-- The written form, `Map<String, User>`. -/
def text : TypeRef → String
  | ⟨path, []⟩ => path
  | ⟨path, arg :: args⟩ => path ++ "<" ++ listText (arg :: args) ++ ">"

def listText : List TypeRef → String
  | [] => ""
  | [ty] => ty.text
  | ty :: next :: rest => ty.text ++ ", " ++ listText (next :: rest)
end

mutual
def compare : TypeRef → TypeRef → Ordering
  | ⟨path, args⟩, ⟨path', args'⟩ => (Ord.compare path path').then (compareList args args')

def compareList : List TypeRef → List TypeRef → Ordering
  | [], [] => .eq
  | [], _ :: _ => .lt
  | _ :: _, [] => .gt
  | ty :: rest, ty' :: rest' => (ty.compare ty').then (compareList rest rest')
end

end TypeRef

namespace ElementId

def function (name : String) : ElementId :=
  ⟨"fn:" ++ name⟩

def method (owner name : String) : ElementId :=
  ⟨"method:" ++ owner ++ "::" ++ name⟩

def value (name : String) : ElementId :=
  ⟨"const:" ++ name⟩

end ElementId

end EndpointInference
