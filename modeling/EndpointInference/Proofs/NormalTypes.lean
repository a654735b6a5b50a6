import EndpointInference.Proofs.Naming
import Mathlib.Logic.Relation

/-!
# References to types are in normal form

A pointer stands for what it points to, and a plain result with the error type for the result of the
service. Arguments are lowered before the type around them, so what an inner type becomes can decide
about an outer one. `lower_isNormal`: in the end no part of a reference is left that could be
shortened further, at whatever depth.

A type is read through the references of its arguments alone (`lower_fill`): what lowers alike
lowers alike in every `TyContext`. So pointers, references and parentheses may be put around any
part of a type, as often as one likes (`lowering_transparent`).
-/

namespace EndpointInference

open EndpointInference.Syntax

/-- The result of the service is not named like a pointer. -/
def WellKnown.KeepsResult (known : WellKnown) : Prop :=
  TypeRef.lastSegment known.resultType ∉ transparentNames

namespace TypeRef

inductive Subterm : TypeRef → TypeRef → Prop
  | self {ty} : Subterm ty ty
  | arg {part arg ty} : arg ∈ ty.args → Subterm part arg → Subterm part ty

/-- Neither a pointer to something nor a plain result with the error type. -/
def Reduced (known : WellKnown) (ty : TypeRef) : Prop :=
  (∀ inner, ty.args = [inner] → ty.name ∉ transparentNames) ∧
  ∀ payload error, ty.args = [payload, error] → ty.is "Result" = true →
    error.is known.errorType = false

def IsNormal (known : WellKnown) (ty : TypeRef) : Prop :=
  ∀ part, Subterm part ty → part.Reduced known

section
variable {known : WellKnown}

theorem isNormal_of_args {ty : TypeRef} (h : ty.Reduced known)
    (ha : ∀ arg ∈ ty.args, arg.IsNormal known) : ty.IsNormal known := by
  intro part hp
  cases hp with
  | self => exact h
  | arg hm hs => exact ha _ hm part hs

theorem isNormal_of_name {ty : TypeRef} (hn : ty.name ∉ "Result" :: transparentNames)
    (ha : ∀ arg ∈ ty.args, arg.IsNormal known) : ty.IsNormal known := by
  obtain ⟨hresult, hpointer⟩ := List.ne_and_not_mem_of_not_mem_cons hn
  refine isNormal_of_args ⟨fun _ _ => hpointer, fun _ _ _ hs => ?_⟩ ha
  exact absurd (beq_iff_eq.mp hs) hresult

theorem isNormal_named (path : String) : (named path).IsNormal known :=
  isNormal_of_args ⟨nofun, nofun⟩ nofun

/-- A type built from normal ones is shortened at its head, and once is enough. -/
theorem isNormal_normal (hr : known.KeepsResult) (path : String) {args : List TypeRef}
    (ha : ∀ arg ∈ args, arg.IsNormal known) : (TypeRef.normal known path args).IsNormal known := by
  match args with
  | [] => exact isNormal_of_args ⟨nofun, nofun⟩ ha
  | [inner] =>
    simp only [TypeRef.normal]
    split
    · exact ha inner List.mem_cons_self
    · next hn => exact isNormal_of_args ⟨fun _ _ => by simpa using hn, nofun⟩ ha
  | [payload, error] =>
    simp only [TypeRef.normal]
    split
    · refine isNormal_of_args ⟨fun _ _ => hr, nofun⟩ fun arg hm => ?_
      rw [List.mem_singleton.mp hm]
      exact ha payload List.mem_cons_self
    · next hn =>
      refine isNormal_of_args ⟨nofun, fun first second he hs => ?_⟩ ha
      obtain rfl : error = second := by simp_all
      simpa [hs] using hn
  | _ :: _ :: _ :: _ => exact isNormal_of_args ⟨nofun, nofun⟩ ha

end

end TypeRef

namespace Lowering

section
variable {known : WellKnown}

mutual
theorem lower_isNormal (hr : known.KeepsResult) (ty : Ty) : (lower known ty).IsNormal known := by
  match ty with
  | .path segments => exact lowerPath_isNormal hr "" segments
  | .reference inner => exact lower_isNormal hr inner
  | .paren inner => exact lower_isNormal hr inner
  | .tuple [] => exact TypeRef.isNormal_named _
  | .tuple (first :: rest) =>
    have hn : TypeRef.lastSegment "Tuple" ∉ "Result" :: transparentNames := by decide
    exact TypeRef.isNormal_of_name hn
      (List.forall_mem_cons.mpr ⟨lower_isNormal hr first, lowerList_isNormal hr rest⟩)
  | .slice element =>
    have hn : TypeRef.lastSegment "Slice" ∉ "Result" :: transparentNames := by decide
    exact TypeRef.isNormal_of_name hn (List.forall_mem_singleton.mpr (lower_isNormal hr element))
  | .array element =>
    have hn : TypeRef.lastSegment "Array" ∉ "Result" :: transparentNames := by decide
    exact TypeRef.isNormal_of_name hn (List.forall_mem_singleton.mpr (lower_isNormal hr element))
  | .bounds bounds written =>
    rw [lower]
    cases hb : lowerFirst? known bounds with
    | none => exact TypeRef.isNormal_named _
    | some ty => exact lowerFirst?_isNormal hr bounds ty hb
  | .other written => exact TypeRef.isNormal_named _

theorem lowerList_isNormal (hr : known.KeepsResult) (tys : List Ty) :
    ∀ ty ∈ lowerList known tys, ty.IsNormal known := by
  match tys with
  | [] => exact fun _ h => absurd h List.not_mem_nil
  | ty :: rest => exact List.forall_mem_cons.mpr ⟨lower_isNormal hr ty, lowerList_isNormal hr rest⟩

theorem lowerPath_isNormal (hr : known.KeepsResult) (before : String) (segments : List Segment) :
    (lowerPath known before segments).IsNormal known := by
  match segments with
  | [] => exact TypeRef.isNormal_normal hr before fun _ h => absurd h List.not_mem_nil
  | [.mk name args] =>
    exact TypeRef.isNormal_normal hr (before ++ name) (lowerArgs_isNormal hr args)
  | .mk name _ :: next :: rest =>
    exact lowerPath_isNormal hr (before ++ name ++ "::") (next :: rest)

theorem lowerArgs_isNormal (hr : known.KeepsResult) (args : List GenericArg) :
    ∀ ty ∈ lowerArgs known args, ty.IsNormal known := by
  match args with
  | [] => exact fun _ h => absurd h List.not_mem_nil
  | .ty ty :: rest =>
    exact List.forall_mem_cons.mpr ⟨lower_isNormal hr ty, lowerArgs_isNormal hr rest⟩
  | .assoc ty :: rest =>
    exact List.forall_mem_cons.mpr ⟨lower_isNormal hr ty, lowerArgs_isNormal hr rest⟩
  | .other :: rest => exact lowerArgs_isNormal hr rest

theorem lowerFirst?_isNormal (hr : known.KeepsResult) (bounds : List Syntax.Bound) :
    ∀ ty, lowerFirst? known bounds = some ty → ty.IsNormal known := by
  match bounds with
  | [] => exact nofun
  | .path segments :: _ =>
    intro ty h
    obtain rfl := Option.some.inj h
    exact lowerPath_isNormal hr "" segments
  | .other :: rest => exact lowerFirst?_isNormal hr rest
end

-- ---------------------------------------------------------------------------
-- Types with a hole
-- ---------------------------------------------------------------------------

theorem lowerList_eq_map (tys : List Ty) : lowerList known tys = tys.map (lower known) := by
  induction tys with
  | nil => rfl
  | cons ty rest ih => rw [List.map_cons, ← ih]; rfl

theorem lowerArgs_append (first second : List GenericArg) :
    lowerArgs known (first ++ second) = lowerArgs known first ++ lowerArgs known second := by
  induction first with
  | nil => rfl
  | cons arg rest ih =>
    cases arg with
    | ty ty => exact congrArg (lower known ty :: ·) ih
    | assoc ty => exact congrArg (lower known ty :: ·) ih
    | other => exact ih

theorem lowerFirst?_append (first second : List Syntax.Bound) :
    lowerFirst? known (first ++ second) =
      (lowerFirst? known first).or (lowerFirst? known second) := by
  induction first with
  | nil => rfl
  | cons bound rest ih =>
    cases bound with
    | path segments => rfl
    | other => exact ih

theorem lowerPath_cons (before name : String) (args : List GenericArg) {rest : List Segment}
    (h : rest ≠ []) :
    lowerPath known before (.mk name args :: rest) =
      lowerPath known (before ++ name ++ "::") rest := by
  cases rest with
  | nil => exact absurd rfl h
  | cons next rest => rfl

theorem lowerPath_concat (before : String) (qualifier : List Segment) (name : String)
    (args : List GenericArg) :
    lowerPath known before (qualifier ++ [.mk name args]) =
      .normal known (before ++ qualify (qualifier.map Segment.name) name)
        (lowerArgs known args) := by
  induction qualifier generalizing before with
  | nil => rfl
  | cons segment rest ih =>
    obtain ⟨outer, outerArgs⟩ := segment
    rw [List.cons_append, lowerPath_cons _ _ _ (by simp), ih, List.map_cons, Segment.name, qualify]
    simp only [String.append_assoc]

theorem lowerPath_congr (before name : String) {args args' : List GenericArg}
    (h : lowerArgs known args = lowerArgs known args') (outer inner : List Segment) :
    lowerPath known before (outer ++ .mk name args :: inner) =
      lowerPath known before (outer ++ .mk name args' :: inner) := by
  rcases List.eq_nil_or_concat' inner with rfl | ⟨init, ⟨last, lastArgs⟩, rfl⟩
  · rw [lowerPath_concat, lowerPath_concat, h]
  · have hsplit (args : List GenericArg) : outer ++ .mk name args :: (init ++ [.mk last lastArgs]) =
        (outer ++ .mk name args :: init) ++ [.mk last lastArgs] := by simp
    rw [hsplit, hsplit, lowerPath_concat, lowerPath_concat]
    simp [Segment.name]

end

end Lowering

/-- A path with a place for a type among the arguments of one of its segments. -/
structure ArgumentPlace where
  outer : List Segment
  name : String
  before : List GenericArg
  isAssoc : Bool
  after : List GenericArg
  inner : List Segment

def ArgumentPlace.fill (place : ArgumentPlace) (ty : Ty) : List Segment :=
  place.outer ++
    .mk place.name (place.before ++ (if place.isAssoc then .assoc ty else .ty ty) :: place.after) ::
    place.inner

inductive TyContext
  | hole
  | reference (inner : TyContext)
  | paren (inner : TyContext)
  | slice (inner : TyContext)
  | array (inner : TyContext)
  | tuple (before : List Ty) (inner : TyContext) (after : List Ty)
  | path (place : ArgumentPlace) (inner : TyContext)
  /-- A type given by its traits, one of which has the hole; how all of it is written depends on
  what is put there. -/
  | bounds (before : List Syntax.Bound) (place : ArgumentPlace) (inner : TyContext)
      (after : List Syntax.Bound) (written : Ty → List TokenTree)

def TyContext.fill (ty : Ty) : TyContext → Ty
  | hole => ty
  | reference inner => .reference (inner.fill ty)
  | paren inner => .paren (inner.fill ty)
  | slice inner => .slice (inner.fill ty)
  | array inner => .array (inner.fill ty)
  | tuple before inner after => .tuple (before ++ inner.fill ty :: after)
  | path place inner => .path (place.fill (inner.fill ty))
  | bounds before place inner after written =>
    .bounds (before ++ .path (place.fill (inner.fill ty)) :: after) (written ty)

namespace Lowering

section
variable {known : WellKnown}

theorem lower_tuple {elements : List Ty} (h : elements ≠ []) :
    lower known (.tuple elements) = ⟨"Tuple", elements.map (lower known)⟩ := by
  cases elements with
  | nil => exact absurd rfl h
  | cons first rest => rw [List.map_cons, ← lowerList_eq_map]; rfl

theorem lowerPath_fill {ty ty' : Ty} (h : lower known ty = lower known ty')
    (place : ArgumentPlace) (before : String) :
    lowerPath known before (place.fill ty) = lowerPath known before (place.fill ty') := by
  apply lowerPath_congr
  rw [lowerArgs_append, lowerArgs_append]
  cases place.isAssoc with
  | true => exact congrArg (lowerArgs known place.before ++ · :: lowerArgs known place.after) h
  | false => exact congrArg (lowerArgs known place.before ++ · :: lowerArgs known place.after) h

theorem lower_fill {ty ty' : Ty} (h : lower known ty = lower known ty') (context : TyContext) :
    lower known (context.fill ty) = lower known (context.fill ty') := by
  induction context with
  | hole => exact h
  | reference inner ih => exact ih
  | paren inner ih => exact ih
  | slice inner ih => exact congrArg (fun element => TypeRef.mk "Slice" [element]) ih
  | array inner ih => exact congrArg (fun element => TypeRef.mk "Array" [element]) ih
  | tuple before inner after ih =>
    rw [TyContext.fill, TyContext.fill, lower_tuple (by simp), lower_tuple (by simp),
      List.map_append, List.map_append, List.map_cons, List.map_cons, ih]
  | path place inner ih => exact lowerPath_fill ih place ""
  | bounds before place inner after written ih =>
    -- one of the bounds is a trait, so what is written does not count
    rw [TyContext.fill, TyContext.fill, lower, lower, lowerFirst?_append, lowerFirst?_append,
      lowerFirst?, lowerFirst?, lowerPath_fill ih place ""]
    cases lowerFirst? known before <;> rfl

-- ---------------------------------------------------------------------------
-- What may be put around a type
-- ---------------------------------------------------------------------------

theorem beforeColons_append {cs tail : List Char} (h : ':' ∉ cs)
    (ht : tail = [] ∨ ∃ rest, tail = ':' :: ':' :: rest) :
    TypeRef.beforeColons (cs ++ tail) = cs := by
  induction cs with
  | nil => rcases ht with rfl | ⟨rest, rfl⟩ <;> rfl
  | cons c rest ih =>
    have hc : c ≠ ':' := List.ne_of_not_mem_cons h |>.symm
    rw [List.cons_append, TypeRef.beforeColons.eq_2 _ _ (by simp [hc]),
      ih (List.not_mem_of_not_mem_cons h)]

theorem exists_reverse_qualify (module : List String) (name : String) :
    ∃ tail, (qualify module name).toList.reverse = name.toList.reverse ++ tail ∧
      (tail = [] ∨ ∃ rest, tail = ':' :: ':' :: rest) := by
  induction module with
  | nil => exact ⟨[], by simp [qualify], .inl rfl⟩
  | cons outer rest ih =>
    obtain ⟨tail, he, ht⟩ := ih
    refine ⟨tail ++ ':' :: ':' :: outer.toList.reverse, ?_, .inr ?_⟩
    · rw [toList_qualify_cons]
      simp [he]
    · rcases ht with rfl | ⟨behind, rfl⟩
      · exact ⟨_, rfl⟩
      · exact ⟨_, rfl⟩

theorem lastSegment_qualify (module : List String) {name : String} (h : ':' ∉ name.toList) :
    TypeRef.lastSegment (qualify module name) = name := by
  obtain ⟨tail, he, ht⟩ := exists_reverse_qualify module name
  rw [TypeRef.lastSegment, he, beforeColons_append (by simpa using h) ht, List.reverse_reverse,
    String.ofList_toList]

/-- A type under another name: behind a reference, in parentheses, behind a pointer, or as the
result of the service where it is a plain result with the error type. -/
inductive Replaces (known : WellKnown) : Ty → Ty → Prop
  | reference {ty} : Replaces known ty (.reference ty)
  | paren {ty} : Replaces known ty (.paren ty)
  | pointer {ty name} (qualifier : List Segment) : name ∈ ["Arc", "Rc", "Box", "Pin"] →
      Replaces known ty (.path (qualifier ++ [.mk name [.ty ty]]))
  | result {payload error name} (qualifier own : List Segment) :
      (lower known error).is known.errorType = true →
      qualify (own.map Segment.name) name = known.resultType →
      Replaces known (.path (qualifier ++ [.mk "Result" [.ty payload, .ty error]]))
        (.path (own ++ [.mk name [.ty payload]]))

theorem normal_pointer {path : String} (h : TypeRef.lastSegment path ∈ transparentNames)
    (inner : TypeRef) : TypeRef.normal known path [inner] = inner :=
  if_pos (List.contains_iff_mem.mpr h)

theorem normal_single {path : String} (h : TypeRef.lastSegment path ∉ transparentNames)
    (inner : TypeRef) : TypeRef.normal known path [inner] = ⟨path, [inner]⟩ :=
  if_neg fun hc => h (List.contains_iff_mem.mp hc)

theorem normal_result {path : String} {error : TypeRef}
    (h : TypeRef.lastSegment path = "Result") (he : error.is known.errorType = true)
    (payload : TypeRef) :
    TypeRef.normal known path [payload, error] = ⟨known.resultType, [payload]⟩ :=
  if_pos (Bool.and_eq_true_iff.mpr ⟨beq_iff_eq.mpr h, he⟩)

theorem Replaces.lower_eq (hr : known.KeepsResult) {ty ty' : Ty} (h : Replaces known ty ty') :
    lower known ty = lower known ty' := by
  cases h with
  | reference => rfl
  | paren => rfl
  | @pointer _ name qualifier hn =>
    have hknown : ':' ∉ name.toList ∧ name ∈ transparentNames := by
      simp only [List.mem_cons, List.not_mem_nil, or_false] at hn
      rcases hn with rfl | rfl | rfl | rfl <;> decide
    have hlast := lastSegment_qualify (qualifier.map Segment.name) hknown.1
    rw [lower.eq_1, lowerPath_concat, String.empty_append, lowerArgs, lowerArgs,
      normal_pointer (hlast.symm ▸ hknown.2)]
  | @result payload error name qualifier own he hown =>
    have hlast : TypeRef.lastSegment (qualify (qualifier.map Segment.name) "Result") = "Result" :=
      lastSegment_qualify _ (by decide)
    rw [lower.eq_1, lower.eq_1, lowerPath_concat, lowerPath_concat, String.empty_append,
      String.empty_append, hown]
    exact (normal_result hlast he _).trans (normal_single hr _).symm

end

end Lowering

open Lowering in
/-- In a reference no part is left that is a pointer to something or a plain result with the error
type, provided that the result of the service is not named like a pointer. And it does not matter
how often any part of a type is put behind references, in parentheses or behind pointers, nor
whether a result is written out. -/
theorem lowering_transparent (known : WellKnown)
    (hr : TypeRef.lastSegment known.resultType ∉ transparentNames) :
    (∀ ty part, TypeRef.Subterm part (lower known ty) →
      ¬ (part.args.length = 1 ∧ part.name ∈ transparentNames) ∧
      ¬ ∃ payload error, part.args = [payload, error] ∧ part.is "Result" = true ∧
        error.is known.errorType = true) ∧
    ∀ (context : TyContext) ty ty', Relation.ReflTransGen (Replaces known) ty ty' →
      lower known (context.fill ty) = lower known (context.fill ty') := by
  refine ⟨fun ty part hp => ?_, fun context ty ty' h => ?_⟩
  · obtain ⟨hpointer, hresult⟩ := lower_isNormal hr ty part hp
    constructor
    · rintro ⟨hl, hn⟩
      obtain ⟨inner, ha⟩ := List.length_eq_one_iff.mp hl
      exact hpointer inner ha hn
    · rintro ⟨payload, error, ha, hs, he⟩
      rw [hresult payload error ha hs] at he
      cases he
  · have hty : lower known ty = lower known ty' := by
      induction h with
      | refl => rfl
      | tail _ hstep ih => exact ih.trans (hstep.lower_eq hr)
    exact lower_fill hty context

/-- An argument decides about the type around it: `Result<User, Box<ApiError>>` is `ApiResult<User>`
as the output of a future, behind a reference and a pointer. -/
theorem lowering_transparent_future :
    let plain (name : String) (args : List GenericArg) : Ty := .path [.mk name args]
    let user := plain "User" []
    let error := plain "Box" [.ty (plain "ApiError" [])]
    let future : TyContext := .bounds [] ⟨[], "Future", [], true, [], []⟩ .hole [] fun _ => []
    TypeRef.lastSegment ({} : WellKnown).resultType ∉ transparentNames ∧
    Lowering.lower {} (future.fill (plain "Result" [.ty user, .ty error])) =
      Lowering.lower {}
        (future.fill (plain "Pin" [.ty (.reference (plain "ApiResult" [.ty user]))])) := by
  intro plain user error future
  have hr : TypeRef.lastSegment ({} : WellKnown).resultType ∉ transparentNames := by decide
  have he : (Lowering.lower {} error).is "ApiError" = true := by decide
  refine ⟨hr, (lowering_transparent {} hr).2 future _ _ ?_⟩
  exact .head (.result [] [] he rfl) (.head .reference (.single (.pointer [] (by decide))))

end EndpointInference
