import EndpointInference.Proofs.ArgumentLists

/-!
# Which declared errors count

A declaration of errors names kinds and custom codes. What is malformed inside the parentheses of a
custom code is left out, and a path that names no kind is passed over; any other malformed argument
ends the reading, and all that stands behind it is lost. `declared_errors_exact`: what is declared
are the kinds and codes of the arguments that are `Reached`, those with nothing but readable
arguments before them.
-/

namespace EndpointInference.Annotations

open EndpointInference.Syntax

inductive IsPath : List TokenTree → Prop
  | name {text start} : IsPath [.ident text start]
  | step {text start first joint second rest} : IsPath rest →
      IsPath (.ident text start :: .punct ':' true first :: .punct ':' joint second :: rest)

/-- An argument behind which the reading goes on: a path other than the lone name `custom`, or this
name with anything in parentheses. -/
inductive Readable : List TokenTree → Prop
  | path {arg} : IsPath arg → (∀ start, arg ≠ [.ident "custom" start]) → Readable arg
  | global {first joint second arg} : IsPath arg →
      Readable (.punct ':' true first :: .punct ':' joint second :: arg)
  | custom {start inner place} : Readable [.ident "custom" start, .group .paren inner place]

def Reached (args : List (List TokenTree)) (arg : List TokenTree) : Prop :=
  ∃ before after, args = before ++ arg :: after ∧ ∀ other ∈ before, Readable other

def kindOf? : List TokenTree → Option ErrorKind
  | .ident name _ :: rest => if Ahead.mark "::" rest then none else ErrorKind.ofMember? name
  | _ => none

def codeOf? : List TokenTree → Option CustomErrorCode
  | .ident "custom" _ :: .group .paren inner _ :: _ => customCode? inner
  | _ => none

section
variable {args rest : List (List TokenTree)} {arg other : List TokenTree}

theorem reached_cons_iff :
    Reached (other :: rest) arg ↔ arg = other ∨ Readable other ∧ Reached rest arg := by
  constructor
  · rintro ⟨before, after, he, hb⟩
    cases before with
    | nil => exact .inl (List.cons.inj he).1.symm
    | cons first before =>
      obtain ⟨rfl, rfl⟩ := List.cons.inj he
      exact .inr ⟨hb _ List.mem_cons_self,
        before, after, rfl, fun x hx => hb x (List.mem_cons_of_mem _ hx)⟩
  · rintro (rfl | ⟨ho, before, after, rfl, hb⟩)
    · exact ⟨[], rest, rfl, fun x hx => absurd hx List.not_mem_nil⟩
    · exact ⟨other :: before, after, rfl, List.forall_mem_cons.mpr ⟨ho, hb⟩⟩

theorem not_reached_nil : ¬ Reached [] arg := by
  rintro ⟨before, after, he, -⟩
  simp at he

end

-- ---------------------------------------------------------------------------
-- The reader
-- ---------------------------------------------------------------------------

def addKind (declared : DeclaredErrors) (kind? : Option ErrorKind) : DeclaredErrors :=
  { declared with
    kinds := kind?.elim declared.kinds fun kind =>
      if declared.kinds.contains kind then declared.kinds else declared.kinds ++ [kind] }

section
variable {state : DeclaredErrors × Log} {head : ArgumentHead} {name : String}

theorem errorReader_path (h : head.ident? = none) :
    errorReader state head = (state, some head.rest) := by
  unfold errorReader
  rw [h]

theorem errorReader_name (h : head.ident? = some name) (hn : name ≠ "custom") :
    errorReader state head =
      ((addKind state.1 (ErrorKind.ofMember? name), state.2), some head.rest) := by
  obtain ⟨declared, log⟩ := state
  simp only [errorReader, h]
  split
  · next hk =>
    rw [hk]
    simp only [addKind, Option.elim_some]
    split <;> rfl
  · next hk => rw [hk]; rfl

theorem errorReader_custom {inner rest : List TokenTree} {place : Position}
    (h : head.ident? = some "custom") (hr : head.rest = .group .paren inner place :: rest) :
    errorReader state head =
      (({ state.1 with custom := state.1.custom ++ (customCode? inner).toList },
        if (customCode? inner).isSome then state.2 else state.2 ++ [malformedCode]),
        some rest) := by
  simp only [errorReader, h, hr]
  cases customCode? inner with
  | none => rw [Option.toList_none, List.append_nil]; rfl
  | some code => rfl

theorem errorReader_lone (h : head.ident? = some "custom")
    (hr : ∀ inner place rest, head.rest ≠ .group .paren inner place :: rest) :
    errorReader state head = (state, none) := by
  simp only [errorReader, h]

end

inductive HeadKind (head : ArgumentHead) : Prop
  | path (h : head.ident? = none)
  | name {text} (h : head.ident? = some text) (hn : text ≠ "custom")
  | custom {inner place rest} (h : head.ident? = some "custom")
      (hr : head.rest = .group .paren inner place :: rest)
  | lone (h : head.ident? = some "custom")
      (hr : ∀ inner place rest, head.rest ≠ .group .paren inner place :: rest)

theorem headKind (head : ArgumentHead) : HeadKind head := by
  cases hi : head.ident? with
  | none => exact .path hi
  | some text =>
    by_cases hn : text = "custom"
    · subst hn
      by_cases hr : ∃ inner place rest, head.rest = .group .paren inner place :: rest
      · obtain ⟨inner, place, rest, hr⟩ := hr
        exact .custom hi hr
      · exact .lone hi fun inner place rest he => hr ⟨inner, place, rest, he⟩
    · exact .name hi hn

theorem errorReader_local : LocalReader errorReader where
  append := by
    intro state head tail ht
    have hsame : ArgumentHead.ident? { head with rest := head.rest ++ tail } = head.ident? := rfl
    cases headKind head with
    | path hi => rw [errorReader_path hi, errorReader_path (hsame.trans hi), Option.map_some]
    | name hi hn =>
      rw [errorReader_name hi hn, errorReader_name (hsame.trans hi) hn, Option.map_some]
    | custom hi hr =>
      rw [errorReader_custom hi hr,
        errorReader_custom (hsame.trans hi) (by rw [hr, List.cons_append]), Option.map_some]
    | lone hi hr =>
      rw [errorReader_lone hi hr, errorReader_lone (hsame.trans hi) ?_, Option.map_none]
      intro inner place rest he
      rcases hrest : head.rest with _ | ⟨tree, behind⟩
      · rcases ends_iff.mp ht with rfl | ⟨_, _, _, rfl⟩ <;> simp [hrest] at he
      · simp only [hrest, List.cons_append, List.cons.injEq] at he
        exact hr inner place behind (by rw [hrest, he.1])
  suffix := by
    intro state head rest h
    cases headKind head with
    | path hi =>
      rw [errorReader_path hi] at h
      exact Option.some.inj h ▸ List.suffix_rfl
    | name hi hn =>
      rw [errorReader_name hi hn] at h
      exact Option.some.inj h ▸ List.suffix_rfl
    | custom hi hr =>
      rw [errorReader_custom hi hr] at h
      rw [hr, ← Option.some.inj h]
      exact List.suffix_cons _ _
    | lone hi hr =>
      rw [errorReader_lone hi hr] at h
      cases h

-- ---------------------------------------------------------------------------
-- One argument
-- ---------------------------------------------------------------------------

theorem pathTail_isPath (budget : Nat) (rest : List TokenTree) (hb : rest.length < budget)
    (text : String) (start : Position) :
    (pathTail budget rest).any (·.2.isEmpty) = true ↔ IsPath (.ident text start :: rest) := by
  -- the name in front does not matter to what follows, but `IsPath` starts with one
  induction budget generalizing rest text start with
  | zero => omega
  | succ budget ih =>
    rw [pathTail]
    split
    · next hm =>
      obtain ⟨first, joint, second, rest, rfl⟩ := mark_iff.mp hm
      have hstep : IsPath (.ident text start :: .punct ':' true first ::
          .punct ':' joint second :: rest) ↔ IsPath rest :=
        ⟨fun h => by cases h; assumption, .step⟩
      rw [hstep]
      simp only [List.drop_succ_cons, List.drop_zero]
      cases rest with
      | nil => refine ⟨fun h => ?_, fun h => ?_⟩ <;> cases h
      | cons tree behind =>
        cases tree with
        | ident next place =>
          simp only [List.length_cons] at hb
          rw [← ih behind (by omega) next place]
          dsimp only
          cases pathTail budget behind <;> rfl
        | _ => refine ⟨fun h => ?_, fun h => ?_⟩ <;> cases h
    · next hm =>
      rw [Option.any_some, List.isEmpty_iff]
      refine ⟨?_, fun h => ?_⟩
      · rintro rfl
        exact .name
      · cases h with
        | name => rfl
        | step => exact absurd rfl hm

theorem pathTail_names_ne_nil {budget : Nat} {trees rest : List TokenTree} {names : List String}
    (hm : Ahead.mark "::" trees = true) (h : pathTail budget trees = some (names, rest)) :
    names ≠ [] := by
  cases budget with
  | zero => cases h
  | succ budget =>
    rw [pathTail, if_pos hm] at h
    split at h
    · obtain ⟨found, -, he⟩ := Option.bind_eq_some_iff.mp h
      rw [← (Prod.mk.inj (Option.some.inj he)).1]
      exact List.cons_ne_nil _ _
    · cases h

structure NamesNothing (arg : List TokenTree) : Prop where
  ident? : ∀ head, argumentHead? arg = some head → head.ident? = none
  readable : (argumentHead? arg).any (·.rest.isEmpty) = true ↔ Readable arg
  kindOf? : kindOf? arg = none
  codeOf? : codeOf? arg = none

theorem namesNothing_path {text : String} {start : Position} {rest : List TokenTree}
    (hm : Ahead.mark "::" rest = true) : NamesNothing (.ident text start :: rest) where
  ident? := by
    intro head h
    rw [argumentHead?_name] at h
    obtain ⟨⟨names, behind⟩, hp, rfl⟩ := Option.map_eq_some_iff.mp h
    obtain ⟨name, names, rfl⟩ := List.exists_cons_of_ne_nil (pathTail_names_ne_nil hm hp)
    rfl
  readable := by
    rw [argumentHead?_name, Option.any_map]
    refine (pathTail_isPath _ rest (Nat.lt_succ_self _) text start).trans ⟨fun h => ?_, fun h => ?_⟩
    · refine .path h fun place he => ?_
      rw [(List.cons.inj he).2] at hm
      cases hm
    · cases h with
      | path h _ => exact h
      | custom => cases hm
  kindOf? := if_pos hm
  codeOf? := by
    obtain ⟨first, joint, second, rest, rfl⟩ := mark_iff.mp hm
    simp [Annotations.codeOf?]

theorem namesNothing_global {first second start : Position} {joint : Bool} {text : String}
    {rest : List TokenTree} : NamesNothing
      (.punct ':' true first :: .punct ':' joint second :: .ident text start :: rest) where
  ident? := by
    intro head h
    rw [argumentHead?_global] at h
    obtain ⟨⟨names, behind⟩, -, rfl⟩ := Option.map_eq_some_iff.mp h
    cases names <;> rfl
  readable := by
    rw [argumentHead?_global, Option.any_map]
    refine (pathTail_isPath _ rest (Nat.lt_succ_self _) text start).trans ⟨.global, fun h => ?_⟩
    cases h with
    | path h _ => cases h
    | global h => exact h
  kindOf? := rfl
  codeOf? := rfl

theorem NoHead.namesNothing {arg : List TokenTree} (hn : NoHead arg) : NamesNothing arg where
  ident? := by
    intro head h
    rw [hn.argumentHead?] at h
    cases h
  readable := by
    rw [hn.argumentHead?]
    refine iff_of_false (by simp) fun h => ?_
    cases h with
    | path h _ => cases h <;> exact absurd rfl (hn.name _ _ _)
    | global h => cases h <;> exact absurd rfl (hn.global _ _ _ _ _ _)
    | custom => exact absurd rfl (hn.name _ _ _)
  kindOf? := by
    unfold Annotations.kindOf?
    split
    · exact absurd rfl (hn.name _ _ _)
    · rfl
  codeOf? := by
    unfold Annotations.codeOf?
    split
    · exact absurd rfl (hn.name _ _ _)
    · rfl

theorem lone_name_or_names_nothing (arg : List TokenTree) :
    (∃ text start rest, arg = .ident text start :: rest ∧ Ahead.mark "::" rest = false) ∨
      NamesNothing arg := by
  rcases head_cases arg with ⟨text, start, rest, rfl⟩ | ⟨_, _, _, _, _, _, rfl⟩ | hn
  · cases hm : Ahead.mark "::" rest with
    | false => exact .inl ⟨text, start, rest, rfl, hm⟩
    | true => exact .inr (namesNothing_path hm)
  · exact .inr namesNothing_global
  · exact .inr hn.namesNothing

def addArgument (declared : DeclaredErrors) (arg : List TokenTree) : DeclaredErrors :=
  { addKind declared (kindOf? arg) with custom := declared.custom ++ (codeOf? arg).toList }

theorem NamesNothing.readOne {arg : List TokenTree} (h : NamesNothing arg)
    (state : DeclaredErrors × Log) :
    readOne errorReader state arg = (state, (argumentHead? arg).any (·.rest.isEmpty)) := by
  unfold Annotations.readOne
  cases hh : argumentHead? arg with
  | none => rfl
  | some head => simp only [errorReader_path (h.ident? head hh), Option.any_some]

theorem readOne_lone {text : String} {start : Position} {rest : List TokenTree}
    (hm : Ahead.mark "::" rest = false) (state : DeclaredErrors × Log) :
    readOne errorReader state (.ident text start :: rest) =
      ((errorReader state ⟨[text], false, rest⟩).1,
        (errorReader state ⟨[text], false, rest⟩).2.any List.isEmpty) := by
  unfold readOne
  rw [argumentHead?_lone hm]

theorem not_ofMember?_custom : ErrorKind.ofMember? "custom" = none := by decide +kernel

theorem readable_lone {text : String} {start : Position} {rest : List TokenTree}
    (hm : Ahead.mark "::" rest = false) : Readable (.ident text start :: rest) ↔
      rest = [] ∧ text ≠ "custom" ∨
        text = "custom" ∧ ∃ inner place, rest = [.group .paren inner place] := by
  constructor
  · intro h
    cases h with
    | path h hc =>
      cases h with
      | name => exact .inl ⟨rfl, fun ht => hc start (by rw [ht])⟩
      | step => cases hm
    | custom => exact .inr ⟨rfl, _, _, rfl⟩
  · rintro (⟨rfl, ht⟩ | ⟨rfl, inner, place, rfl⟩)
    · exact .path .name fun place he => ht (TokenTree.ident.inj (List.cons.inj he).1).1
    · exact .custom

/-- One argument adds its kind and its code, and is read to its end if it is readable. -/
theorem readOne_errorReader (state : DeclaredErrors × Log) (arg : List TokenTree) :
    (readOne errorReader state arg).1.1 = addArgument state.1 arg ∧
      ((readOne errorReader state arg).2 = true ↔ Readable arg) := by
  rcases lone_name_or_names_nothing arg with ⟨text, start, rest, rfl, hm⟩ | hn
  · have hkind : kindOf? (.ident text start :: rest) = ErrorKind.ofMember? text :=
      if_neg (by simp [hm])
    rw [readOne_lone hm, readable_lone hm, addArgument, hkind]
    cases headKind ⟨[text], false, rest⟩ with
    | path hi => cases hi
    | name hi hn =>
      obtain rfl := Option.some.inj hi
      have hcode : codeOf? (.ident text start :: rest) = none := by
        unfold codeOf?
        split
        · next he => exact absurd (TokenTree.ident.inj (List.cons.inj he).1).1 hn
        · rfl
      rw [errorReader_name rfl hn, hcode]
      exact ⟨by simp [addKind], by simp [hn]⟩
    | custom hi hr =>
      obtain rfl := Option.some.inj hi
      obtain rfl := hr
      rw [errorReader_custom rfl rfl, not_ofMember?_custom]
      exact ⟨rfl, by simp⟩
    | lone hi hr =>
      obtain rfl := Option.some.inj hi
      have hcode : codeOf? (.ident "custom" start :: rest) = none := by
        unfold codeOf?
        split
        · next he => exact absurd (List.cons.inj he).2 (hr _ _ _)
        · rfl
      rw [errorReader_lone rfl hr, not_ofMember?_custom, hcode]
      exact ⟨by simp [addKind], by simpa using fun inner place => hr inner place []⟩
  · rw [hn.readOne, addArgument, hn.kindOf?, hn.codeOf?]
    exact ⟨by simp [addKind], hn.readable⟩

-- ---------------------------------------------------------------------------
-- All arguments
-- ---------------------------------------------------------------------------

theorem mem_kinds_addArgument (kind : ErrorKind) (declared : DeclaredErrors)
    (arg : List TokenTree) :
    kind ∈ (addArgument declared arg).kinds ↔ kind ∈ declared.kinds ∨ kindOf? arg = some kind := by
  unfold addArgument addKind
  cases kindOf? arg with
  | none => simp
  | some own =>
    simp only [Option.elim_some, Option.some.injEq]
    split
    · next hm =>
      refine ⟨.inl, ?_⟩
      rintro (h | rfl)
      · exact h
      · simpa using hm
    · simp [eq_comm]

theorem mem_custom_addArgument (code : CustomErrorCode) (declared : DeclaredErrors)
    (arg : List TokenTree) :
    code ∈ (addArgument declared arg).custom ↔
      code ∈ declared.custom ∨ codeOf? arg = some code := by
  simp [addArgument]

/-- What each argument may bring is there in the end if it was there before or an argument that is
reached brings it. -/
theorem readEach_iff (Has : DeclaredErrors → Prop) (Brings : List TokenTree → Prop)
    (hadd : ∀ declared arg, Has (addArgument declared arg) ↔ Has declared ∨ Brings arg)
    (args : List (List TokenTree)) (state : DeclaredErrors × Log) :
    Has (readEach errorReader state args).1.1 ↔
      Has state.1 ∨ ∃ arg, Reached args arg ∧ Brings arg := by
  induction args generalizing state with
  | nil => simp [readEach, not_reached_nil]
  | cons first rest ih =>
    obtain ⟨hd, hr⟩ := readOne_errorReader state first
    have hfirst : (∃ arg, Reached (first :: rest) arg ∧ Brings arg) ↔
        Brings first ∨ Readable first ∧ ∃ arg, Reached rest arg ∧ Brings arg := by
      simp only [reached_cons_iff, or_and_right, exists_or, exists_eq_left, and_assoc,
        exists_and_left]
    rw [readEach, hfirst]
    split
    · next hread =>
      rw [ih, hd, hadd, or_assoc, and_iff_right (hr.mp hread)]
    · next hread =>
      -- what the unreadable argument starts with still counts, nothing behind it does
      have hnot : ¬ Readable first := fun h => hread (hr.mpr h)
      simp [hd, hadd, hnot]

inductive NamesKind (kind : ErrorKind) : List TokenTree → Prop
  | factory {start} : NamesKind kind [.ident kind.factoryName start]
  | name {start} : NamesKind kind [.ident kind.name start]

/-- The written form of a custom code, `custom(423, "LOCKED")`. -/
inductive WritesCode (code : CustomErrorCode) : List TokenTree → Prop
  | custom {status text start first joint comma second place} :
      Literal.ofLexeme status = .int code.status.toNat →
      Literal.ofLexeme text = .text code.code →
      WritesCode code [.ident "custom" start, .group .paren
        [.literal status first, .punct ',' joint comma, .literal text second] place]

theorem ofMember?_names (kind : ErrorKind) :
    ErrorKind.ofMember? kind.factoryName = some kind ∧
      ErrorKind.ofMember? kind.name = some kind := by
  cases kind <;> decide +kernel

theorem NamesKind.kindOf? {kind : ErrorKind} {arg : List TokenTree} (h : NamesKind kind arg) :
    kindOf? arg = some kind := by
  cases h with
  | factory => exact (ofMember?_names kind).1
  | name => exact (ofMember?_names kind).2

theorem WritesCode.codeOf? {code : CustomErrorCode} {arg : List TokenTree}
    (h : WritesCode code arg) : codeOf? arg = some code := by
  obtain ⟨hs, ht⟩ := h
  have hlt : code.status.toNat < 65536 := code.status.toNat_lt
  simp [Annotations.codeOf?, customCode?, text?, hs, ht, statusOfNat?, hlt]

/-- A declaration of errors counts exactly for the arguments that are reached. There each written
kind and code counts, whatever stands behind it. -/
theorem declared_errors_exact (attributes : List Attribute) (attr : Attribute)
    (trees : List TokenTree)
    (hfirst : attributes.find? (·.isNamed "produces_errors") = some attr)
    (hargs : attr.args = .list trees) :
    ∃ declared, (declaredErrors attributes).value = some declared ∧
      (∀ kind, kind ∈ declared.kinds ↔
        ∃ arg, Reached (arguments trees) arg ∧ kindOf? arg = some kind) ∧
      (∀ code, code ∈ declared.custom ↔
        ∃ arg, Reached (arguments trees) arg ∧ codeOf? arg = some code) ∧
      ∀ arg, Reached (arguments trees) arg →
        (∀ kind, NamesKind kind arg → kind ∈ declared.kinds) ∧
        ∀ code, WritesCode code arg → code ∈ declared.custom := by
  have hread : (readAttribute errorReader ({}, []) attr).1.1 =
      (readEach errorReader ({}, []) (arguments trees)).1.1 := by
    rw [readAttribute_eq errorReader_local _ hargs]
  have hkinds (kind : ErrorKind) :=
    readEach_iff (kind ∈ ·.kinds) (kindOf? · = some kind) (mem_kinds_addArgument kind)
      (arguments trees) ({}, [])
  have hcustom (code : CustomErrorCode) :=
    readEach_iff (code ∈ ·.custom) (codeOf? · = some code) (mem_custom_addArgument code)
      (arguments trees) ({}, [])
  simp only [List.not_mem_nil, false_or, ← hread] at hkinds hcustom
  refine ⟨(readAttribute errorReader ({}, []) attr).1.1, ?_, hkinds, hcustom, fun arg harg => ?_⟩
  · unfold declaredErrors
    rw [hfirst]
  · exact ⟨fun kind h => (hkinds kind).mpr ⟨arg, harg, h.kindOf?⟩,
      fun code h => (hcustom code).mpr ⟨arg, harg, h.codeOf?⟩⟩

/-- The arguments of `produces_errors(teapot, custom(423), NotFound)`. -/
def mixedArguments : List TokenTree :=
  [.ident "teapot" {}, .punct ',' false {}, .ident "custom" {},
    .group .paren [.literal "423" {}] {}, .punct ',' false {}, .ident "NotFound" {}]

theorem declared_errors_exact_behind_malformed :
    Reached (arguments mixedArguments) [.ident "NotFound" {}] ∧
    ∃ declared, (declaredErrors [⟨some ["produces_errors"], .list mixedArguments⟩]).value =
        some declared ∧
      .notFound ∈ declared.kinds := by
  have hreached : Reached (arguments mixedArguments) [.ident "NotFound" {}] := by
    refine ⟨[[.ident "teapot" {}], [.ident "custom" {}, .group .paren [.literal "423" {}] {}]], [],
      rfl, ?_⟩
    simp only [List.forall_mem_cons, List.not_mem_nil, false_implies, implies_true, and_true]
    exact ⟨.path .name (by simp), .custom⟩
  obtain ⟨declared, hd, -, -, hcounts⟩ := declared_errors_exact
    [⟨some ["produces_errors"], .list mixedArguments⟩] _ mixedArguments rfl rfl
  exact ⟨hreached, declared, hd, (hcounts _ hreached).1 .notFound .name⟩

theorem kind_lost_behind_number :
    [.ident "not_found" {}] ∈
      arguments [.literal "42" {}, .punct ',' false {}, .ident "not_found" {}] ∧
    NamesKind .notFound [.ident "not_found" {}] ∧
    ∃ declared, (declaredErrors [⟨some ["produces_errors"],
        .list [.literal "42" {}, .punct ',' false {}, .ident "not_found" {}]⟩]).value =
          some declared ∧
      .notFound ∉ declared.kinds :=
  ⟨by simp [show arguments [.literal "42" {}, .punct ',' false {}, .ident "not_found" {}] =
    [[.literal "42" {}], [.ident "not_found" {}]] from rfl], .factory, {}, rfl, List.not_mem_nil⟩

end EndpointInference.Annotations
