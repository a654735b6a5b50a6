import EndpointInference.Annotations

/-!
# Lists of arguments

The arguments of an annotation are the parts of its list between commas. They are read from the
front, but a path never goes over a comma, and neither does a reader (`LocalReader`). So each
argument is read as if it stood alone (`readOne`), and `readAttribute_eq`: reading a list is reading
its arguments one by one, up to the first that is not read to its end.
-/

namespace EndpointInference.Annotations

open EndpointInference.Syntax

def isComma : TokenTree → Bool
  | .punct ',' _ _ => true
  | _ => false

/-- The parts between commas; a comma at the end has nothing behind it. -/
def arguments (trees : List TokenTree) : List (List TokenTree) :=
  let parts := trees.splitOnP isComma
  match parts.getLast? with
  | some [] => parts.dropLast
  | _ => parts

def Ends (tail : List TokenTree) : Prop :=
  ∀ tree ∈ tail.head?, isComma tree = true

theorem isComma_iff {tree : TokenTree} :
    isComma tree = true ↔ ∃ joint start, tree = .punct ',' joint start := by
  constructor
  · intro h
    unfold isComma at h
    split at h
    · exact ⟨_, _, rfl⟩
    · cases h
  · rintro ⟨joint, start, rfl⟩
    rfl

theorem ends_iff {tail : List TokenTree} :
    Ends tail ↔ tail = [] ∨ ∃ joint start rest, tail = .punct ',' joint start :: rest := by
  cases tail with
  | nil => simp [Ends]
  | cons tree rest => simp [Ends, isComma_iff]

-- ---------------------------------------------------------------------------
-- Cutting at commas
-- ---------------------------------------------------------------------------

section
variable {arg tail rest : List TokenTree} {comma : TokenTree}

theorem exists_first_argument (trees : List TokenTree) :
    ∃ arg tail, trees = arg ++ tail ∧ (∀ tree ∈ arg, isComma tree = false) ∧ Ends tail := by
  refine ⟨trees.takeWhile (!isComma ·), trees.dropWhile (!isComma ·),
    List.takeWhile_append_dropWhile.symm, fun tree hm => ?_, fun tree hm => ?_⟩
  · simpa using (List.all_eq_true.mp List.all_takeWhile) tree hm
  · have hhead := List.head?_dropWhile_not (!isComma ·) trees
    rw [Option.mem_def.mp hm] at hhead
    simpa using hhead

theorem arguments_cons (h : ∀ tree ∈ arg, isComma tree = false) (hc : isComma comma = true) :
    arguments (arg ++ comma :: rest) = arg :: arguments rest := by
  have hparts : rest.splitOnP isComma ≠ [] := List.splitOnP_ne_nil _ _
  simp only [arguments, List.splitOnP_append_cons _ _ hc, List.splitOnP_eq_singleton h,
    List.singleton_append, List.getLast?_cons_of_ne_nil hparts,
    List.dropLast_cons_of_ne_nil hparts]
  split <;> rfl

theorem arguments_append (h : ∀ tree ∈ arg, isComma tree = false) (ht : Ends tail)
    (hn : arg ++ tail ≠ []) : arguments (arg ++ tail) = arg :: arguments (tail.drop 1) := by
  cases tail with
  | nil =>
    rw [List.append_nil] at hn ⊢
    rw [arguments, List.splitOnP_eq_singleton h]
    cases arg with
    | nil => exact absurd rfl hn
    | cons tree rest => rfl
  | cons comma rest => exact arguments_cons h (ht comma rfl)

end

-- ---------------------------------------------------------------------------
-- Paths end before a comma
-- ---------------------------------------------------------------------------

section
variable {tail : List TokenTree}

theorem mark_iff {trees : List TokenTree} :
    Ahead.mark "::" trees = true ↔ ∃ first joint second rest,
      trees = .punct ':' true first :: .punct ':' joint second :: rest := by
  have hmark : Ahead.mark "::" trees = Ahead.marks [':', ':'] trees := rfl
  rw [hmark]
  constructor
  · intro h
    match trees with
    | .punct mark joined first :: .punct next joint second :: rest =>
      simp only [Ahead.marks, Bool.and_eq_true, beq_iff_eq] at h
      obtain ⟨⟨rfl, rfl⟩, rfl⟩ := h
      exact ⟨first, joint, second, rest, rfl⟩
    | [] | [.punct ..] | .punct .. :: .ident .. :: _ | .punct .. :: .literal .. :: _
    | .punct .. :: .group .. :: _ | .ident .. :: _ | .literal .. :: _ | .group .. :: _ =>
      simp [Ahead.marks] at h
  · rintro ⟨first, joint, second, rest, rfl⟩
    rfl

theorem mark_append (ht : Ends tail) (trees : List TokenTree) :
    Ahead.mark "::" (trees ++ tail) = Ahead.mark "::" trees := by
  rw [Bool.eq_iff_iff, mark_iff, mark_iff]
  match trees with
  | [] => rcases ends_iff.mp ht with rfl | ⟨joint, start, rest, rfl⟩ <;> simp
  | [tree] => rcases ends_iff.mp ht with rfl | ⟨joint, start, rest, rfl⟩ <;> simp
  | _ :: _ :: _ => simp

theorem pathTail_append (ht : Ends tail) (budget own : Nat) (trees : List TokenTree)
    (hb : trees.length + tail.length < budget) (ho : trees.length < own) :
    pathTail budget (trees ++ tail) =
      (pathTail own trees).map fun found => (found.1, found.2 ++ tail) := by
  induction budget generalizing own trees with
  | zero => omega
  | succ budget ih =>
    obtain ⟨own, rfl⟩ := Nat.exists_eq_add_one_of_ne_zero (Nat.ne_zero_of_lt ho)
    rw [pathTail, pathTail, mark_append ht]
    split
    · next hm =>
      obtain ⟨first, joint, second, rest, rfl⟩ := mark_iff.mp hm
      simp only [List.cons_append, List.drop_succ_cons, List.drop_zero]
      match rest with
      | [] =>
        rcases ends_iff.mp ht with rfl | ⟨joint, start, rest, rfl⟩ <;> rfl
      | .ident text start :: rest =>
        simp only [List.length_cons] at hb ho
        simp only [List.cons_append, ih own rest (by omega) (by omega)]
        cases pathTail own rest <;> rfl
      | .punct .. :: _ | .literal .. :: _ | .group .. :: _ => rfl
    · rfl

theorem argumentHead?_name (text : String) (start : Position) (rest : List TokenTree) :
    argumentHead? (.ident text start :: rest) =
      (pathTail (rest.length + 1) rest).map fun found => ⟨text :: found.1, false, found.2⟩ := by
  have hm : Ahead.mark "::" (.ident text start :: rest) = false := rfl
  simp only [argumentHead?, hm, Bool.false_eq_true, ↓reduceIte]
  cases pathTail (rest.length + 1) rest <;> rfl

theorem argumentHead?_lone {text : String} {start : Position} {rest : List TokenTree}
    (h : Ahead.mark "::" rest = false) :
    argumentHead? (.ident text start :: rest) = some ⟨[text], false, rest⟩ := by
  rw [argumentHead?_name, pathTail, h]
  rfl

theorem argumentHead?_global (first second start : Position) (joint : Bool) (text : String)
    (rest : List TokenTree) :
    argumentHead? (.punct ':' true first :: .punct ':' joint second :: .ident text start :: rest) =
      (pathTail (rest.length + 1) rest).map fun found => ⟨text :: found.1, true, found.2⟩ := by
  have hm : Ahead.mark "::"
      (.punct ':' true first :: .punct ':' joint second :: .ident text start :: rest) = true := rfl
  simp only [argumentHead?, hm, ↓reduceIte, List.drop_succ_cons, List.drop_zero]
  cases pathTail (rest.length + 1) rest <;> rfl

/-- No name stands at the start, nor behind a `::` at the start. -/
structure NoHead (arg : List TokenTree) : Prop where
  name : ∀ text start rest, arg ≠ .ident text start :: rest
  global : ∀ first joint second text start rest,
    arg ≠ .punct ':' true first :: .punct ':' joint second :: .ident text start :: rest

theorem NoHead.append {arg : List TokenTree} (h : NoHead arg) (ht : Ends tail) :
    NoHead (arg ++ tail) := by
  rcases ends_iff.mp ht with rfl | ⟨mark, place, behind, rfl⟩
  · rwa [List.append_nil]
  · match arg with
    | [] => exact ⟨by simp, by simp⟩
    | [_] => exact ⟨by simpa using h.name, by simp⟩
    | [_, _] => exact ⟨by simpa using h.name, by simp⟩
    | first :: second :: third :: rest =>
      refine ⟨fun text start _ he => ?_, fun _ _ _ text start _ he => ?_⟩
      · exact h.name text start _ (congrArg (· :: _) (List.cons.inj he).1)
      · simp only [List.cons_append, List.cons.injEq] at he
        obtain ⟨rfl, rfl, rfl, -⟩ := he
        exact h.global _ _ _ _ _ _ rfl

theorem NoHead.argumentHead? {arg : List TokenTree} (h : NoHead arg) :
    argumentHead? arg = none := by
  by_cases hm : Ahead.mark "::" arg = true
  · obtain ⟨first, joint, second, rest, rfl⟩ := mark_iff.mp hm
    simp only [Annotations.argumentHead?, hm, ↓reduceIte, List.drop_succ_cons, List.drop_zero]
    cases rest with
    | nil => rfl
    | cons tree rest =>
      cases tree with
      | ident text start => exact absurd rfl (h.global _ _ _ _ _ _)
      | _ => rfl
  · simp only [Annotations.argumentHead?, hm]
    cases arg with
    | nil => rfl
    | cons tree rest =>
      cases tree with
      | ident text start => exact absurd rfl (h.name _ _ _)
      | _ => rfl

theorem head_cases (arg : List TokenTree) :
    (∃ text start rest, arg = .ident text start :: rest) ∨
    (∃ first joint second text start rest,
      arg = .punct ':' true first :: .punct ':' joint second :: .ident text start :: rest) ∨
    NoHead arg := by
  by_cases hname : ∃ text start rest, arg = .ident text start :: rest
  · exact .inl hname
  · by_cases hglobal : ∃ first joint second text start rest,
        arg = .punct ':' true first :: .punct ':' joint second :: .ident text start :: rest
    · exact .inr (.inl hglobal)
    · simp only [not_exists] at hname hglobal
      exact .inr (.inr ⟨hname, hglobal⟩)

theorem argumentHead?_append (ht : Ends tail) (arg : List TokenTree) :
    argumentHead? (arg ++ tail) =
      (argumentHead? arg).map fun head => { head with rest := head.rest ++ tail } := by
  have hpath (rest : List TokenTree) : pathTail ((rest ++ tail).length + 1) (rest ++ tail) =
      (pathTail (rest.length + 1) rest).map fun found => (found.1, found.2 ++ tail) :=
    pathTail_append ht _ _ rest (by simp) (Nat.lt_succ_self _)
  rcases head_cases arg with ⟨text, start, rest, rfl⟩ |
    ⟨first, joint, second, text, start, rest, rfl⟩ | hn
  · simp only [List.cons_append, argumentHead?_name, hpath, Option.map_map]
    rfl
  · simp only [List.cons_append, argumentHead?_global, hpath, Option.map_map]
    rfl
  · rw [(hn.append ht).argumentHead?, hn.argumentHead?, Option.map_none]

theorem pathTail_suffix {budget : Nat} {trees rest : List TokenTree} {names : List String}
    (h : pathTail budget trees = some (names, rest)) : rest <:+ trees := by
  induction budget generalizing trees names with
  | zero => cases h
  | succ budget ih =>
    rw [pathTail] at h
    split at h
    · next hm =>
      split at h
      · next text start behind hd =>
        obtain ⟨⟨names', rest'⟩, hp, he⟩ := Option.bind_eq_some_iff.mp h
        obtain rfl : rest' = rest := by simpa using (Prod.mk.inj (Option.some.inj he)).2
        exact (ih hp).trans ((List.suffix_cons _ _).trans (hd ▸ List.drop_suffix 2 trees))
      · cases h
    · obtain rfl := (Prod.mk.inj (Option.some.inj h)).2
      exact List.suffix_rfl

theorem argumentHead?_suffix {arg : List TokenTree} {head : ArgumentHead}
    (h : argumentHead? arg = some head) : head.rest <:+ arg := by
  rcases head_cases arg with ⟨text, start, rest, rfl⟩ |
    ⟨first, joint, second, text, start, rest, rfl⟩ | hn
  · rw [argumentHead?_name] at h
    obtain ⟨found, hp, rfl⟩ := Option.map_eq_some_iff.mp h
    exact (pathTail_suffix hp).trans (List.suffix_cons _ _)
  · rw [argumentHead?_global] at h
    obtain ⟨found, hp, rfl⟩ := Option.map_eq_some_iff.mp h
    exact (pathTail_suffix hp).trans ⟨[_, _, _], rfl⟩
  · rw [hn.argumentHead?] at h
    cases h

end

-- ---------------------------------------------------------------------------
-- Reading one by one
-- ---------------------------------------------------------------------------

structure LocalReader (reader : ArgumentReader σ) : Prop where
  append : ∀ state head tail, Ends tail →
    reader state { head with rest := head.rest ++ tail } =
      ((reader state head).1, (reader state head).2.map (· ++ tail))
  suffix : ∀ state head rest, (reader state head).2 = some rest → rest <:+ head.rest

/-- Reading one argument by itself: the state behind it, and whether it is read to its end. -/
def readOne (reader : ArgumentReader σ) (state : σ) (arg : List TokenTree) : σ × Bool :=
  match argumentHead? arg with
  | none => (state, false)
  | some head => ((reader state head).1, (reader state head).2.any List.isEmpty)

def readEach (reader : ArgumentReader σ) (state : σ) : List (List TokenTree) → σ × Bool
  | [] => (state, true)
  | arg :: rest =>
    if (readOne reader state arg).2 then readEach reader (readOne reader state arg).1 rest
    else ((readOne reader state arg).1, false)

section
variable {reader : ArgumentReader σ}

theorem readArguments_eq (hl : LocalReader reader) (budget : Nat) (state : σ)
    (trees : List TokenTree) (hb : trees.length < budget) (hn : trees ≠ []) :
    readArguments reader budget state trees = readEach reader state (arguments trees) := by
  induction budget generalizing state trees with
  | zero => omega
  | succ budget ih =>
    obtain ⟨arg, tail, rfl, harg, ht⟩ := exists_first_argument trees
    rw [arguments_append harg ht hn, readEach, readOne, readArguments, argumentHead?_append ht]
    cases hhead : argumentHead? arg with
    | none => rfl
    | some head =>
      simp only [Option.map_some, hl.append state head tail ht]
      cases hr : (reader state head).2 with
      | none => rfl
      | some rest =>
        -- what is left over is from the argument, so a comma in front of it ends the argument
        have hrest : ∀ tree ∈ rest, isComma tree = false := fun tree hm =>
          harg tree (((hl.suffix state head rest hr).trans (argumentHead?_suffix hhead)).subset hm)
        match rest, hrest with
        | [], _ =>
          rcases ends_iff.mp ht with rfl | ⟨joint, start, behind, rfl⟩
          · rfl
          · cases behind with
            | nil => rfl
            | cons next behind =>
              simp only [List.length_append, List.length_cons] at hb
              exact ih (reader state head).1 (next :: behind)
                (by simp only [List.length_cons]; omega) (List.cons_ne_nil _ _)
        | tree :: rest, hrest =>
          have hc : isComma tree = false := hrest tree List.mem_cons_self
          cases tree with
          | punct mark joint start =>
            have hmark : mark ≠ ',' := by
              rintro rfl
              cases hc
            simp [hmark]
          | _ => rfl

/-- Reading an annotation is reading its arguments one by one. -/
theorem readAttribute_eq (hl : LocalReader reader) (state : σ) {attr : Attribute}
    {trees : List TokenTree} (h : attr.args = .list trees) :
    readAttribute reader state attr = readEach reader state (arguments trees) := by
  unfold readAttribute
  rw [h]
  cases trees with
  | nil => rfl
  | cons tree rest =>
    exact readArguments_eq hl _ state _ (Nat.lt_succ_self _) (List.cons_ne_nil _ _)

end

end EndpointInference.Annotations
