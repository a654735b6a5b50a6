import EndpointInference.Proofs.ArgumentLists

/-!
# Texts that are given by name

An annotation may be given its text by one of three names. Reading takes the text behind such a
name; any other name is passed over, but the text behind it is not, so that the argument is not read
to its end and those behind it are lost (`readOne_pair`). Of a list of named texts the ones in front
count, up to the first with another name (`stringArgument?_pairs`). `text_found_in_front`: a text is
found by its name exactly if no other stands before it. A mapping whose path is not found is one to
`/`.
-/

namespace EndpointInference.Annotations

open EndpointInference.Syntax

-- ---------------------------------------------------------------------------
-- The reader
-- ---------------------------------------------------------------------------

def textKeys : List String :=
  ["name", "path", "value"]

section
variable {found : Option String} {head : ArgumentHead} {key : String} {tail : List TokenTree}

theorem stringReader_named (h : head.ident? = some key) (hk : key ∈ textKeys) :
    stringReader found head =
      if Ahead.mark "=" head.rest then
        match text? (head.rest.drop 1) with
        | some (value, rest) => (some value, some rest)
        | none => (found, none)
      else (found, none) := by
  simp only [textKeys, List.mem_cons, List.not_mem_nil, or_false] at hk
  unfold stringReader
  rw [h]
  rcases hk with rfl | rfl | rfl <;> rfl

theorem stringReader_other (h : ∀ key ∈ head.ident?, key ∉ textKeys) :
    stringReader found head = (found, some head.rest) := by
  unfold stringReader
  split
  · next hi => exact absurd (by decide) (h "name" hi)
  · next hi => exact absurd (by decide) (h "path" hi)
  · next hi => exact absurd (by decide) (h "value" hi)
  · rfl

theorem equals_iff {trees : List TokenTree} :
    Ahead.mark "=" trees = true ↔ ∃ joint start rest, trees = .punct '=' joint start :: rest := by
  have hmark : Ahead.mark "=" trees = Ahead.marks ['='] trees := rfl
  rw [hmark]
  constructor
  · intro h
    match trees with
    | .punct mark joint start :: rest =>
      simp only [Ahead.marks, beq_iff_eq] at h
      subst h
      exact ⟨joint, start, rest, rfl⟩
    | [] | .ident .. :: _ | .literal .. :: _ | .group .. :: _ => simp [Ahead.marks] at h
  · rintro ⟨joint, start, rest, rfl⟩
    rfl

theorem equals_append (ht : Ends tail) (trees : List TokenTree) :
    Ahead.mark "=" (trees ++ tail) = Ahead.mark "=" trees := by
  rw [Bool.eq_iff_iff, equals_iff, equals_iff]
  cases trees with
  | nil => rcases ends_iff.mp ht with rfl | ⟨joint, start, rest, rfl⟩ <;> simp
  | cons tree rest => simp

theorem text?_append (ht : Ends tail) (trees : List TokenTree) :
    text? (trees ++ tail) = (text? trees).map fun read => (read.1, read.2 ++ tail) := by
  cases trees with
  | nil => rcases ends_iff.mp ht with rfl | ⟨joint, start, rest, rfl⟩ <;> rfl
  | cons tree rest =>
    cases tree with
    | literal lexeme start =>
      simp only [text?, List.cons_append]
      cases Literal.ofLexeme lexeme <;> rfl
    | _ => rfl

theorem text?_suffix {trees rest : List TokenTree} {value : String}
    (h : text? trees = some (value, rest)) : rest <:+ trees := by
  unfold text? at h
  split at h
  · split at h
    · obtain rfl := (Prod.mk.inj (Option.some.inj h)).2
      exact List.suffix_cons _ _
    · cases h
  · cases h

theorem key_cases (head : ArgumentHead) :
    (∃ key, head.ident? = some key ∧ key ∈ textKeys) ∨ ∀ key ∈ head.ident?, key ∉ textKeys := by
  by_cases h : ∃ key, head.ident? = some key ∧ key ∈ textKeys
  · exact .inl h
  · exact .inr fun key hi hk => h ⟨key, hi, hk⟩

theorem stringReader_local : LocalReader stringReader where
  append := by
    intro found head tail ht
    have hsame : ArgumentHead.ident? { head with rest := head.rest ++ tail } = head.ident? := rfl
    rcases key_cases head with ⟨key, hi, hk⟩ | hother
    · rw [stringReader_named hi hk, stringReader_named (hsame.trans hi) hk, equals_append ht]
      split
      · next hm =>
        obtain ⟨joint, start, rest, hr⟩ := equals_iff.mp hm
        simp only [hr, List.cons_append, List.drop_succ_cons, List.drop_zero, text?_append ht]
        cases text? rest <;> rfl
      · rfl
    · rw [stringReader_other hother, stringReader_other (hsame ▸ hother), Option.map_some]
  suffix := by
    intro found head rest h
    rcases key_cases head with ⟨key, hi, hk⟩ | hother
    · rw [stringReader_named hi hk] at h
      split at h
      · split at h
        · next ht =>
          obtain rfl := Option.some.inj h
          exact (text?_suffix ht).trans (List.drop_suffix 1 head.rest)
        · cases h
      · cases h
    · rw [stringReader_other hother] at h
      exact Option.some.inj h ▸ List.suffix_rfl

end

-- ---------------------------------------------------------------------------
-- Named texts
-- ---------------------------------------------------------------------------

/-- An argument `key = "text"`, as it is written. -/
structure Pair where
  key : String
  value : String
  lexeme : String
  writes : Literal.ofLexeme lexeme = .text value
  isJoint : Bool := false
  keyStart : Position := {}
  markStart : Position := {}
  start : Position := {}

namespace Pair

def trees (pair : Pair) : List TokenTree :=
  [.ident pair.key pair.keyStart, .punct '=' pair.isJoint pair.markStart,
    .literal pair.lexeme pair.start]

def head (pair : Pair) : ArgumentHead :=
  ⟨[pair.key], false, [.punct '=' pair.isJoint pair.markStart, .literal pair.lexeme pair.start]⟩

def isNamed (pair : Pair) : Bool :=
  textKeys.contains pair.key

theorem argumentHead?_trees (pair : Pair) : argumentHead? pair.trees = some pair.head :=
  argumentHead?_lone rfl

theorem isNamed_iff {pair : Pair} : pair.isNamed = true ↔ pair.key ∈ textKeys :=
  List.contains_iff_mem

theorem stringReader_head (found : Option String) (pair : Pair) :
    stringReader found pair.head =
      if pair.isNamed then (some pair.value, some []) else (found, some pair.head.rest) := by
  by_cases hn : pair.isNamed = true
  · have hmark : Ahead.mark "=" pair.head.rest = true := rfl
    have htext : text? (pair.head.rest.drop 1) = some (pair.value, []) := by
      simp only [head, List.drop_succ_cons, List.drop_zero, text?, pair.writes]
    rw [stringReader_named rfl (isNamed_iff.mp hn), if_pos hmark, htext, if_pos hn]
  · have hother : ∀ key ∈ pair.head.ident?, key ∉ textKeys := by
      rintro key hi hk
      obtain rfl := Option.some.inj hi
      exact hn (isNamed_iff.mpr hk)
    rw [stringReader_other hother, if_neg hn]

end Pair

theorem readOne_pair (found : Option String) (pair : Pair) :
    readOne stringReader found pair.trees =
      if pair.isNamed then (some pair.value, true) else (found, false) := by
  rw [readOne, pair.argumentHead?_trees]
  simp only [pair.stringReader_head]
  split <;> rfl

/-- Of named texts, the last counts of those before which there is no other name. -/
theorem readEach_pairs (found : Option String) (pairs : List Pair) :
    (readEach stringReader found (pairs.map Pair.trees)).1 =
      ((pairs.takeWhile Pair.isNamed).getLast?.map Pair.value).or found := by
  induction pairs generalizing found with
  | nil => rfl
  | cons pair rest ih =>
    rw [List.map_cons, readEach, readOne_pair, List.takeWhile_cons]
    cases hn : pair.isNamed with
    | false => rfl
    | true =>
      simp only [↓reduceIte, ih]
      cases hr : rest.takeWhile Pair.isNamed with
      | nil => rfl
      | cons next behind =>
        rw [List.getLast?_cons_cons]
        simp [List.getLast?_cons]

theorem stringArgument?_pairs {attr : Attribute} {trees : List TokenTree} {pairs : List Pair}
    (hargs : attr.args = .list trees) (hpairs : arguments trees = pairs.map Pair.trees) :
    stringArgument? attr = (pairs.takeWhile Pair.isNamed).getLast?.map Pair.value := by
  have hread : (readAttribute stringReader none attr).1 =
      (pairs.takeWhile Pair.isNamed).getLast?.map Pair.value := by
    rw [readAttribute_eq stringReader_local _ hargs, hpairs, readEach_pairs, Option.or_none]
  -- a list that starts with a pair is no lone text
  have htext : text? trees = none := by
    obtain ⟨arg, tail, rfl, harg, ht⟩ := exists_first_argument trees
    by_cases hn : arg ++ tail = []
    · rw [hn]
      rfl
    · rw [arguments_append harg ht hn] at hpairs
      cases pairs with
      | nil => cases hpairs
      | cons pair rest =>
        obtain ⟨rfl, -⟩ := List.cons.inj hpairs
        rfl
  simp only [stringArgument?, hargs, htext, hread]

-- ---------------------------------------------------------------------------
-- Routes
-- ---------------------------------------------------------------------------

def verb? (attr : Attribute) : Option Verb :=
  attr.ident?.bind mappingVerb?

theorem mapping?_of_first {front behind : List Attribute} {attr : Attribute} {verb : Verb}
    (hfront : ∀ other ∈ front, verb? other = none) (hverb : verb? attr = some verb) :
    mapping? (front ++ attr :: behind) = some (verb, (stringArgument? attr).getD "/") := by
  have hstep (other : Attribute) : (do
        let verb ← mappingVerb? (← other.ident?)
        some (verb, (stringArgument? other).getD "/")) =
      (verb? other).map fun verb => (verb, (stringArgument? other).getD "/") := by
    unfold verb?
    cases other.ident? with
    | none => rfl
    | some name =>
      simp only [Option.bind_eq_bind, Option.bind_some]
      cases mappingVerb? name <;> rfl
  have hnone : front.findSome? (fun other =>
      (verb? other).map fun verb => (verb, (stringArgument? other).getD "/")) = none := by
    rw [List.findSome?_eq_none_iff]
    intro other hm
    rw [hfront other hm, Option.map_none]
  simp only [mapping?, hstep, List.findSome?_append, hnone, Option.none_or, List.findSome?_cons,
    hverb, Option.map_some]

theorem basePath_of_first {front behind : List Attribute} {attr : Attribute}
    (hfront : ∀ other ∈ front, other.isNamed "request_mapping" = false)
    (hattr : attr.isNamed "request_mapping" = true) :
    basePath (front ++ attr :: behind) = (stringArgument? attr).getD "" := by
  have hnone : front.find? (·.isNamed "request_mapping") = none := by
    rw [List.find?_eq_none]
    intro other hm
    simp [hfront other hm]
  rw [basePath, List.find?_append, hnone, Option.none_or, List.find?_cons, hattr, Option.bind_some]

/-- In a list of named texts of which one has a name that counts, that text is found exactly if it
stands in front. Behind any other named text it is lost: a mapping is then one to `/`, and a
controller has no path in front of those of its handlers. -/
theorem text_found_in_front (attr : Attribute) (trees : List TokenTree) (before after : List Pair)
    (pair : Pair) (hargs : attr.args = .list trees)
    (hpairs : arguments trees = (before ++ pair :: after).map Pair.trees)
    (hnamed : pair.isNamed = true) (hothers : ∀ other ∈ before ++ after, other.isNamed = false) :
    stringArgument? attr = (if before = [] then some pair.value else none) ∧
    (∀ front behind verb, (∀ other ∈ front, verb? other = none) → verb? attr = some verb →
      mapping? (front ++ attr :: behind) =
        some (verb, if before = [] then pair.value else "/")) ∧
    ∀ front behind, (∀ other ∈ front, other.isNamed "request_mapping" = false) →
      attr.isNamed "request_mapping" = true →
      basePath (front ++ attr :: behind) = if before = [] then pair.value else "" := by
  have hfound : stringArgument? attr = if before = [] then some pair.value else none := by
    rw [stringArgument?_pairs hargs hpairs]
    cases before with
    | nil =>
      have hafter : after.takeWhile Pair.isNamed = [] := by
        cases after with
        | nil => rfl
        | cons other rest =>
          exact List.takeWhile_cons_of_neg (by simp [hothers other List.mem_cons_self])
      rw [List.nil_append, List.takeWhile_cons_of_pos hnamed, hafter]
      rfl
    | cons other rest =>
      have hother : other.isNamed = false := hothers other List.mem_cons_self
      rw [List.cons_append, List.takeWhile_cons_of_neg (by simp [hother])]
      rfl
  refine ⟨hfound, fun front behind verb hfront hverb => ?_, fun front behind hfront hattr => ?_⟩
  · rw [mapping?_of_first hfront hverb, hfound]
    split <;> rfl
  · rw [basePath_of_first hfront hattr, hfound]
    split <;> rfl

def pathPair : Pair where
  key := "path"
  value := "/users"
  lexeme := "\"/users\""
  writes := by decide +kernel

def summaryPair : Pair where
  key := "summary"
  value := "All users"
  lexeme := "\"All users\""
  writes := by decide +kernel

theorem text_found_in_front_path :
    let attr : Attribute := ⟨some ["get_mapping"],
      .list (pathPair.trees ++ .punct ',' false {} :: summaryPair.trees)⟩
    arguments (pathPair.trees ++ .punct ',' false {} :: summaryPair.trees) =
        [pathPair, summaryPair].map Pair.trees ∧
      stringArgument? attr = some "/users" ∧ mapping? [attr] = some (.get, "/users") := by
  intro attr
  obtain ⟨hfound, hmapping, -⟩ := text_found_in_front attr _ [] [summaryPair] pathPair rfl rfl rfl
    (by simp [summaryPair, Pair.isNamed, textKeys])
  exact ⟨rfl, hfound, hmapping [] [] .get (by simp) rfl⟩

theorem path_lost_behind_summary :
    let trees := summaryPair.trees ++ .punct ',' false {} :: pathPair.trees
    arguments trees = [summaryPair, pathPair].map Pair.trees ∧
      summaryPair.key ≠ pathPair.key ∧ summaryPair.isNamed = false ∧ pathPair.isNamed = true ∧
      stringArgument? ⟨some ["get_mapping"], .list trees⟩ = none ∧
      mapping? [⟨some ["get_mapping"], .list trees⟩] = some (.get, "/") :=
  ⟨rfl, by decide, by decide, by decide, rfl, rfl⟩

end EndpointInference.Annotations
