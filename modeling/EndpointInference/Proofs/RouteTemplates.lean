import EndpointInference.Proofs.RouteJoin
import EndpointInference.Proofs.RouteSlices

/-!
# Reading route templates back

A template as an author means it: segments that are a variable `:name`, or literal texts and
placeholders in any number and order. Each type holds what its texts must be free of, so every value
of `List Segment` is a template. Its written form is read back to the names it was made of
(`namesIn_templateChars`), whatever stars, question marks, constraints and defaults stand around
them.
-/

namespace EndpointInference.Route

/-- What separates the parts of a template; no name holds any of these. -/
def separators : List Char :=
  ['/', '\x7b', '\x7d', ':', '=', '*', '?']

structure VariableName where
  chars : List Char
  nonempty : chars ≠ []
  plain : ∀ c ∈ chars, c ∉ separators

/-- A constraint or a default: what may stand in a placeholder behind the name. -/
structure Qualifier where
  chars : List Char
  plain : ∀ c ∈ chars, c ≠ '/' ∧ c ≠ '\x7d'

structure LiteralText where
  chars : List Char
  plain : ∀ c ∈ chars, c ≠ '/' ∧ c ≠ '\x7b'

/-- A placeholder such as `{*name?:constraint=default}`. -/
structure Placeholder where
  stars : Nat := 0
  name : VariableName
  questionMarks : Nat := 0
  constraint : Option Qualifier := none
  default : Option Qualifier := none

inductive Piece
  | literal (text : LiteralText)
  | placeholder (holder : Placeholder)

def Placeholder.qualifiers (holder : Placeholder) : List Char :=
  holder.constraint.elim [] (fun qualifier => ':' :: qualifier.chars) ++
    holder.default.elim [] fun qualifier => '=' :: qualifier.chars

def Placeholder.decorated (holder : Placeholder) : List Char :=
  List.replicate holder.stars '*' ++ holder.name.chars ++
    List.replicate holder.questionMarks '?'

def Placeholder.inner (holder : Placeholder) : List Char :=
  holder.decorated ++ holder.qualifiers

def Piece.chars : Piece → List Char
  | .literal text => text.chars
  | .placeholder holder => '\x7b' :: (holder.inner ++ ['\x7d'])

def Piece.names : Piece → List (List Char)
  | .literal _ => []
  | .placeholder holder => [holder.name.chars]

inductive Segment
  | named (name : VariableName)
  | composed (pieces : List Piece) (head : (pieces.flatMap Piece.chars).head? ≠ some ':')

def Segment.chars : Segment → List Char
  | .named name => ':' :: name.chars
  | .composed pieces _ => pieces.flatMap Piece.chars

def Segment.names : Segment → List (List Char)
  | .named name => [name.chars]
  | .composed pieces _ => pieces.flatMap Piece.names

def templateChars (template : List Segment) : List Char :=
  ['/'].intercalate (template.map Segment.chars)

def templateNames (template : List Segment) : List (List Char) :=
  template.flatMap Segment.names

-- ---------------------------------------------------------------------------
-- Names in placeholders
-- ---------------------------------------------------------------------------

theorem VariableName.not_mem (name : VariableName) (h : c ∈ separators) : c ∉ name.chars :=
  fun hc => name.plain c hc h

theorem dropWhile_replicate_append (c : Char) (n : Nat) {text : List Char}
    (h : text.head? ≠ some c) :
    (List.replicate n c ++ text).dropWhile (· == c) = text := by
  induction n with
  | zero =>
    cases text with
    | nil => rfl
    | cons d rest =>
      have hne : d ≠ c := fun he => h (by rw [he, List.head?_cons])
      simp [hne]
  | succ n ih => simpa [List.replicate_succ] using ih

theorem VariableName.head?_ne (name : VariableName) (h : c ∈ separators) (more : List Char) :
    (name.chars ++ more).head? ≠ some c := by
  intro hc
  rw [List.head?_append_of_ne_nil _ name.nonempty] at hc
  exact name.not_mem h (List.mem_of_mem_head? hc)

theorem Placeholder.trimName_decorated (holder : Placeholder) :
    trimName holder.decorated = holder.name.chars := by
  obtain ⟨stars, name, marks, constraint, default⟩ := holder
  have hstart : (List.replicate stars '*' ++ (name.chars ++ List.replicate marks '?')).dropWhile
      (· == '*') = name.chars ++ List.replicate marks '?' :=
    dropWhile_replicate_append _ _ (name.head?_ne (by decide) _)
  have hend : name.chars.reverse.head? ≠ some '?' := by
    intro h
    exact name.not_mem (by decide) (List.mem_reverse.mp (List.mem_of_mem_head? h))
  rw [decorated, trimName, List.append_assoc, hstart, List.reverse_append, List.reverse_replicate,
    dropWhile_replicate_append _ _ hend, List.reverse_reverse]

theorem VariableName.trimName_chars (name : VariableName) : trimName name.chars = name.chars := by
  have h := Placeholder.trimName_decorated { name }
  simpa [Placeholder.decorated] using h

theorem Placeholder.not_mem_decorated (holder : Placeholder) (hc : c ∈ separators)
    (hs : c ≠ '*') (hq : c ≠ '?') : c ∉ holder.decorated := by
  simp [decorated, hs, hq, holder.name.not_mem hc]

theorem Placeholder.not_mem_qualifiers (holder : Placeholder) :
    '/' ∉ holder.qualifiers ∧ '\x7d' ∉ holder.qualifiers := by
  have hplain : ∀ qualifier : Qualifier, '/' ∉ qualifier.chars ∧ '\x7d' ∉ qualifier.chars := by
    intro qualifier
    exact ⟨fun h => (qualifier.plain _ h).1 rfl, fun h => (qualifier.plain _ h).2 rfl⟩
  unfold qualifiers
  cases holder.constraint <;> cases holder.default <;> simp [hplain]

theorem Placeholder.not_mem_inner (holder : Placeholder) :
    '/' ∉ holder.inner ∧ '\x7d' ∉ holder.inner := by
  obtain ⟨hslash, hbrace⟩ := holder.not_mem_qualifiers
  have hd : '/' ∉ holder.decorated ∧ '\x7d' ∉ holder.decorated :=
    ⟨holder.not_mem_decorated (by decide) (by decide) (by decide),
      holder.not_mem_decorated (by decide) (by decide) (by decide)⟩
  simp [inner, hslash, hbrace, hd]

theorem Placeholder.placeholderName_inner (holder : Placeholder) :
    placeholderName holder.inner = holder.decorated := by
  have hname : ∀ c ∈ holder.decorated, (c != ':' && c != '=') = true := by
    intro c hc
    have hcolon : c ≠ ':' := by
      rintro rfl
      exact holder.not_mem_decorated (by decide) (by decide) (by decide) hc
    have hequals : c ≠ '=' := by
      rintro rfl
      exact holder.not_mem_decorated (by decide) (by decide) (by decide) hc
    simp [hcolon, hequals]
  have hend : holder.qualifiers.takeWhile (fun c => c != ':' && c != '=') = [] := by
    unfold qualifiers
    cases holder.constraint <;> cases holder.default <;> simp
  rw [placeholderName, inner, List.takeWhile_append_of_pos hname, hend, List.append_nil]

-- ---------------------------------------------------------------------------
-- Segments
-- ---------------------------------------------------------------------------

theorem placeholders_pieces (pieces : List Piece) :
    (placeholders none (pieces.flatMap Piece.chars)).map
      (fun inner => trimName (placeholderName inner)) = pieces.flatMap Piece.names := by
  induction pieces with
  | nil => rfl
  | cons piece rest ih =>
    rw [List.flatMap_cons, List.flatMap_cons]
    cases piece with
    | literal text =>
      have hplain : '\x7b' ∉ text.chars := fun h => (text.plain _ h).2 rfl
      rw [Piece.chars, placeholders_plain _ hplain]
      exact ih
    | placeholder holder =>
      have hfound :
          placeholders none ('\x7b' :: (holder.inner ++ '\x7d' :: rest.flatMap Piece.chars)) =
            holder.inner :: placeholders none (rest.flatMap Piece.chars) :=
        placeholders_placeholder List.not_mem_nil holder.not_mem_inner.2
      have hchars : (Piece.placeholder holder).chars ++ rest.flatMap Piece.chars =
          '\x7b' :: (holder.inner ++ '\x7d' :: rest.flatMap Piece.chars) := by
        simp [Piece.chars]
      rw [hchars, hfound, List.map_cons, ih, holder.placeholderName_inner,
        holder.trimName_decorated]
      rfl

theorem Segment.segmentNames_chars (segment : Segment) :
    segmentNames segment.chars = segment.names := by
  cases segment with
  | named name => exact congrArg (fun chars => [chars]) name.trimName_chars
  | composed pieces head => exact (segmentNames_of_head head).trans (placeholders_pieces pieces)

theorem Segment.slash_not_mem (segment : Segment) : '/' ∉ segment.chars := by
  cases segment with
  | named name => simp [chars, name.not_mem (show '/' ∈ separators by decide)]
  | composed pieces head =>
    intro h
    obtain ⟨piece, -, hc⟩ := List.mem_flatMap.mp h
    cases piece with
    | literal text => exact (text.plain _ hc).1 rfl
    | placeholder holder => simp [Piece.chars, holder.not_mem_inner.1] at hc

theorem Segment.names_ne_nil (segment : Segment) : ∀ name ∈ segment.names, name ≠ [] := by
  intro name h
  cases segment with
  | named found =>
    obtain rfl := List.mem_singleton.mp h
    exact found.nonempty
  | composed pieces head =>
    obtain ⟨piece, -, hn⟩ := List.mem_flatMap.mp h
    cases piece with
    | literal text => cases hn
    | placeholder holder =>
      obtain rfl := List.mem_singleton.mp hn
      exact holder.name.nonempty

-- ---------------------------------------------------------------------------
-- Templates
-- ---------------------------------------------------------------------------

theorem namesIn_templateChars (template : List Segment) :
    namesIn (templateChars template) = templateNames template := by
  by_cases ht : template = []
  · rw [ht]
    rfl
  · have hsplit : (templateChars template).splitOn '/' = template.map Segment.chars := by
      apply List.splitOn_intercalate
      · intro chars hc
        obtain ⟨segment, -, rfl⟩ := List.mem_map.mp hc
        exact segment.slash_not_mem
      · simpa using ht
    have hnames : (template.map Segment.chars).flatMap segmentNames = templateNames template := by
      rw [List.flatMap_map]
      exact List.flatMap_congr fun segment _ => segment.segmentNames_chars
    rw [namesIn, hsplit, hnames, List.filter_eq_self]
    intro name hn
    obtain ⟨segment, -, hn⟩ := List.mem_flatMap.mp hn
    simpa using segment.names_ne_nil name hn

theorem empty_not_mem_variableNames (route : String) : "" ∉ variableNames route := by
  rw [variableNames_eq, List.mem_eraseDups]
  intro h
  obtain ⟨name, hn, he⟩ := List.mem_map.mp h
  have hname : name = [] := by simpa using congrArg String.toList he
  simp [namesIn, hname] at hn

/-- The variables of a written template are the names it was made of, each once, in the order of
their first use. And every text at all can be scanned for placeholders by byte positions: each round
cuts inside the text and between characters and leaves a shorter rest, so that the rounds end, with
the same variables, none of them twice and none without a name. -/
theorem templates_read_back :
    (∀ template : List Segment,
      variableNames (String.ofList (templateChars template)) =
        ((templateNames template).map String.ofList).eraseDups) ∧
    (∀ rest : String, round? rest = some .ended ∨
      ∃ inner next, round? rest = some (.found inner next) ∧ next.length < rest.length) ∧
    ∀ route : String, slicedVariables route = some (variableNames route) ∧
      (variableNames route).Nodup ∧ "" ∉ variableNames route := by
  refine ⟨?_, round?_cases, ?_⟩
  · intro template
    rw [variableNames_eq, String.toList_ofList, namesIn_templateChars]
  · intro route
    exact ⟨slicedVariables_eq route, nodup_variableNames route, empty_not_mem_variableNames route⟩

theorem templates_read_back_dated :
    variableNames "/\x7byear\x7d-\x7b*month?:int\x7d/:id/\x7byear=2024\x7d" =
      ["year", "month", "id"] := by
  let year : VariableName := ⟨"year".toList, by decide, by simp [separators]⟩
  let month : Placeholder :=
    { stars := 1
      name := ⟨"month".toList, by decide, by simp [separators]⟩
      questionMarks := 1
      constraint := some ⟨"int".toList, by simp⟩ }
  let default : Qualifier := ⟨"2024".toList, by simp⟩
  have h := templates_read_back.1
    [.composed [] (by decide),
      .composed
        [.placeholder { name := year }, .literal ⟨"-".toList, by simp⟩, .placeholder month]
        (by decide),
      .named ⟨"id".toList, by decide, by simp [separators]⟩,
      .composed [.placeholder { name := year, default := some default }] (by decide)]
  exact h.trans (by decide)

end EndpointInference.Route
