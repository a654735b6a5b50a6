import EndpointInference.Route
import Mathlib.Data.String.Basic

/-!
# Placeholders by byte positions

The placeholders of a segment can be cut out of its text between byte positions: from the first open
brace to the first closed one behind it, then again behind that. A slice is defined only between
positions that are in order, inside the text and between characters (`slice?`). Wherever the braces
stand (`Cut`), each round finds such positions and leaves a shorter rest (`round?_cases`), and the
rounds together find the placeholders (`scanSlices_eq`).
-/

namespace EndpointInference.Route

open String (utf8Len)

def position? (c : Char) (text : String) : Option Nat :=
  if c ∈ text.toList then some (utf8Len (text.toList.takeWhile (· != c))) else none

/-- The part of a text between two byte positions, if both are in it, in order, and not inside a
character. -/
def slice? (text : String) (start stop : Nat) : Option String :=
  if start ≤ stop ∧ String.Pos.Raw.IsValid text ⟨start⟩ ∧ String.Pos.Raw.IsValid text ⟨stop⟩ then
    some (String.Pos.Raw.extract text ⟨start⟩ ⟨stop⟩)
  else none

/-- What one look for a placeholder gives: no more of them, or one and the text behind it. -/
inductive Round
  | ended
  | found (inner next : String)

def round? (rest : String) : Option Round :=
  match position? '\x7b' rest with
  | none => some .ended
  | some start => do
    let behind ← slice? rest start rest.utf8ByteSize
    match position? '\x7d' behind with
    | none => some .ended
    | some length =>
      let inner ← slice? rest (start + 1) (start + length)
      let next ← slice? rest (start + length + 1) rest.utf8ByteSize
      some (.found inner next)

-- ---------------------------------------------------------------------------
-- Positions and slices
-- ---------------------------------------------------------------------------

theorem position?_of_not_mem (h : c ∉ cs) : position? c (String.ofList cs) = none := by
  simp [position?, h]

theorem position?_first (h : c ∉ before) :
    position? c (String.ofList (before ++ c :: behind)) = some (utf8Len before) := by
  have hbefore : ∀ d ∈ before, (d != c) = true := by
    intro d hd
    have hne : d ≠ c := fun he => h (he ▸ hd)
    simp [hne]
  simp [position?, List.takeWhile_append_of_pos hbefore]

theorem isValid_behind (before behind : List Char) :
    String.Pos.Raw.IsValid (String.ofList (before ++ behind)) ⟨utf8Len before⟩ := by
  rw [String.Pos.Raw.isValid_iff_exists_append]
  exact ⟨String.ofList before, String.ofList behind, String.ofList_append,
    (String.rawEndPos_ofList before).symm⟩

theorem slice?_between (before middle behind : List Char) (ht : text = before ++ (middle ++ behind))
    (hstart : start = utf8Len before) (hstop : stop = start + utf8Len middle) :
    slice? (String.ofList text) start stop = some (String.ofList middle) := by
  subst ht hstart hstop
  have hvalid : String.Pos.Raw.IsValid (String.ofList (before ++ (middle ++ behind)))
      ⟨utf8Len before + utf8Len middle⟩ := by
    rw [← List.append_assoc, ← String.utf8Len_append]
    exact isValid_behind (before ++ middle) behind
  rw [slice?, if_pos ⟨Nat.le_add_right .., isValid_behind before _, hvalid⟩, ← List.append_assoc,
    String.extract_of_valid]

theorem slice?_behind (before behind : List Char) (ht : text = before ++ behind)
    (hstart : start = utf8Len before) :
    slice? (String.ofList text) start (String.ofList text).utf8ByteSize =
      some (String.ofList behind) := by
  apply slice?_between before behind []
  · rw [ht, List.append_nil]
  · exact hstart
  · rw [String.utf8ByteSize_ofList, ht, String.utf8Len_append, hstart]

-- ---------------------------------------------------------------------------
-- Rounds
-- ---------------------------------------------------------------------------

inductive Cut : List Char → Prop
  | plain : '\x7b' ∉ text → Cut text
  | unclosed : '\x7b' ∉ before → '\x7d' ∉ behind → Cut (before ++ '\x7b' :: behind)
  | placeholder {before inner next : List Char} : '\x7b' ∉ before → '\x7d' ∉ inner →
    Cut (before ++ '\x7b' :: (inner ++ '\x7d' :: next))

theorem cut (text : List Char) : Cut text := by
  by_cases ho : '\x7b' ∈ text
  · obtain ⟨before, behind, rfl, hb⟩ := List.eq_append_cons_of_mem ho
    by_cases hc : '\x7d' ∈ behind
    · obtain ⟨inner, next, rfl, hi⟩ := List.eq_append_cons_of_mem hc
      exact .placeholder hb hi
    · exact .unclosed hb hc
  · exact .plain ho

theorem round?_plain (h : '\x7b' ∉ text) : round? (String.ofList text) = some .ended := by
  rw [round?, position?_of_not_mem h]

theorem round?_unclosed (hb : '\x7b' ∉ before) (hc : '\x7d' ∉ behind) :
    round? (String.ofList (before ++ '\x7b' :: behind)) = some .ended := by
  have hclosed : '\x7d' ∉ '\x7b' :: behind := by simp [hc]
  have hbehind := slice?_behind before ('\x7b' :: behind) rfl rfl
  simp only [round?, position?_first hb, hbehind, position?_of_not_mem hclosed,
    Option.bind_eq_bind, Option.bind_some]

/-- The closed brace is searched from the open one on; each of them is one byte long. -/
theorem round?_placeholder {inner : List Char} (hb : '\x7b' ∉ before) (hi : '\x7d' ∉ inner) :
    round? (String.ofList (before ++ '\x7b' :: (inner ++ '\x7d' :: next))) =
      some (.found (String.ofList inner) (String.ofList next)) := by
  generalize ht : before ++ '\x7b' :: (inner ++ '\x7d' :: next) = text
  have hclosed : '\x7d' ∉ '\x7b' :: inner := by simp [hi]
  have hopen : utf8Len (before ++ ['\x7b']) = utf8Len before + 1 := String.utf8Len_append ..
  have hpart : utf8Len ('\x7b' :: inner) = utf8Len inner + 1 := rfl
  have hwhole : utf8Len (before ++ ('\x7b' :: inner ++ ['\x7d'])) =
      utf8Len before + (utf8Len inner + 1) + 1 := by
    rw [String.utf8Len_append, String.utf8Len_append, hpart, Nat.add_assoc]
    rfl
  have hstart : position? '\x7b' (String.ofList text) = some (utf8Len before) :=
    ht ▸ position?_first hb
  have hbehind : slice? (String.ofList text) (utf8Len before) (String.ofList text).utf8ByteSize =
      some (String.ofList ('\x7b' :: inner ++ '\x7d' :: next)) :=
    slice?_behind before _ ht.symm rfl
  have hlength : position? '\x7d' (String.ofList ('\x7b' :: inner ++ '\x7d' :: next)) =
      some (utf8Len inner + 1) := position?_first hclosed
  have hinner : slice? (String.ofList text) (utf8Len before + 1)
      (utf8Len before + (utf8Len inner + 1)) = some (String.ofList inner) :=
    slice?_between (before ++ ['\x7b']) inner ('\x7d' :: next) (by simp [← ht]) hopen.symm
      (by omega)
  have hnext : slice? (String.ofList text) (utf8Len before + (utf8Len inner + 1) + 1)
      (String.ofList text).utf8ByteSize = some (String.ofList next) :=
    slice?_behind (before ++ ('\x7b' :: inner ++ ['\x7d'])) next (by simp [← ht]) hwhole.symm
  simp only [round?, hstart, hbehind, hlength, hinner, hnext, Option.bind_eq_bind,
    Option.bind_some]

theorem round?_cases (rest : String) : round? rest = some .ended ∨
    ∃ inner next, round? rest = some (.found inner next) ∧ next.length < rest.length := by
  obtain ⟨text, rfl⟩ : ∃ text, rest = String.ofList text := ⟨_, String.ofList_toList.symm⟩
  cases cut text with
  | plain hp => exact .inl (round?_plain hp)
  | unclosed hb hc => exact .inl (round?_unclosed hb hc)
  | placeholder hb hi =>
    refine .inr ⟨_, _, round?_placeholder hb hi, ?_⟩
    rw [String.length_ofList, String.length_ofList]
    simp only [List.length_append, List.length_cons]
    omega

theorem round?_shorter {inner : String} (h : round? rest = some (.found inner next)) :
    next.length < rest.length := by
  rcases round?_cases rest with hended | ⟨_, _, hfound, hlt⟩
  · cases hended.symm.trans h
  · cases hfound.symm.trans h
    exact hlt

/-- Round after round, up to the end; nothing if one of them leaves the text. -/
def scanSlices (rest : String) : Option (List String) :=
  match _h : round? rest with
  | none => none
  | some .ended => some []
  | some (.found inner next) => (scanSlices next).map (inner :: ·)
termination_by rest.length
decreasing_by exact round?_shorter _h

theorem scanSlices_ended (h : round? rest = some .ended) : scanSlices rest = some [] := by
  unfold scanSlices
  split <;> simp_all

theorem scanSlices_found {inner : String} (h : round? rest = some (.found inner next)) :
    scanSlices rest = (scanSlices next).map (inner :: ·) := by
  rw [scanSlices]
  split <;> simp_all

-- ---------------------------------------------------------------------------
-- The placeholders of a segment
-- ---------------------------------------------------------------------------

theorem placeholders_plain (behind : List Char) (h : '\x7b' ∉ before) :
    placeholders none (before ++ behind) = placeholders none behind := by
  induction before with
  | nil => rfl
  | cons c rest ih =>
    obtain ⟨hc, hrest⟩ := not_or.mp (mt List.mem_cons.mpr h)
    have hne : (c == '\x7b') = false := by simpa using Ne.symm hc
    rw [List.cons_append, placeholders, hne]
    exact ih hrest

theorem placeholders_opened {inner : List Char} (opened behind : List Char) (h : '\x7d' ∉ inner) :
    placeholders (some opened) (inner ++ behind) =
      placeholders (some (inner.reverse ++ opened)) behind := by
  induction inner generalizing opened with
  | nil => rfl
  | cons c rest ih =>
    obtain ⟨hc, hrest⟩ := not_or.mp (mt List.mem_cons.mpr h)
    have hne : (c == '\x7d') = false := by simpa using Ne.symm hc
    rw [List.cons_append, placeholders, hne, List.reverse_cons, List.append_assoc]
    exact ih (c :: opened) hrest

theorem placeholders_unclosed (hb : '\x7b' ∉ before) (hc : '\x7d' ∉ behind) :
    placeholders none (before ++ '\x7b' :: behind) = [] := by
  have h := placeholders_opened [] [] hc
  rw [List.append_nil] at h
  rw [placeholders_plain _ hb]
  exact h

theorem placeholders_placeholder {inner : List Char} (hb : '\x7b' ∉ before) (hi : '\x7d' ∉ inner) :
    placeholders none (before ++ '\x7b' :: (inner ++ '\x7d' :: next)) =
      inner :: placeholders none next := by
  rw [placeholders_plain _ hb]
  refine (placeholders_opened [] ('\x7d' :: next) hi).trans ?_
  simp [placeholders]

theorem scanSlices_eq (text : List Char) :
    scanSlices (String.ofList text) = some ((placeholders none text).map String.ofList) := by
  cases cut text with
  | plain hp =>
    have hnone : placeholders none text = [] :=
      calc placeholders none text = placeholders none (text ++ []) := by rw [List.append_nil]
        _ = [] := placeholders_plain [] hp
    rw [scanSlices_ended (round?_plain hp), hnone, List.map_nil]
  | unclosed hb hc =>
    rw [scanSlices_ended (round?_unclosed hb hc), placeholders_unclosed hb hc, List.map_nil]
  | @placeholder before inner next hb hi =>
    rw [scanSlices_found (round?_placeholder hb hi), placeholders_placeholder hb hi, List.map_cons,
      scanSlices_eq next, Option.map_some]
termination_by text.length
decreasing_by
  simp only [List.length_append, List.length_cons]
  omega

-- ---------------------------------------------------------------------------
-- Whole templates
-- ---------------------------------------------------------------------------

def slicedNames (segment : List Char) : Option (List (List Char)) :=
  if segment.head? = some ':' then some [trimName segment.tail]
  else (scanSlices (String.ofList segment)).map fun inners =>
    inners.map fun inner => trimName (placeholderName inner.toList)

def slicedVariables (route : String) : Option (List String) :=
  ((route.toList.splitOn '/').mapM slicedNames).map fun names =>
    (names.flatten.filter (· != [])).eraseDups.map String.ofList

theorem segmentNames_of_head {segment : List Char} (h : segment.head? ≠ some ':') :
    segmentNames segment =
      (placeholders none segment).map fun inner => trimName (placeholderName inner) := by
  unfold segmentNames
  split
  · simp at h
  · rfl

theorem slicedNames_eq (segment : List Char) :
    slicedNames segment = some (segmentNames segment) := by
  unfold slicedNames
  split
  · next h =>
    obtain ⟨name, rfl⟩ := List.head?_eq_some_iff.mp h
    rfl
  · next h =>
    rw [scanSlices_eq, segmentNames_of_head h, Option.map_some, List.map_map]
    simp only [Function.comp_def, String.toList_ofList]

theorem slicedVariables_eq (route : String) :
    slicedVariables route = some (variableNames route) := by
  have hall : (route.toList.splitOn '/').mapM slicedNames =
      some ((route.toList.splitOn '/').map segmentNames) := by
    rw [show slicedNames = fun segment => some (segmentNames segment) from funext slicedNames_eq]
    exact List.mapM_pure
  rw [slicedVariables, hall, Option.map_some]
  rfl

end EndpointInference.Route
