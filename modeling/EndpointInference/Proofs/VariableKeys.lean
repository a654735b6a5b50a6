import EndpointInference.Config.Environment
import Mathlib.Data.List.Basic

/-!
# Keys of variables

Behind its beginning, a variable is written in capitals, digits and underscores, and its key in
small letters, digits and hyphens. Each character of one alphabet is written in the other, and back
(`variableChar_keyChar`, `keyChar_variableChar`). Plain characters have plain case forms, so
variables and keys are written character by character (`variableOfKey_key`,
`keyOfVariable?_variable`).
`keys_read_back`: whatever variables start with, one that is listed by its key is found by that key.
-/

namespace EndpointInference

-- ---------------------------------------------------------------------------
-- Case forms of plain characters
-- ---------------------------------------------------------------------------

namespace Text

theorem upperForm_of_plain {c : Char} (h : c.toNat < 0x80) : upperForm c = [c.toUpper] :=
  if_pos h

theorem toUpper_of_plain {cs : List Char} (h : ∀ c ∈ cs, c.toNat < 0x80) :
    toUpper (String.ofList cs) = String.ofList (cs.map Char.toUpper) := by
  have hforms : cs.flatMap upperForm = cs.map Char.toUpper := by
    rw [List.map_eq_flatMap]
    exact List.flatMap_congr fun c hc => upperForm_of_plain (h c hc)
  rw [toUpper, String.toList_ofList, hforms]

theorem lowerAfter_of_plain {cs : List Char} (h : ∀ c ∈ cs, c.toNat < 0x80) (before : List Char) :
    lowerAfter before cs = cs.map Char.toLower := by
  induction cs generalizing before with
  | nil => rfl
  | cons c rest ih =>
    obtain ⟨hc, hrest⟩ := List.forall_mem_cons.mp h
    -- the sigma, whose form depends on what is around it, is not plain
    have hsigma : (c == 'Σ') = false := by
      refine beq_false_of_ne fun he => ?_
      rw [he] at hc
      exact absurd hc (by decide)
    have hform : lowerForm c = [c.toLower] := if_pos hc
    simp only [lowerAfter, hsigma, hform, ih hrest]
    rfl

theorem toLower_of_plain {cs : List Char} (h : ∀ c ∈ cs, c.toNat < 0x80) :
    toLower (String.ofList cs) = String.ofList (cs.map Char.toLower) := by
  rw [toLower, String.toList_ofList, lowerAfter_of_plain h]

end Text

-- ---------------------------------------------------------------------------
-- Characters of variables and of keys
-- ---------------------------------------------------------------------------

def variableChars : List Char :=
  "ABCDEFGHIJKLMNOPQRSTUVWXYZ0123456789_".toList

def keyChars : List Char :=
  "abcdefghijklmnopqrstuvwxyz0123456789-".toList

def keyChar (c : Char) : Char :=
  if c.toLower == '_' then '-' else c.toLower

def variableChar (c : Char) : Char :=
  (if c == '.' || c == '-' then '_' else c).toUpper

theorem forall_mem_of_all {alphabet : List Char} {p : Char → Prop} [DecidablePred p]
    (h : (alphabet.all fun c => decide (p c)) = true) : ∀ c ∈ alphabet, p c := by
  simpa using h

theorem plain_of_mem_variableChars : ∀ c ∈ variableChars, c.toNat < 0x80 :=
  forall_mem_of_all (by decide)

theorem plain_of_mem_keyChars : ∀ c ∈ keyChars, c.toNat < 0x80 :=
  forall_mem_of_all (by decide)

theorem variableChar_keyChar :
    ∀ c ∈ variableChars, keyChar c ∈ keyChars ∧ variableChar (keyChar c) = c :=
  forall_mem_of_all (by decide)

theorem keyChar_variableChar :
    ∀ c ∈ keyChars, variableChar c ∈ variableChars ∧ keyChar (variableChar c) = c :=
  forall_mem_of_all (by decide)

theorem rewritten_and_back {cs alphabet other : List Char} {f g : Char → Char}
    (h : ∀ c ∈ alphabet, f c ∈ other ∧ g (f c) = c) (hs : cs ⊆ alphabet) :
    cs.map f ⊆ other ∧ (cs.map f).map g = cs := by
  constructor
  · intro c hc
    obtain ⟨own, hm, rfl⟩ := List.mem_map.mp hc
    exact (h own (hs hm)).1
  · rw [List.map_map]
    exact (List.map_congr_left fun c hc => (h c (hs hc)).2).trans (List.map_id cs)

-- ---------------------------------------------------------------------------
-- Variables and keys
-- ---------------------------------------------------------------------------

/-- Variables that start so and go on in capitals, digits and underscores. -/
def PlainVariable (start name : String) : Prop :=
  ∃ rest, name = start ++ String.ofList rest ∧ rest ⊆ variableChars

def PlainKey (key : String) : Prop :=
  ∃ rest, key = String.ofList (keyRoot ++ rest) ∧ rest ⊆ keyChars

theorem strip?_append (beginning rest : List Char) : strip? beginning (beginning ++ rest) =
    some rest := by
  have hp : beginning.isPrefixOf (beginning ++ rest) = true :=
    List.isPrefixOf_iff_prefix.mpr (List.prefix_append _ _)
  rw [strip?, if_pos hp, List.drop_left]

theorem strip?_eq_some_iff {beginning cs rest : List Char} :
    strip? beginning cs = some rest ↔ cs = beginning ++ rest := by
  constructor
  · intro h
    unfold strip? at h
    split at h
    · next hp =>
      obtain ⟨behind, rfl⟩ := List.isPrefixOf_iff_prefix.mp hp
      rw [List.drop_left] at h
      rw [Option.some.inj h]
    · cases h
  · rintro rfl
    exact strip?_append beginning rest

section
variable {rest : List Char}

theorem variableOfKey_key (start : String) (h : rest ⊆ keyChars) :
    variableOfKey start (String.ofList (keyRoot ++ rest)) =
      start ++ String.ofList (rest.map variableChar) := by
  have hplain : ∀ c ∈ rest.map fun c => if c == '.' || c == '-' then '_' else c,
      c.toNat < 0x80 := by
    intro c hc
    obtain ⟨own, hm, rfl⟩ := List.mem_map.mp hc
    split
    · decide
    · exact plain_of_mem_keyChars own (h hm)
  simp only [variableOfKey, String.toList_ofList, strip?_append, Option.getD_some,
    Text.toUpper_of_plain hplain, List.map_map]
  rfl

theorem keyOfVariable?_variable (start : String) (h : rest ⊆ variableChars) :
    keyOfVariable? start (start ++ String.ofList rest) =
      some (String.ofList (keyRoot ++ rest.map keyChar)) := by
  have hplain : ∀ c ∈ rest, c.toNat < 0x80 := fun c hc => plain_of_mem_variableChars c (h hc)
  simp only [keyOfVariable?, String.toList_append, String.toList_ofList, strip?_append,
    Option.map_some, Text.toLower_of_plain hplain, List.map_map]
  rfl

end

section
variable {start name other : String}

theorem PlainVariable.exists_key (h : PlainVariable start name) :
    ∃ key, keyOfVariable? start name = some key ∧ PlainKey key ∧
      variableOfKey start key = name := by
  obtain ⟨rest, rfl, hrest⟩ := h
  obtain ⟨hkeys, hback⟩ := rewritten_and_back variableChar_keyChar hrest
  refine ⟨_, keyOfVariable?_variable start hrest, ⟨_, rfl, hkeys⟩, ?_⟩
  rw [variableOfKey_key start hkeys, hback]

theorem PlainKey.variable_back {key : String} (h : PlainKey key) (start : String) :
    PlainVariable start (variableOfKey start key) ∧
      keyOfVariable? start (variableOfKey start key) = some key := by
  obtain ⟨rest, rfl, hrest⟩ := h
  obtain ⟨hvariables, hback⟩ := rewritten_and_back keyChar_variableChar hrest
  rw [variableOfKey_key start hrest]
  refine ⟨⟨_, rfl, hvariables⟩, ?_⟩
  rw [keyOfVariable?_variable start hvariables, hback]

theorem PlainVariable.eq_of_key_eq (h : PlainVariable start name)
    (ho : PlainVariable start other)
    (hk : keyOfVariable? start name = keyOfVariable? start other) : name = other := by
  obtain ⟨key, hkey, -, hname⟩ := h.exists_key
  obtain ⟨key', hkey', -, hother⟩ := ho.exists_key
  rw [← hname, ← hother, Option.some.inj (hkey.symm.trans (hk.trans hkey'))]

end

-- ---------------------------------------------------------------------------
-- The source of variables
-- ---------------------------------------------------------------------------

namespace PropertySource

section
variable {start name value key : String} {vars : Variables}

theorem mem_keys_ofVariables :
    key ∈ (ofVariables start).keys vars ↔
      ∃ entry ∈ vars, keyOfVariable? start entry.1 = some key := by
  simp only [keys, ofVariables, List.mem_mergeSort, List.mem_filterMap]

theorem isPrefix_of_keyOfVariable? (h : keyOfVariable? start name = some key) :
    start.toList <+: name.toList := by
  obtain ⟨rest, hs, -⟩ := Option.map_eq_some_iff.mp h
  exact ⟨rest, (strip?_eq_some_iff.mp hs).symm⟩

theorem read_back_of_plain (hp : PlainVariable start name) (hv : vars.lookup name = some value) :
    ∃ key ∈ (ofVariables start).keys vars, keyOfVariable? start name = some key ∧
      (ofVariables start).find? vars key = some (.text value) := by
  obtain ⟨key, hk, -, hback⟩ := hp.exists_key
  have hfind : (ofVariables start).find? vars key =
      (vars.lookup (variableOfKey start key)).map .text := rfl
  have hm : (name, value) ∈ vars := by
    obtain ⟨before, after, rfl, -⟩ := List.lookup_eq_some_iff.mp hv
    exact List.mem_append_right _ List.mem_cons_self
  refine ⟨key, mem_keys_ofVariables.mpr ⟨(name, value), hm, hk⟩, hk, ?_⟩
  rw [hfind, hback, hv, Option.map_some]

end

end PropertySource

open PropertySource in
/-- Whatever variables start with, the key of a plain variable is plain and leads back to it, and so
is and does the variable of a plain key. So two plain variables never share a key. In any set of
variables, a plain one is listed by its key and its value is found by that key. Where all that start
so are plain, these are all keys that are listed, so each of them is found. -/
theorem keys_read_back (start : String) :
    (∀ name, PlainVariable start name → ∃ key, keyOfVariable? start name = some key ∧
      PlainKey key ∧ variableOfKey start key = name) ∧
    (∀ key, PlainKey key → PlainVariable start (variableOfKey start key) ∧
      keyOfVariable? start (variableOfKey start key) = some key) ∧
    (∀ name other, PlainVariable start name → PlainVariable start other → name ≠ other →
      keyOfVariable? start name ≠ keyOfVariable? start other) ∧
    ∀ vars : Variables,
      (∀ name value, PlainVariable start name → vars.lookup name = some value →
        ∃ key ∈ (ofVariables start).keys vars, keyOfVariable? start name = some key ∧
          (ofVariables start).find? vars key = some (.text value)) ∧
      ((∀ entry ∈ vars, start.toList <+: entry.1.toList → PlainVariable start entry.1) →
        ∀ key ∈ (ofVariables start).keys vars, ∃ name value, vars.lookup name = some value ∧
          keyOfVariable? start name = some key ∧
          (ofVariables start).find? vars key = some (.text value)) := by
  refine ⟨fun name h => h.exists_key, fun key h => h.variable_back start,
    fun name other h ho => mt (h.eq_of_key_eq ho),
    fun vars => ⟨fun name value => read_back_of_plain, fun hplain key hm => ?_⟩⟩
  obtain ⟨entry, he, hk⟩ := mem_keys_ofVariables.mp hm
  obtain ⟨value, hv⟩ : ∃ value, vars.lookup entry.1 = some value :=
    Option.isSome_iff_exists.mp (List.lookup_isSome_iff.mpr ⟨entry, he, beq_self_eq_true _⟩)
  obtain ⟨key', -, hk', hfind⟩ :=
    read_back_of_plain (hplain entry he (isPrefix_of_keyOfVariable? hk)) hv
  obtain rfl := Option.some.inj (hk'.symm.trans hk)
  exact ⟨entry.1, value, hv, hk, hfind⟩

end EndpointInference
