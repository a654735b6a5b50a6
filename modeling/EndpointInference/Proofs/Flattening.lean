import EndpointInference.Config.Environment
import EndpointInference.Proofs.Lists
import Mathlib.Data.List.Nodup

/-!
# The properties of a configuration file are its values by their paths

The values of a file that are not tables are its `leaves`, each with the path of keys that leads to
it. Flattening puts one leaf after the other under a key made from its path (`addToml_eq`), whatever
the keys are. Where keys are not empty and have no dots, that key is the path with dots between its
parts (`foldl_subkey_eq`), which can be taken apart again (`keyParts_joined`). So no leaf is put in
the place of another, and a key is found just where there is a leaf at its parts
(`flattening_exact`).
-/

namespace EndpointInference

-- ---------------------------------------------------------------------------
-- Values at paths
-- ---------------------------------------------------------------------------

namespace Toml.Value

def isTable : Value → Bool
  | table _ => true
  | _ => false

def at? : Value → List String → Option Value
  | value, [] => some value
  | table entries, key :: path => (entries.lookup key).bind (·.at? path)
  | _, _ :: _ => none

def leaf? (value : Value) (path : List String) : Option Value :=
  (value.at? path).filter (!·.isTable)

mutual
def leaves : Value → List (List String × Value)
  | table entries => entryLeaves entries
  | value => [([], value)]

def entryLeaves : List (String × Value) → List (List String × Value)
  | [] => []
  | (key, value) :: rest =>
    value.leaves.map (fun leaf => (key :: leaf.1, leaf.2)) ++ entryLeaves rest
end

mutual
def AllTables (P : List (String × Value) → Prop) : Value → Prop
  | table entries => P entries ∧ AllEntries P entries
  | _ => True

def AllEntries (P : List (String × Value) → Prop) : List (String × Value) → Prop
  | [] => True
  | (_, value) :: rest => AllTables P value ∧ AllEntries P rest
end

def DistinctKeys : Value → Prop :=
  AllTables fun entries => (entries.map (·.1)).Nodup

def IsPlain (key : String) : Prop :=
  key ≠ "" ∧ '.' ∉ key.toList

instance : DecidablePred IsPlain :=
  fun key => inferInstanceAs (Decidable (key ≠ "" ∧ '.' ∉ key.toList))

def PlainKeys : Value → Prop :=
  AllTables fun entries => ∀ key ∈ entries.map (·.1), IsPlain key

-- ---------------------------------------------------------------------------
-- Induction over tables
-- ---------------------------------------------------------------------------

theorem sizeOf_lt_of_mem {entry : String × Value} {entries : List (String × Value)}
    (h : entry ∈ entries) : sizeOf entry.2 < sizeOf (table entries) := by
  have hm := List.sizeOf_lt_of_mem h
  obtain ⟨key, value⟩ := entry
  simp only [Prod.mk.sizeOf_spec, table.sizeOf_spec] at hm ⊢
  omega

@[elab_as_elim]
theorem table_induction {motive : Value → Prop}
    (leaf : ∀ value, value.isTable = false → motive value)
    (table : ∀ entries, (∀ entry ∈ entries, motive entry.2) → motive (table entries))
    (value : Value) : motive value :=
  match value with
  | .table entries =>
    table entries fun entry _ => table_induction leaf table entry.2
  | .text value => leaf (.text value) rfl
  | .int value => leaf (.int value) rfl
  | .float value => leaf (.float value) rfl
  | .bool value => leaf (.bool value) rfl
  | .moment value => leaf (.moment value) rfl
  | .array items => leaf (.array items) rfl
termination_by sizeOf value
decreasing_by exact sizeOf_lt_of_mem ‹_›

theorem leaves_of_not_table {value : Value} (h : value.isTable = false) :
    value.leaves = [([], value)] := by
  cases value with
  | table entries => cases h
  | _ => rfl

theorem entryLeaves_eq (entries : List (String × Value)) :
    entryLeaves entries =
      entries.flatMap fun entry => entry.2.leaves.map fun leaf => (entry.1 :: leaf.1, leaf.2) := by
  induction entries with
  | nil => rfl
  | cons entry rest ih => rw [entryLeaves, ih, List.flatMap_cons]

theorem mem_leaves_table {entries : List (String × Value)} {path : List String} {leaf : Value} :
    (path, leaf) ∈ (table entries).leaves ↔
      ∃ key value below, (key, value) ∈ entries ∧ path = key :: below ∧
        (below, leaf) ∈ value.leaves := by
  rw [leaves, entryLeaves_eq, List.mem_flatMap]
  constructor
  · rintro ⟨⟨key, value⟩, he, hm⟩
    obtain ⟨⟨below, found⟩, hl, heq⟩ := List.mem_map.mp hm
    obtain ⟨rfl, rfl⟩ := Prod.mk.inj heq
    exact ⟨key, value, below, he, rfl, hl⟩
  · rintro ⟨key, value, below, he, rfl, hl⟩
    exact ⟨(key, value), he, List.mem_map.mpr ⟨(below, leaf), hl, rfl⟩⟩

theorem allEntries_iff {P : List (String × Value) → Prop} {entries : List (String × Value)} :
    AllEntries P entries ↔ ∀ entry ∈ entries, AllTables P entry.2 := by
  induction entries with
  | nil => simp [AllEntries]
  | cons entry rest ih => simp [AllEntries, ih]

theorem AllTables.entry {P : List (String × Value) → Prop} {entries : List (String × Value)}
    {entry : String × Value} (h : AllTables P (table entries)) (he : entry ∈ entries) : AllTables P entry.2 :=
  allEntries_iff.mp h.2 entry he

-- ---------------------------------------------------------------------------
-- Leaves and paths
-- ---------------------------------------------------------------------------

theorem at?_of_not_table {value : Value} (h : value.isTable = false) :
    value.at? path = some leaf ↔ path = [] ∧ leaf = value := by
  cases path with
  | nil => simp [at?, eq_comm]
  | cons key rest =>
    cases value with
    | table entries => cases h
    | _ => simp [at?]

theorem leaf?_eq_some_iff {value : Value} :
    value.leaf? path = some leaf ↔ value.at? path = some leaf ∧ leaf.isTable = false := by
  simp [leaf?, Option.filter_eq_some_iff]

theorem mem_leaves_iff {value : Value} (h : value.DistinctKeys) :
    (path, leaf) ∈ value.leaves ↔ value.leaf? path = some leaf := by
  rw [leaf?_eq_some_iff]
  induction value using table_induction generalizing path with
  | leaf value hv =>
    rw [leaves_of_not_table hv, at?_of_not_table hv, List.mem_singleton, Prod.mk.injEq]
    exact ⟨fun ⟨hp, hl⟩ => ⟨⟨hp, hl⟩, hl ▸ hv⟩, fun h => h.1⟩
  | table entries ih =>
    rw [mem_leaves_table]
    constructor
    · rintro ⟨key, value, below, he, rfl, hl⟩
      obtain ⟨hat, hleaf⟩ := (ih _ he (h.entry he)).mp hl
      have hlookup : entries.lookup key = some value := (lookup_eq_some_iff_mem h.1).mpr he
      exact ⟨by rw [at?, hlookup, Option.bind_some, hat], hleaf⟩
    · rintro ⟨hat, hleaf⟩
      cases path with
      | nil =>
        obtain rfl : table entries = leaf := by simpa [at?] using hat
        cases hleaf
      | cons key below =>
        rw [at?] at hat
        obtain ⟨value, hlookup, hat⟩ := Option.bind_eq_some_iff.mp hat
        have he : (key, value) ∈ entries := (lookup_eq_some_iff_mem h.1).mp hlookup
        exact ⟨key, value, below, he, rfl, (ih _ he (h.entry he)).mpr ⟨hat, hleaf⟩⟩

theorem nodup_leaves {value : Value} (h : value.DistinctKeys) :
    (value.leaves.map (·.1)).Nodup := by
  induction value using table_induction with
  | leaf value hv => simp [leaves_of_not_table hv]
  | table entries ih =>
    rw [leaves, entryLeaves_eq, List.map_flatMap, List.nodup_flatMap]
    constructor
    · intro entry he
      rw [List.map_map]
      have hinj : Function.Injective (List.cons entry.1) := List.cons_injective
      simpa [Function.comp_def] using (ih entry he (h.entry he)).map hinj
    · refine (List.pairwise_map.mp h.1).imp ?_
      -- the first keys of the paths differ
      intro first second hne path hfirst hsecond
      simp only [List.mem_map, exists_exists_and_eq_and] at hfirst hsecond
      obtain ⟨leaf, -, rfl⟩ := hfirst
      obtain ⟨other, -, heq⟩ := hsecond
      exact hne (List.cons.inj heq).1.symm

theorem plain_of_mem_leaves {value : Value} (h : value.PlainKeys)
    (hm : (path, leaf) ∈ value.leaves) : ∀ key ∈ path, IsPlain key := by
  induction value using table_induction generalizing path with
  | leaf value hv =>
    rw [leaves_of_not_table hv, List.mem_singleton] at hm
    obtain ⟨rfl, -⟩ := Prod.mk.inj hm
    simp
  | table entries ih =>
    obtain ⟨key, value, below, he, rfl, hl⟩ := mem_leaves_table.mp hm
    intro other ho
    rcases List.mem_cons.mp ho with rfl | ho
    · exact h.1 _ (List.mem_map_of_mem he)
    · exact ih _ he (h.entry he) hl other ho

end Toml.Value

-- ---------------------------------------------------------------------------
-- Keys with dots
-- ---------------------------------------------------------------------------

namespace Properties

open Toml Toml.Value

def keyParts (key : String) : List String :=
  (key.toList.splitOn '.').map String.ofList

theorem joined_keyParts (key : String) : ".".intercalate (keyParts key) = key := by
  apply String.toList_injective
  rw [String.toList_intercalate, keyParts, List.map_map]
  have hid : String.toList ∘ String.ofList = id := by
    funext cs
    simp
  rw [hid, List.map_id]
  exact List.intercalate_splitOn '.'

theorem keyParts_joined {path : List String} (hn : path ≠ []) (hp : ∀ key ∈ path, IsPlain key) :
    keyParts (".".intercalate path) = path := by
  have hsplit : (['.'].intercalate (path.map String.toList)).splitOn '.' =
      path.map String.toList := by
    apply List.splitOn_intercalate
    · intro cs hcs
      obtain ⟨key, hk, rfl⟩ := List.mem_map.mp hcs
      exact (hp key hk).2
    · simpa using hn
  have hdot : ".".toList = ['.'] := rfl
  rw [keyParts, String.toList_intercalate, hdot, hsplit, List.map_map]
  simp [Function.comp_def]

theorem foldl_subkey_of_ne_empty {table : String} (h : table ≠ "") (path : List String) :
    path.foldl subkey table = ".".intercalate (table :: path) := by
  induction path generalizing table with
  | nil => simp
  | cons key rest ih =>
    have hkey : subkey table key = table ++ "." ++ key := by
      simp [subkey, h]
    have hne : table ++ "." ++ key ≠ "" := by
      simp [h]
    rw [List.foldl_cons, hkey, ih hne, String.intercalate_cons_append,
      String.intercalate_cons_cons]

/-- From the root of a file, the key made from a path is the path with dots between its parts. -/
theorem foldl_subkey_eq {path : List String} (hp : ∀ key ∈ path, IsPlain key) :
    path.foldl subkey "" = ".".intercalate path := by
  cases path with
  | nil => simp
  | cons key rest =>
    have hkey : subkey "" key = key := by simp [subkey]
    rw [List.foldl_cons, hkey, foldl_subkey_of_ne_empty (hp key List.mem_cons_self).1]

-- ---------------------------------------------------------------------------
-- Putting leaves
-- ---------------------------------------------------------------------------

/-- Puts a leaf under the key of its path, which starts at a table with a key of its own. -/
def putLeaf (table : String) (properties : Properties) (leaf : List String × Value) : Properties :=
  properties.put (leaf.1.foldl subkey table) (.ofToml leaf.2)

mutual
theorem addToml_eq (properties : Properties) (key : String) :
    (value : Value) → addToml properties key value = value.leaves.foldl (putLeaf key) properties
  | .table entries => addTomlEntries_eq properties key entries
  | .text _ | .int _ | .float _ | .bool _ | .moment _ | .array _ => rfl

theorem addTomlEntries_eq (properties : Properties) (table : String) :
    (entries : List (String × Value)) →
      addTomlEntries properties table entries =
        (entryLeaves entries).foldl (putLeaf table) properties
  | [] => rfl
  | (key, value) :: rest => by
    rw [addTomlEntries, addTomlEntries_eq, addToml_eq, entryLeaves, List.foldl_append,
      List.foldl_map]
    rfl
end

theorem put_of_not_mem {properties : Properties} (h : key ∉ properties.map (·.1)) :
    properties.put key value = (key, value) :: properties := by
  have hfilter : properties.filter (·.1 != key) = properties := by
    refine List.filter_eq_self.mpr fun entry he => ?_
    have hne : entry.1 ≠ key := fun heq => h (heq ▸ List.mem_map_of_mem he)
    simpa using hne
  rw [put, hfilter]

theorem foldl_put_eq (added : Properties) {properties : Properties}
    (h : ((added.reverse ++ properties).map (·.1)).Nodup) :
    added.foldl (fun properties entry => properties.put entry.1 entry.2) properties =
      added.reverse ++ properties := by
  induction added generalizing properties with
  | nil => rfl
  | cons entry rest ih =>
    simp only [List.reverse_cons, List.append_assoc, List.cons_append, List.nil_append] at h ⊢
    have hnew : entry.1 ∉ properties.map (·.1) := by
      rw [List.map_append, List.map_cons] at h
      exact (List.nodup_cons.mp (List.Nodup.of_append_right h)).1
    rw [List.foldl_cons, put_of_not_mem hnew, ih h]

def ofLeaves (leaves : List (List String × Value)) : Properties :=
  leaves.map fun leaf => (".".intercalate leaf.1, .ofToml leaf.2)

theorem nodup_ofLeaves {entries : List (String × Value)} (hd : (Value.table entries).DistinctKeys)
    (hp : (Value.table entries).PlainKeys) :
    ((ofLeaves (Value.table entries).leaves).map (·.1)).Nodup := by
  have hparts : ∀ path ∈ (Value.table entries).leaves.map (·.1),
      keyParts (".".intercalate path) = path := by
    rintro path hm
    obtain ⟨⟨path, leaf⟩, hl, rfl⟩ := List.mem_map.mp hm
    refine keyParts_joined ?_ (plain_of_mem_leaves hp hl)
    obtain ⟨key, value, below, -, rfl, -⟩ := mem_leaves_table.mp hl
    simp
  have hmap : (ofLeaves (Value.table entries).leaves).map (·.1) =
      ((Value.table entries).leaves.map (·.1)).map (".".intercalate ·) := by
    simp [ofLeaves]
  rw [hmap]
  refine (nodup_leaves hd).map_on fun path hm other ho heq => ?_
  rw [← hparts path hm, ← hparts other ho, heq]

theorem ofToml_eq {entries : List (String × Value)} (hd : (Value.table entries).DistinctKeys)
    (hp : (Value.table entries).PlainKeys) :
    Properties.ofToml (.table entries) = (ofLeaves (Value.table entries).leaves).reverse := by
  have hput : (Value.table entries).leaves.foldl (putLeaf "") [] =
      (ofLeaves (Value.table entries).leaves).foldl
        (fun (properties : Properties) entry => properties.put entry.1 entry.2) [] := by
    rw [ofLeaves, List.foldl_map]
    refine List.foldl_ext _ _ _ fun properties leaf hm => ?_
    rw [putLeaf, foldl_subkey_eq (plain_of_mem_leaves hp hm)]
  have hn := nodup_ofLeaves hd hp
  rw [Properties.ofToml, addToml_eq, hput, foldl_put_eq, List.append_nil]
  simpa using hn

section
variable {entries : List (String × Value)} (hd : (Value.table entries).DistinctKeys)
  (hp : (Value.table entries).PlainKeys)
include hd hp

theorem mem_ofToml_iff {key : String} {value : ConfigValue} :
    (key, value) ∈ Properties.ofToml (.table entries) ↔
      ∃ path leaf, (Value.table entries).leaf? path = some leaf ∧
        key = ".".intercalate path ∧ value = .ofToml leaf := by
  rw [ofToml_eq hd hp, List.mem_reverse, ofLeaves, List.mem_map]
  constructor
  · rintro ⟨⟨path, leaf⟩, hm, heq⟩
    obtain ⟨rfl, rfl⟩ := Prod.mk.inj heq
    exact ⟨path, leaf, (mem_leaves_iff hd).mp hm, rfl, rfl⟩
  · rintro ⟨path, leaf, hl, rfl, rfl⟩
    exact ⟨(path, leaf), (mem_leaves_iff hd).mpr hl, rfl⟩

theorem nodup_ofToml : ((Properties.ofToml (.table entries)).map (·.1)).Nodup := by
  rw [ofToml_eq hd hp]
  simpa using nodup_ofLeaves hd hp

theorem lookup_ofToml (key : String) :
    (Properties.ofToml (.table entries)).lookup key =
      ((Value.table entries).leaf? (keyParts key)).map .ofToml := by
  refine Option.ext fun value => ?_
  rw [lookup_eq_some_iff_mem (nodup_ofToml hd hp), mem_ofToml_iff hd hp, Option.map_eq_some_iff]
  constructor
  · rintro ⟨path, leaf, hl, rfl, rfl⟩
    have hm := (mem_leaves_iff hd).mpr hl
    obtain ⟨key, value, below, -, rfl, -⟩ := mem_leaves_table.mp hm
    rw [keyParts_joined (by simp) (plain_of_mem_leaves hp hm)]
    exact ⟨leaf, hl, rfl⟩
  · rintro ⟨leaf, hl, rfl⟩
    exact ⟨keyParts key, leaf, hl, (joined_keyParts key).symm, rfl⟩

end

end Properties

open Toml.Value in
/-- For every configuration file whose tables have each key once, none of them empty or with a dot:
its properties are its values that are not tables, converted, each under its path with dots between
the keys. Looking up such a path finds the value at it, if there is one and it is no table, and a
text that is no such path is split at its dots. No two values have the same path or the same key, so
all that are put are there in the end, in the order in which they were put, the last first. -/
theorem flattening_exact (entries : List (String × Toml.Value))
    (hd : (Toml.Value.table entries).DistinctKeys) (hp : (Toml.Value.table entries).PlainKeys) :
    let root := Toml.Value.table entries
    let properties := Properties.ofToml root
    (∀ key value, (key, value) ∈ properties ↔
      ∃ path leaf, root.at? path = some leaf ∧ leaf.isTable = false ∧
        key = ".".intercalate path ∧ value = .ofToml leaf) ∧
    (∀ name priority vars path, path ≠ [] → (∀ key ∈ path, IsPlain key) →
      (PropertySource.ofToml name root priority).find? vars (".".intercalate path) =
        (root.leaf? path).map .ofToml) ∧
    (∀ name priority vars key,
      (PropertySource.ofToml name root priority).find? vars key =
        (root.leaf? (Properties.keyParts key)).map .ofToml) ∧
    (∀ path leaf, (path, leaf) ∈ root.leaves ↔ root.leaf? path = some leaf) ∧
    (root.leaves.map (·.1)).Nodup ∧
    (properties.map (·.1)).Nodup ∧
    properties.reverse = Properties.ofLeaves root.leaves := by
  intro root properties
  refine ⟨fun key value => ?_, ?_, ?_, fun path leaf => mem_leaves_iff hd, nodup_leaves hd,
    Properties.nodup_ofToml hd hp, ?_⟩
  · simp only [properties, Properties.mem_ofToml_iff hd hp, leaf?_eq_some_iff, and_assoc, root]
  · intro name priority vars path hn hplain
    have hlookup := Properties.lookup_ofToml hd hp (".".intercalate path)
    rwa [Properties.keyParts_joined hn hplain] at hlookup
  · intro name priority vars key
    exact Properties.lookup_ofToml hd hp key
  · simp only [properties, root, Properties.ofToml_eq hd hp, List.reverse_reverse]

def nestedFile : List (String × Toml.Value) :=
  [("chimera", .table
      [("contract", .table
          [("max-result-types", .int 8), ("service-suffixes", .array [.text "Gateway"])]),
       ("contracts", .bool true)]),
   ("contract", .text "own")]

open Toml.Value in
theorem flattening_exact_nested :
    (Toml.Value.table nestedFile).DistinctKeys ∧ (Toml.Value.table nestedFile).PlainKeys ∧
      (PropertySource.ofToml "application.toml" (.table nestedFile)).find? []
        "chimera.contract.max-result-types" = some (.int 8) ∧
      (PropertySource.ofToml "application.toml" (.table nestedFile)).find? [] "chimera.contract" =
        none ∧
      (Properties.ofToml (.table nestedFile)).length = 4 := by
  have hd : (Toml.Value.table nestedFile).DistinctKeys := by
    simp [nestedFile, DistinctKeys, AllTables, AllEntries]
  have hp : (Toml.Value.table nestedFile).PlainKeys := by
    simp only [nestedFile, PlainKeys, AllTables, AllEntries]
    decide
  obtain ⟨-, -, hfind, -, -, -, hall⟩ := flattening_exact nestedFile hd hp
  refine ⟨hd, hp, ?_, ?_, ?_⟩
  · rw [hfind]
    rfl
  · rw [hfind]
    rfl
  · rw [← List.length_reverse, hall]
    rfl

end EndpointInference
