import EndpointInference.Proofs.LoadedOptions

/-!
# Which types are named like services

A text of suffixes never gives an empty one, because empty parts are left out. A list of suffixes is
taken as it is, so an empty text in it is a suffix, and something stands before it in every name.
`service_names_exact`: with no empty text in the list that counts, all suffixes say something about
the names that end in them; with one, every type that has a name is named like a service.
-/

namespace EndpointInference

-- ---------------------------------------------------------------------------
-- Names of services
-- ---------------------------------------------------------------------------

namespace WellKnown

def ProperlyExtends (name suffix : String) : Prop :=
  ∃ front, front ≠ "" ∧ name = front ++ suffix

structure DatabaseContext (name : String) : Prop where
  context : "Context".toList <:+ name.toList
  database : "Db".toList <:+: name.toList

theorem holdsPart_iff {part cs : List Char} : holdsPart part cs = true ↔ part <:+: cs := by
  induction cs with
  | nil => rw [holdsPart, List.isEmpty_iff, List.infix_nil]
  | cons c rest ih =>
    rw [holdsPart, Bool.or_eq_true, List.isPrefixOf_iff_prefix, ih, List.infix_cons_iff]

theorem properlyExtends_iff {name suffix : String} :
    (suffix.utf8ByteSize < name.utf8ByteSize && suffix.toList.isSuffixOf name.toList) = true ↔
      ProperlyExtends name suffix := by
  rw [Bool.and_eq_true, decide_eq_true_iff, List.isSuffixOf_iff_suffix]
  constructor
  · rintro ⟨hlt, front, hf⟩
    have hname : name = String.ofList front ++ suffix := by
      rw [← String.ofList_toList (s := name), ← hf, String.ofList_append, String.ofList_toList]
    refine ⟨String.ofList front, fun he => ?_, hname⟩
    rw [he, String.empty_append] at hname
    exact absurd (hname ▸ hlt) (Nat.lt_irrefl _)
  · rintro ⟨front, hne, rfl⟩
    have hpos : 0 < front.utf8ByteSize := by
      refine Nat.pos_of_ne_zero fun hz => hne ?_
      exact String.utf8ByteSize_eq_zero_iff.mp hz
    rw [String.utf8ByteSize_append, String.toList_append]
    exact ⟨Nat.lt_add_of_pos_left hpos, List.suffix_append _ _⟩

theorem hasServiceName_iff {known : WellKnown} {ty : TypeRef} :
    known.hasServiceName ty = true ↔
      (∃ suffix ∈ known.serviceSuffixes, ProperlyExtends ty.name suffix) ∨
        DatabaseContext ty.name := by
  rw [hasServiceName, Bool.or_eq_true, List.any_eq_true, Bool.and_eq_true,
    List.isSuffixOf_iff_suffix, holdsPart_iff]
  simp only [properlyExtends_iff]
  exact or_congr_right ⟨fun h => ⟨h.1, h.2⟩, fun h => ⟨h.context, h.database⟩⟩

theorem properlyExtends_empty_iff {name : String} : ProperlyExtends name "" ↔ name ≠ "" := by
  constructor
  · rintro ⟨front, hne, rfl⟩
    rwa [String.append_empty]
  · intro h
    exact ⟨name, h, String.append_empty.symm⟩

theorem ne_empty_of_hasServiceName {known : WellKnown} {ty : TypeRef}
    (h : known.hasServiceName ty = true) : ty.name ≠ "" := by
  intro he
  obtain ⟨suffix, -, front, hne, hname⟩ | hd := hasServiceName_iff.mp h
  · rw [he] at hname
    exact hne (String.append_eq_empty_iff.mp hname.symm).1
  · have hcontext := hd.context
    rw [he] at hcontext
    cases List.suffix_nil.mp hcontext

theorem hasServiceName_of_empty_mem {known : WellKnown} (h : "" ∈ known.serviceSuffixes)
    {ty : TypeRef} : known.hasServiceName ty = true ↔ ty.name ≠ "" :=
  ⟨ne_empty_of_hasServiceName, fun hne =>
    hasServiceName_iff.mpr (.inl ⟨"", h, properlyExtends_empty_iff.mpr hne⟩)⟩

end WellKnown

-- ---------------------------------------------------------------------------
-- Empty suffixes
-- ---------------------------------------------------------------------------

theorem ConfigValue.empty_not_mem_textParts (text : String) : "" ∉ textParts text := by
  intro h
  obtain ⟨part, hm, he⟩ := List.mem_map.mp h
  have hne : part ≠ [] := by simpa using (List.mem_filter.mp hm).2
  exact hne (String.ofList_eq_empty_iff.mp he)

namespace Options

open Environment (Winning)

def ListsEmptySuffix (sources : List PropertySource) (vars : Variables) : Prop :=
  ∃ items, Winning sources vars serviceSuffixesKey (.array items) ∧ .text "" ∈ items

section
variable {sources : List PropertySource} {vars : Variables} {options : Options}

theorem empty_mem_given_iff {given : List String} (h : SuffixesGiven sources vars given) :
    "" ∈ given ↔ ListsEmptySuffix sources vars := by
  cases h with
  | @list items hw =>
    rw [List.mem_filterMap]
    simp only [ConfigValue.text?_eq_some_iff, exists_eq_right]
    refine ⟨fun hm => ⟨items, hw, hm⟩, ?_⟩
    rintro ⟨others, ho, hm⟩
    cases hw.unique ho
    exact hm
  | parts hw =>
    refine iff_of_false (ConfigValue.empty_not_mem_textParts _) ?_
    rintro ⟨items, hi, -⟩
    cases hw.unique hi
  | nothing hl ht =>
    refine iff_of_false List.not_mem_nil ?_
    rintro ⟨items, hi, -⟩
    exact hl items hi

theorem Loaded.empty_mem_iff (h : Loaded sources vars options) :
    "" ∈ options.wellKnown.serviceSuffixes ↔ ListsEmptySuffix sources vars := by
  obtain ⟨given, hgiven, hs⟩ := h.suffixes
  have hdefault : "" ∉ ({} : WellKnown).serviceSuffixes := by decide
  rw [hs, List.mem_append, List.mem_eraseDups, List.mem_filter, ← empty_mem_given_iff hgiven]
  simp [hdefault]

end

open WellKnown in
/-- Whatever is configured, if options are loaded: an empty suffix is among theirs exactly if the
suffixes are given as a list with an empty text in it. Without such a list, no suffix is empty, and
a type is named like a service exactly if its name properly extends a suffix that is not empty, or
is that of a context of a database. With such a list, every type with a name is named like one. -/
theorem service_names_exact (sources : List PropertySource) (vars : Variables) (options : Options)
    (h : ofEnvironment (Environment.ofSources sources) vars = .ok options) :
    ("" ∈ options.wellKnown.serviceSuffixes ↔ ListsEmptySuffix sources vars) ∧
    (¬ListsEmptySuffix sources vars →
      (∀ suffix ∈ options.wellKnown.serviceSuffixes, suffix ≠ "") ∧
      ∀ ty, options.wellKnown.hasServiceName ty = true ↔
        (∃ suffix ∈ options.wellKnown.serviceSuffixes,
          suffix ≠ "" ∧ ProperlyExtends ty.name suffix) ∨ DatabaseContext ty.name) ∧
    (ListsEmptySuffix sources vars →
      ∀ ty, options.wellKnown.hasServiceName ty = true ↔ ty.name ≠ "") := by
  have hempty := (loaded_of_ofEnvironment h).empty_mem_iff
  refine ⟨hempty, fun hno => ?_, fun hlist ty => hasServiceName_of_empty_mem (hempty.mpr hlist)⟩
  have hne : ∀ suffix ∈ options.wellKnown.serviceSuffixes, suffix ≠ "" := by
    rintro suffix hm rfl
    exact hno (hempty.mp hm)
  refine ⟨hne, fun ty => hasServiceName_iff.trans (or_congr_left ?_)⟩
  exact exists_congr fun suffix => and_congr_right fun hm => (and_iff_right (hne suffix hm)).symm

def suffixesText : PropertySource :=
  .ofProperties "inline" [(serviceSuffixesKey, .text "Gateway, ,Store,")]

theorem service_names_exact_text :
    ∃ options, ofEnvironment (Environment.ofSources [suffixesText]) [] = .ok options ∧
      ¬ListsEmptySuffix [suffixesText] [] ∧
      (∀ suffix ∈ options.wellKnown.serviceSuffixes, suffix ≠ "") ∧
      options.wellKnown.hasServiceName (.named "PaymentGateway") = true ∧
      options.wellKnown.hasServiceName (.named "Gateway") = false := by
  let options : Options := { wellKnown := { serviceSuffixes :=
    ({} : WellKnown).serviceSuffixes ++ ["Gateway", "Store"] } }
  have hload : ofEnvironment (Environment.ofSources [suffixesText]) [] = .ok options := by
    rw [Environment.ofSources_single]
    rfl
  obtain ⟨hempty, hnone, -⟩ := service_names_exact [suffixesText] [] options hload
  have hno : ¬ListsEmptySuffix [suffixesText] [] := mt hempty.mpr (by decide)
  exact ⟨options, hload, hno, (hnone hno).1, by decide, by decide⟩

theorem empty_suffix_names_all :
    ∃ options, ofEnvironment (Environment.ofSources [.ofToml "application.toml" (.table
        [("chimera", .table [("contract", .table
          [("service-suffixes", .array [.text "", .text "Gateway"])])])])]) [] = .ok options ∧
      "" ∈ options.wellKnown.serviceSuffixes ∧
      options.wellKnown.hasServiceName (.named "CreateUser") = true ∧
      ∀ suffix ∈ options.wellKnown.serviceSuffixes, suffix ≠ "" →
        ¬suffix.toList <:+ "CreateUser".toList := by
  rw [Environment.ofSources_single]
  exact ⟨_, rfl, by decide⟩

end Options

end EndpointInference
