import EndpointInference.Config.Environment
import EndpointInference.Proofs.Lists
import Mathlib.Data.List.Induction
import Mathlib.Data.List.Pairwise

/-!
# Which layer counts

Sources are sorted again whenever one is added. Of the sources that were added, in whatever order,
those of one priority still stand as they were added (`filter_ofSources`), and all stand by priority
(`sorted_ofSources`). So the first that has a value for a key is the one that `Wins` among all that
were added, and what is asked for a key depends on the value of that one (`layered_lookup_exact`).
-/

namespace EndpointInference

namespace PropertySource

theorem precedes_iff {source other : PropertySource} :
    source.precedes other = true ↔ other.priority ≤ source.priority := by
  simp [precedes]

theorem precedes_trans (a b c : PropertySource) (hab : a.precedes b = true)
    (hbc : b.precedes c = true) : a.precedes c = true :=
  precedes_iff.mpr (Int.le_trans (precedes_iff.mp hbc) (precedes_iff.mp hab))

theorem precedes_total (a b : PropertySource) : (a.precedes b || b.precedes a) = true := by
  simpa [precedes_iff] using Int.le_total b.priority a.priority

def Defines (source : PropertySource) (vars : Variables) (key : String) : Prop :=
  (source.find? vars key).isSome = true

theorem not_defines_iff {source : PropertySource} :
    ¬source.Defines vars key ↔ source.find? vars key = none := by
  simp [Defines]

/-- Two sources of the same priority of which at most one has a value for the key, or any two of
different priorities. -/
def Apart (vars : Variables) (key : String) (source other : PropertySource) : Prop :=
  source.priority = other.priority → ¬(source.Defines vars key ∧ other.Defines vars key)

instance (vars : Variables) (key : String) : Std.Symm (Apart vars key) where
  symm _ _ h he hd := h he.symm hd.symm

/-- Of the sources in this order, the one in the middle has a value for the key, none that has one
is of a higher priority, and none of those before it that have one is of the same. -/
structure Wins (vars : Variables) (key : String) (before : List PropertySource)
    (source : PropertySource) (after : List PropertySource) : Prop where
  defines : source.Defines vars key
  highest : ∀ other ∈ before ++ source :: after, other.Defines vars key →
    other.priority ≤ source.priority
  first : ∀ other ∈ before, other.Defines vars key → other.priority ≠ source.priority

theorem Wins.not_before (first : Wins vars key before source after)
    (second : Wins vars key before' source' after')
    (h : before ++ source :: after = before' ++ source' :: after') : source ∉ before' := by
  intro hm
  have hle : source.priority ≤ source'.priority :=
    second.highest source (List.mem_append_left _ hm) first.defines
  have hge : source'.priority ≤ source.priority := by
    refine first.highest source' ?_ second.defines
    rw [h]
    exact List.mem_append_right _ List.mem_cons_self
  exact second.first source hm first.defines (Int.le_antisymm hle hge)

theorem Wins.unique (first : Wins vars key before source after)
    (second : Wins vars key before' source' after')
    (h : before ++ source :: after = before' ++ source' :: after') : source = source' := by
  rcases List.append_eq_append_iff.mp h with ⟨middle, rfl, hm⟩ | ⟨middle, rfl, hm⟩
  · cases middle with
    | nil => exact (List.cons.inj hm).1
    | cons next rest =>
      obtain ⟨rfl, -⟩ := List.cons.inj hm
      exact absurd (List.mem_append_right before List.mem_cons_self) (first.not_before second h)
  · cases middle with
    | nil => exact (List.cons.inj hm).1.symm
    | cons next rest =>
      obtain ⟨rfl, -⟩ := List.cons.inj hm
      exact absurd (List.mem_append_right before' List.mem_cons_self)
        (second.not_before first h.symm)

end PropertySource

-- ---------------------------------------------------------------------------
-- The wrong kind of value
-- ---------------------------------------------------------------------------

theorem ConfigValue.conversions_of_not_text {value : ConfigValue}
    (h : ∀ text, value ≠ .text text) :
    value.text? = none ∧ (value.int? = none ∨ ∃ number, value = .int number) ∧
      (value.bool? = none ∨ ∃ flag, value = .bool flag) ∧
      (value.texts? = none ∨ ∃ items, value = .array items) := by
  cases value with
  | text text => exact absurd rfl (h text)
  | int number => simp [text?, bool?, texts?]
  | float number => simp [text?, int?, bool?, texts?]
  | bool flag => simp [text?, int?, texts?]
  | array items => simp [text?, int?, bool?]
  | object entries => simp [text?, int?, bool?, texts?]

-- ---------------------------------------------------------------------------
-- The sources after any number were added
-- ---------------------------------------------------------------------------

namespace Environment

def ofSources (sources : List PropertySource) : Environment :=
  sources.foldl add {}

theorem ofSources_concat (sources : List PropertySource) (source : PropertySource) :
    ofSources (sources ++ [source]) = (ofSources sources).add source := by
  simp [ofSources]

theorem ofSources_single (source : PropertySource) : ofSources [source] = ⟨[source]⟩ := by
  simp [ofSources, add]

theorem sorted_ofSources (sources : List PropertySource) :
    (ofSources sources).sources.Pairwise fun a b => b.priority ≤ a.priority := by
  cases sources using List.reverseRecOn with
  | nil => exact .nil
  | append_singleton sources source =>
    rw [ofSources_concat]
    exact (List.pairwise_mergeSort PropertySource.precedes_trans PropertySource.precedes_total _).imp
      PropertySource.precedes_iff.mp

theorem filter_ofSources (sources : List PropertySource) (priority : Int) :
    (ofSources sources).sources.filter (·.priority == priority) =
      sources.filter (·.priority == priority) := by
  induction sources using List.reverseRecOn with
  | nil => rfl
  | append_singleton sources source ih =>
    have htied : ∀ a b : PropertySource, (a.priority == priority) = true →
        (b.priority == priority) = true → a.precedes b = true := by
      intro a b ha hb
      have hsame : b.priority = a.priority := (eq_of_beq hb).trans (eq_of_beq ha).symm
      exact PropertySource.precedes_iff.mpr (Int.le_of_eq hsame)
    rw [ofSources_concat, add, filter_mergeSort_of_tied PropertySource.precedes_trans
      PropertySource.precedes_total htied, List.filter_append, List.filter_append, ih]

theorem mem_ofSources {sources : List PropertySource} :
    source ∈ (ofSources sources).sources ↔ source ∈ sources := by
  have h := congrArg (source ∈ ·) (filter_ofSources sources source.priority)
  simpa using h

-- ---------------------------------------------------------------------------
-- The value of a key
-- ---------------------------------------------------------------------------

section
variable {sources : List PropertySource}

theorem get?_eq_none_iff :
    (ofSources sources).get? vars key = none ↔
      ∀ source ∈ sources, source.find? vars key = none := by
  simp only [get?, List.findSome?_eq_none_iff, mem_ofSources]

theorem exists_wins (h : (ofSources sources).get? vars key = some value) :
    ∃ before source after, sources = before ++ source :: after ∧
      PropertySource.Wins vars key before source after ∧ source.find? vars key = some value := by
  obtain ⟨above, source, below, hs, hv, habove⟩ := List.findSome?_eq_some_iff.mp h
  -- the sources of its priority that were added before it are among those above it
  have hfilter := filter_ofSources sources source.priority
  rw [hs, List.filter_append, List.filter_cons_of_pos (by simp)] at hfilter
  obtain ⟨earlier, rest, rfl, hearlier, hrest⟩ := List.filter_eq_append_iff.mp hfilter.symm
  obtain ⟨others, after, rfl, hothers, -, -⟩ := List.filter_eq_cons_iff.mp hrest
  refine ⟨earlier ++ others, source, after, by simp, ⟨by simp [PropertySource.Defines, hv], ?_, ?_⟩,
    hv⟩
  · intro other hm hd
    have hsorted := sorted_ofSources (earlier ++ (others ++ source :: after))
    have hm' : other ∈ above ++ source :: below := by
      rw [← hs, mem_ofSources]
      simpa using hm
    rw [hs] at hsorted
    rcases List.mem_append.mp hm' with ha | hb
    · exact absurd hd (PropertySource.not_defines_iff.mpr (habove other ha))
    · rcases List.mem_cons.mp hb with rfl | hb
      · exact Int.le_refl _
      · exact List.rel_of_pairwise_cons (List.pairwise_append.mp hsorted).2.1 hb
  · intro other hm hd hp
    rcases List.mem_append.mp hm with hm | hm
    · have hf : other ∈ earlier.filter (·.priority == source.priority) :=
        List.mem_filter.mpr ⟨hm, by simp [hp]⟩
      rw [hearlier] at hf
      have ha : other ∈ above := (List.mem_filter.mp hf).1
      exact absurd hd (PropertySource.not_defines_iff.mpr (habove other ha))
    · exact hothers other hm (by simp [hp])

theorem get?_eq_some_iff :
    (ofSources sources).get? vars key = some value ↔
      ∃ before source after, sources = before ++ source :: after ∧
        PropertySource.Wins vars key before source after ∧ source.find? vars key = some value := by
  refine ⟨exists_wins, ?_⟩
  rintro ⟨before, source, after, hs, hw, hv⟩
  cases hg : (ofSources sources).get? vars key with
  | none =>
    have hm : source ∈ sources := hs ▸ List.mem_append_right _ List.mem_cons_self
    cases hv.symm.trans (get?_eq_none_iff.mp hg source hm)
  | some other =>
    obtain ⟨before', source', after', hs', hw', hv'⟩ := exists_wins hg
    obtain rfl := hw'.unique hw (hs'.symm.trans hs)
    exact hv'.symm.trans hv

/-- Where no two sources of the same priority have a value, it does not matter in which order they
were added. -/
theorem get?_of_perm {others : List PropertySource} (hp : others.Perm sources)
    (ha : sources.Pairwise (PropertySource.Apart vars key)) :
    (ofSources others).get? vars key = (ofSources sources).get? vars key := by
  cases hg : (ofSources sources).get? vars key with
  | none => exact get?_eq_none_iff.mpr fun source hm => get?_eq_none_iff.mp hg source (hp.subset hm)
  | some value =>
    obtain ⟨before, source, after, rfl, hw, hv⟩ := exists_wins hg
    have hm : source ∈ before ++ source :: after := List.mem_append_right _ List.mem_cons_self
    cases hg' : (ofSources others).get? vars key with
    | none => cases hv.symm.trans (get?_eq_none_iff.mp hg' source (hp.symm.subset hm))
    | some value' =>
      obtain ⟨before', source', after', rfl, hw', hv'⟩ := exists_wins hg'
      have hm' : source' ∈ before' ++ source' :: after' :=
        List.mem_append_right _ List.mem_cons_self
      have hle := hw.highest source' (hp.subset hm') hw'.defines
      have hge := hw'.highest source (hp.symm.subset hm) hw.defines
      have hsame : source' = source := by
        by_contra hne
        have hapart : PropertySource.Apart vars key source' source :=
          ha.forall (hp.subset hm') hm hne
        exact hapart (Int.le_antisymm hle hge) ⟨hw'.defines, hw.defines⟩
      rw [← hv, ← hv', hsame]

end

end Environment

/-- After any sources were added in any order, a key has the value of the source that wins: of those
that define it the one with the highest priority, of these the first that was added. It has none if
no source defines it. The order matters only between sources of the same priority that both define
the key. What is asked for as a text, a number, a truth value or a list is read off the value that
wins, and is absent if that value is of the wrong kind. -/
theorem layered_lookup_exact (sources : List PropertySource) (vars : Variables) (key : String) :
    let environment := Environment.ofSources sources
    (∀ value, environment.get? vars key = some value ↔
      ∃ before source after, sources = before ++ source :: after ∧
        PropertySource.Wins vars key before source after ∧ source.find? vars key = some value) ∧
    (environment.get? vars key = none ↔ ∀ source ∈ sources, source.find? vars key = none) ∧
    (∀ others : List PropertySource, others.Perm sources →
      sources.Pairwise (PropertySource.Apart vars key) →
      (Environment.ofSources others).get? vars key = environment.get? vars key) ∧
    (environment.get? vars key = none →
      environment.getText? vars key = none ∧ environment.getInt? vars key = none ∧
      environment.getBool? vars key = none ∧ environment.getTexts? vars key = none) ∧
    ∀ before source after value, sources = before ++ source :: after →
      PropertySource.Wins vars key before source after → source.find? vars key = some value →
      environment.getText? vars key = value.text? ∧
      environment.getInt? vars key = value.int? ∧
      environment.getBool? vars key = value.bool? ∧
      environment.getTexts? vars key = value.texts? ∧
      ((∀ text, value ≠ .text text) →
        environment.getText? vars key = none ∧
        (environment.getInt? vars key = none ∨ ∃ number, value = .int number) ∧
        (environment.getBool? vars key = none ∨ ∃ flag, value = .bool flag) ∧
        (environment.getTexts? vars key = none ∨ ∃ items, value = .array items)) := by
  intro environment
  refine ⟨fun value => Environment.get?_eq_some_iff, Environment.get?_eq_none_iff,
    fun others hp ha => Environment.get?_of_perm hp ha, fun hn => ?_, ?_⟩
  · simp [Environment.getText?, Environment.getInt?, Environment.getBool?, Environment.getTexts?, hn]
  · intro before source after value hs hw hv
    have hg : environment.get? vars key = some value :=
      Environment.get?_eq_some_iff.mpr ⟨before, source, after, hs, hw, hv⟩
    simp only [Environment.getText?, Environment.getInt?, Environment.getBool?,
      Environment.getTexts?, hg, Option.bind_some]
    exact ⟨trivial, trivial, trivial, trivial, ConfigValue.conversions_of_not_text⟩

end EndpointInference
