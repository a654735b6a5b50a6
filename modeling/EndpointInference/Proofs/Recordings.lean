import EndpointInference.Proofs.Collector
import Mathlib.Data.List.Induction
import Mathlib.Data.List.Nodup
import Mathlib.Data.String.Basic

/-!
# What is recorded, whatever the history

A history is a sequence of calls that give errors to a collector, each of them a kind, a custom code
or a whole declaration. `recorded_outcomes_canonical`: after any history the kinds are those it
records, by name, so they do not depend on the order of the calls; the custom codes are those before
which the history has none of their text, in its order; and a call that records nothing new changes
nothing, wherever it stands.
-/

namespace EndpointInference

inductive Recording
  | kind (kind : ErrorKind)
  | custom (code : CustomErrorCode)
  | declared (declared : DeclaredErrors)

namespace Recording

def errors : Recording → DeclaredErrors
  | .kind found => { kinds := [found] }
  | .custom found => { custom := [found] }
  | .declared found => found

def kinds (history : List Recording) : List ErrorKind :=
  history.flatMap (·.errors.kinds)

def codes (history : List Recording) : List CustomErrorCode :=
  history.flatMap (·.errors.custom)

theorem mem_kinds_congr {kind : ErrorKind} {history other : List Recording}
    (h : ∀ recording, recording ∈ other ↔ recording ∈ history) :
    kind ∈ kinds other ↔ kind ∈ kinds history := by
  simp [kinds, h]

/-- A call that names no kind and no text of a code that the history does not name. -/
def IsRepeated (history : List Recording) (recording : Recording) : Prop :=
  (∀ kind ∈ recording.errors.kinds, kind ∈ kinds history) ∧
    ∀ code ∈ recording.errors.custom, code.code ∈ CustomErrorCode.texts (codes history)

end Recording

def CustomErrorCode.firsts (codes : List CustomErrorCode) : List CustomErrorCode :=
  (codes.zipIdx.filter fun (code, place) => code.code ∉ texts (codes.take place)).map (·.1)

-- The places are counted from the front, so a code at the end changes none of those before it.
theorem CustomErrorCode.firsts_concat (codes : List CustomErrorCode) (code : CustomErrorCode) :
    firsts (codes ++ [code]) =
      firsts codes ++ if code.code ∈ texts codes then [] else [code] := by
  have hbefore : ∀ entry ∈ codes.zipIdx,
      (codes ++ [code]).take entry.2 = codes.take entry.2 := by
    rintro ⟨other, place⟩ hm
    have hlt : place < codes.length := (List.mem_zipIdx' hm).1
    exact List.take_append_of_le_length (Nat.le_of_lt hlt)
  have hfilter : codes.zipIdx.filter
        (fun (other, place) => other.code ∉ texts ((codes ++ [code]).take place)) =
      codes.zipIdx.filter fun (other, place) => other.code ∉ texts (codes.take place) := by
    refine List.filter_congr fun entry hm => ?_
    simp only [hbefore entry hm]
  unfold firsts
  rw [List.zipIdx_append, List.filter_append, List.map_append, hfilter]
  by_cases h : code.code ∈ texts codes <;> simp [h]

namespace OutcomeCollector

def record (collector : OutcomeCollector) : Recording → OutcomeCollector
  | .kind kind => (collector.recordKind kind).2
  | .custom code => (collector.recordCustom code).2
  | .declared declared => collector.recordDeclared declared

def after (history : List Recording) : OutcomeCollector :=
  history.foldl record {}

-- ---------------------------------------------------------------------------
-- One call, and a history
-- ---------------------------------------------------------------------------

theorem record_eq (collector : OutcomeCollector) (recording : Recording) :
    collector.record recording =
      ⟨recording.errors.kinds.foldl addKind collector.kinds,
        recording.errors.custom.foldl addCode collector.codes⟩ := by
  cases recording with
  | kind kind => exact collector.recordKind_eq kind
  | custom code => exact collector.recordCustom_eq code
  | declared declared => exact collector.recordDeclared_eq declared

theorem foldl_record (collector : OutcomeCollector) (history : List Recording) :
    history.foldl record collector =
      ⟨(Recording.kinds history).foldl addKind collector.kinds,
        (Recording.codes history).foldl addCode collector.codes⟩ := by
  induction history generalizing collector with
  | nil => rfl
  | cons recording rest ih =>
    rw [List.foldl_cons, ih, record_eq]
    simp only [Recording.kinds, Recording.codes, List.flatMap_cons, List.foldl_append]

theorem mem_kinds_after : kind ∈ (after history).kinds ↔ kind ∈ Recording.kinds history := by
  rw [after, foldl_record, mem_foldl_addKind]
  simp

theorem mem_texts_after :
    text ∈ CustomErrorCode.texts (after history).codes ↔
      text ∈ CustomErrorCode.texts (Recording.codes history) := by
  rw [after, foldl_record, mem_texts_foldl]
  simp

-- ---------------------------------------------------------------------------
-- Kinds
-- ---------------------------------------------------------------------------

theorem addKind_of_mem {kinds : List ErrorKind} (h : kind ∈ kinds) : addKind kinds kind = kinds :=
  if_pos (by simpa using h)

theorem nodup_addKind {kinds : List ErrorKind} (h : kinds.Nodup) : (addKind kinds kind).Nodup := by
  unfold addKind
  split
  · exact h
  · next hn =>
    rw [← List.concat_eq_append]
    exact h.concat (by simpa using hn)

theorem nodup_foldl_addKind {kinds : List ErrorKind} (h : kinds.Nodup) (added : List ErrorKind) :
    (added.foldl addKind kinds).Nodup := by
  induction added generalizing kinds with
  | nil => exact h
  | cons kind rest ih => exact ih (nodup_addKind h)

/-- In whatever order a set of kinds is gone through, putting them in the order of their names gives
the same list. -/
theorem mergeSort_eq_finish {collector : OutcomeCollector} (hd : collector.kinds.Nodup)
    {drained : List ErrorKind} (hp : drained.Perm collector.kinds) :
    (drained.mergeSort fun a b => a.name ≤ b.name) = collector.finish.kinds := by
  have hfinish : collector.finish.kinds.Perm collector.kinds := by
    refine (List.perm_ext_iff_of_nodup ?_ hd).mpr fun kind => mem_kinds_finish
    exact (by decide : ErrorKind.byName.Nodup).filter _
  have hsorted : collector.finish.kinds.Pairwise fun a b => decide (a.name ≤ b.name) = true :=
    collector.kinds_finish_sorted.imp fun h => decide_eq_true (le_of_lt h)
  have hnames : ∀ a b : ErrorKind, a.name = b.name → a = b := fun a b h =>
    List.inj_on_of_nodup_map (by decide) a.mem_byName b.mem_byName h
  refine List.Perm.eq_of_pairwise ?_ (List.pairwise_mergeSort ?_ ?_ drained) hsorted
    ((List.mergeSort_perm ..).trans (hp.trans hfinish.symm))
  · intro a b _ _ hab hba
    exact hnames a b (le_antisymm (of_decide_eq_true hab) (of_decide_eq_true hba))
  · intro a b c hab hbc
    exact decide_eq_true (le_trans (of_decide_eq_true hab) (of_decide_eq_true hbc))
  · intro a b
    simpa using le_total a.name b.name

theorem kinds_finish_congr {collector other : OutcomeCollector}
    (h : ∀ kind, kind ∈ other.kinds ↔ kind ∈ collector.kinds) :
    other.finish.kinds = collector.finish.kinds := by
  refine List.filter_congr fun kind _ => ?_
  rw [Bool.eq_iff_iff, List.contains_iff_mem, List.contains_iff_mem, h]

-- ---------------------------------------------------------------------------
-- Custom codes
-- ---------------------------------------------------------------------------

theorem foldl_addCode_eq_firsts (codes : List CustomErrorCode) :
    codes.foldl addCode [] = CustomErrorCode.firsts codes := by
  induction codes using List.reverseRecOn with
  | nil => rfl
  | append_singleton codes code ih =>
    rw [List.foldl_append, List.foldl_cons, List.foldl_nil, CustomErrorCode.firsts_concat, ← ih]
    have htexts : code.code ∈ CustomErrorCode.texts (codes.foldl addCode []) ↔
        code.code ∈ CustomErrorCode.texts codes := by
      simp [mem_texts_foldl]
    by_cases h : code.code ∈ CustomErrorCode.texts codes
    · rw [addCode_of_mem (htexts.mpr h), if_pos h, List.append_nil]
    · rw [addCode_of_not_mem (htexts.not.mpr h), if_neg h]

-- ---------------------------------------------------------------------------
-- Recording again
-- ---------------------------------------------------------------------------

theorem foldl_addKind_of_mem {kinds : List ErrorKind} (added : List ErrorKind)
    (h : ∀ kind ∈ added, kind ∈ kinds) : added.foldl addKind kinds = kinds := by
  induction added with
  | nil => rfl
  | cons kind rest ih =>
    rw [List.foldl_cons, addKind_of_mem (h kind List.mem_cons_self)]
    exact ih fun other ho => h other (List.mem_cons_of_mem _ ho)

theorem foldl_addCode_of_mem {codes : List CustomErrorCode} (added : List CustomErrorCode)
    (h : ∀ code ∈ added, code.code ∈ CustomErrorCode.texts codes) :
    added.foldl addCode codes = codes := by
  induction added with
  | nil => rfl
  | cons code rest ih =>
    rw [List.foldl_cons, addCode_of_mem (h code List.mem_cons_self)]
    exact ih fun other ho => h other (List.mem_cons_of_mem _ ho)

theorem record_of_isRepeated {history : List Recording}
    (h : Recording.IsRepeated history recording) :
    (after history).record recording = after history := by
  obtain ⟨hkinds, hcodes⟩ := h
  rw [record_eq, foldl_addKind_of_mem, foldl_addCode_of_mem]
  · exact fun code hc => mem_texts_after.mpr (hcodes code hc)
  · exact fun kind hk => mem_kinds_after.mpr (hkinds kind hk)

end OutcomeCollector

/-- After any history of calls, the kinds are those it records, each once and by name: this is how
the set of kinds is sorted in whatever order it comes, and every history with the same calls gives
the same kinds. The custom codes are the first of each text, in the order of the history. A call
that was made before, or any that names nothing new, can be left out. -/
theorem recorded_outcomes_canonical (history : List Recording) :
    let collector := OutcomeCollector.after history
    collector.finish.kinds.Pairwise (·.name < ·.name) ∧
    (∀ kind, kind ∈ collector.finish.kinds ↔ kind ∈ Recording.kinds history) ∧
    (∀ drained : List ErrorKind, drained.Perm collector.kinds →
      (drained.mergeSort fun a b => a.name ≤ b.name) = collector.finish.kinds) ∧
    (∀ other : List Recording, (∀ recording, recording ∈ other ↔ recording ∈ history) →
      (OutcomeCollector.after other).finish.kinds = collector.finish.kinds) ∧
    collector.finish.customCodes = CustomErrorCode.firsts (Recording.codes history) ∧
    (∀ recording ∈ history, Recording.IsRepeated history recording) ∧
    ∀ recording rest, Recording.IsRepeated history recording →
      OutcomeCollector.after (history ++ recording :: rest) =
        OutcomeCollector.after (history ++ rest) := by
  intro collector
  have hdistinct : collector.kinds.Nodup := by
    simp only [collector, OutcomeCollector.after, OutcomeCollector.foldl_record]
    exact OutcomeCollector.nodup_foldl_addKind .nil _
  refine ⟨collector.kinds_finish_sorted, fun kind => ?_, fun drained hp => ?_, fun other ho => ?_,
    ?_, fun recording hm => ⟨fun kind hk => ?_, fun code hc => ?_⟩, fun recording rest hr => ?_⟩
  · rw [OutcomeCollector.mem_kinds_finish, OutcomeCollector.mem_kinds_after]
  · exact OutcomeCollector.mergeSort_eq_finish hdistinct hp
  · refine OutcomeCollector.kinds_finish_congr fun kind => ?_
    simp only [collector, OutcomeCollector.mem_kinds_after, Recording.mem_kinds_congr ho]
  · rw [← OutcomeCollector.foldl_addCode_eq_firsts]
    simp only [collector, OutcomeCollector.after, OutcomeCollector.foldl_record,
      OutcomeCollector.finish]
  · exact List.mem_flatMap.mpr ⟨recording, hm, hk⟩
  · exact List.mem_map.mpr ⟨code, List.mem_flatMap.mpr ⟨recording, hm, hc⟩, rfl⟩
  · have hagain := OutcomeCollector.record_of_isRepeated hr
    simp only [OutcomeCollector.after, List.foldl_append, List.foldl_cons] at hagain ⊢
    rw [hagain]

end EndpointInference
