import EndpointInference.Index.Handlers
import EndpointInference.Proofs.Outcomes

/-!
# Resolving a call only remarks

To resolve a call is to read the annotations of its target once more, and what is malformed in them
is logged each time. These entries are remarks: they report no diagnostic and enter no body
(`Index.symbols_remarking`). So whatever a scan reports or enters, it does at its own sites.
-/

namespace EndpointInference

open EndpointInference.Syntax

def LogEntry.IsRemark : LogEntry → Prop
  | .event e => e.level = .debug
  | _ => False

def Log.AllRemarks (log : Log) : Prop :=
  ∀ entry ∈ log, entry.IsRemark

theorem Log.allRemarks_append {first second : Log} :
    Log.AllRemarks (first ++ second) ↔ first.AllRemarks ∧ second.AllRemarks :=
  List.forall_mem_append

theorem Log.AllRemarks.diagnostics_eq_nil {log : Log} (h : log.AllRemarks) :
    log.diagnostics = [] := by
  refine List.filterMap_eq_nil_iff.mpr fun entry he => ?_
  cases entry with
  | report diagnostic => exact (h _ he).elim
  | _ => rfl

namespace Annotations

theorem readArguments_keeps {reader : ArgumentReader σ} {P : σ → Prop}
    (step : ∀ state head, P state → P (reader state head).1) :
    ∀ budget state trees, P state → P (readArguments reader budget state trees).1 := by
  intro budget
  induction budget with
  | zero => exact fun _ _ h => h
  | succ budget ih =>
    intro state trees h
    unfold readArguments
    split
    · exact h
    · next head _ =>
      have hs := step state head h
      split <;> simp_all

theorem readAttribute_keeps {reader : ArgumentReader σ} {P : σ → Prop}
    (step : ∀ state head, P state → P (reader state head).1) (h : P state) :
    P (readAttribute reader state attr).1 := by
  unfold readAttribute
  split
  · exact h
  · exact readArguments_keeps step _ _ _ h
  · exact h

theorem errorReader_remarks (state : DeclaredErrors × Log) (head : ArgumentHead)
    (h : state.2.AllRemarks) : (errorReader state head).1.2.AllRemarks := by
  obtain ⟨declared, log⟩ := state
  have hcode : Log.AllRemarks (log ++ [malformedCode]) :=
    Log.allRemarks_append.mpr ⟨h, by simp [Log.AllRemarks, malformedCode, LogEntry.IsRemark]⟩
  simp only [errorReader]
  split
  · exact h
  · split
    · split
      · exact h
      · exact hcode
    · exact h
  · split
    · split <;> exact h
    · exact h

theorem declaredErrors_remarks (attributes : List Attribute) :
    (declaredErrors attributes).log.AllRemarks := by
  unfold declaredErrors
  split
  · simp [Log.AllRemarks]
  · next attr _ =>
    have h : (readAttribute errorReader ({}, []) attr).1.2.AllRemarks :=
      readAttribute_keeps (P := fun state : DeclaredErrors × Log => state.2.AllRemarks)
        errorReader_remarks (by simp [Log.AllRemarks])
    dsimp only
    split
    · exact h
    · exact Log.allRemarks_append.mpr
        ⟨h, by simp [Log.AllRemarks, malformedArguments, LogEntry.IsRemark]⟩

end Annotations

-- ---------------------------------------------------------------------------
-- Symbols
-- ---------------------------------------------------------------------------

def Symbols.Remarking (symbols : Symbols) : Prop :=
  ∀ scope site found, symbols.resolveCall? scope site = some found → found.log.AllRemarks

theorem Index.symbols_remarking (index : Index) : index.symbols.Remarking := by
  intro scope site found h
  obtain ⟨entry, -, rfl⟩ := Option.map_eq_some_iff.mp h
  simp only [Index.callTarget, Logged.log_bind, Logged.log_pure, List.append_nil]
  exact Annotations.declaredErrors_remarks entry.attributes

theorem Symbols.ofTypes_remarking (types : List TypeInfo) : (Symbols.ofTypes types).Remarking := by
  intro scope site found h
  cases h

def Site.log : Site → Log
  | .call target _ => target.log
  | _ => []

theorem Scan.sites_remarking {scan : Scan} (h : scan.symbols.Remarking) :
    ∀ site ∈ scan.sites element, site.log.AllRemarks := by
  intro site hs
  cases site with
  | call found start =>
    obtain ⟨e, place, -, -, hf⟩ := Scan.call_mem_sites.mp ⟨start, hs⟩
    exact h element place found hf
  | _ => simp [Site.log, Log.AllRemarks]

theorem Scan.Course.remarking {scan : Scan} (h : scan.symbols.Remarking)
    (hc : scan.Course [root] (scan.sites root) visits entered) :
    ∀ site ∈ visits, site.log.AllRemarks := by
  intro site hs
  obtain ⟨element, -, hs⟩ := hc.mem_visits_iff.mp hs
  exact Scan.sites_remarking h site hs

end EndpointInference
