import EndpointInference.Proofs.MissingContract

/-!
# What a scan warns of

A site is a reason to warn in two ways: it calls a member of the error type that is not known, or
something that has no body, may fail and declares nothing. `visit_warns` says once what a visit adds
to the warnings: one for each unknown member, and one for a call that was not reported before,
unless the handler declares errors itself.
-/

namespace EndpointInference

open EndpointInference.Syntax

def Site.isUnknown : Site → Bool
  | .unknown .. => true
  | _ => false

def Site.start? : Site → Option Position
  | .unknown _ start | .call _ start => some start
  | _ => none

namespace Scan

/-- The call that a site is, by its name, if it has no body, may fail and declares nothing. -/
def undocumented? (scan : Scan) : Site → Option String
  | .call target _ =>
    if target.value.isBoundary && scan.isFallible target.value &&
        target.value.declaredErrors.isNone then
      some target.value.displayName
    else none
  | _ => none

inductive Warns (scan : Scan) (state next : ScanState) (site : Site) : Prop
  | unknown : site = .unknown text start →
      next.diagnostics =
        state.diagnostics ++ [.unknownErrorFactory text (scan.symbols.locate start)] →
      next.reported = state.reported → Warns scan state next site
  | undocumented : scan.undocumented? site = some target → scan.declaresErrors = false →
      target ∉ state.reported →
      next.diagnostics = state.diagnostics ++
        [.undocumentedInterfaceCall scan.handler target (scan.symbols.locate start)] →
      next.reported = target :: state.reported → site.start? = some start →
      Warns scan state next site
  | silent : site.isUnknown = false →
      (∀ target, scan.undocumented? site = some target →
        scan.declaresErrors = true ∨ target ∈ state.reported) →
      next.diagnostics = state.diagnostics → next.reported = state.reported →
      Warns scan state next site

theorem enter_silent (scan : Scan) (state : ScanState) (element : ElementId) :
    (scan.enter state element).1.diagnostics = state.diagnostics ∧
      (scan.enter state element).1.reported = state.reported := by
  unfold enter
  split
  · exact ⟨rfl, rfl⟩
  · split <;> exact ⟨rfl, rfl⟩

theorem visit_warns (scan : Scan) (state : ScanState) (site : Site) :
    Warns scan state (scan.visit state site).1 site := by
  cases site with
  | kind kind =>
    refine .silent rfl (by simp [undocumented?]) ?_ ?_ <;>
    · simp only [visit, recordKind]
      split <;> rfl
  | custom code => cases code <;> exact .silent rfl (by simp [undocumented?]) rfl rfl
  | unknown text start => exact .unknown rfl rfl rfl
  | reference element =>
    obtain ⟨hd, hr⟩ := scan.enter_silent state element
    exact .silent rfl (by simp [undocumented?]) hd hr
  | call target start =>
    simp only [visit]
    split
    · next hb =>
      unfold visitBoundary
      by_cases hf : scan.isFallible target.value = true
      · simp only [hf, Bool.not_true, Bool.false_eq_true, ↓reduceIte]
        cases hd : target.value.declaredErrors with
        | some declared => exact .silent rfl (by simp [undocumented?, hd]) rfl rfl
        | none =>
          have hu : scan.undocumented? (.call target start) = some target.value.displayName := by
            simp [undocumented?, hb, hf, hd]
          dsimp only
          split
          · next hr =>
            refine .silent rfl (fun name hn => ?_) rfl rfl
            obtain rfl := Option.some.inj (hu.symm.trans hn)
            simpa [ScanState.tell] using hr
          · next hr =>
            simp only [ScanState.tell, Bool.or_eq_true, List.contains_eq_mem, decide_eq_true_eq,
              not_or, Bool.not_eq_true] at hr
            exact .undocumented hu hr.1 hr.2 rfl rfl rfl
      · simp only [hf, Bool.not_false, ↓reduceIte]
        exact .silent rfl (by simp [undocumented?, hf]) rfl rfl
    · next hb =>
      have hu : scan.undocumented? (.call target start) = none := by simp [undocumented?, hb]
      split
      · next element he =>
        obtain ⟨hd, hr⟩ := scan.enter_silent (state.tell target.log) element
        exact .silent rfl (by simp [hu]) hd hr
      · exact .silent rfl (by simp [hu]) rfl rfl

theorem isUnknown_eq_false {scan : Scan} (h : scan.undocumented? site = some target) :
    site.isUnknown = false := by
  cases site with
  | call found start => rfl
  | _ => cases h

end Scan

theorem collectErrors_diagnostics {symbols : Symbols} (hs : symbols.Remarking)
    (h : (Scan.ofHandler symbols known handler).Course [handler.id]
      ((Scan.ofHandler symbols known handler).sites handler.id) visits entered) :
    (collectErrors symbols known handler).diagnostics =
      ((Scan.ofHandler symbols known handler).after (.ofHandler handler) visits).diagnostics := by
  have hstart : (ScanState.ofHandler handler).Warning := ⟨nofun, rfl⟩
  have hfinal := hstart.after (Scan.ofHandler symbols known handler) (h.remarking hs)
  rw [collectErrors_of_course h]
  simp [Logged.diagnostics, ScanState.summary, hfinal.silent]

end EndpointInference
