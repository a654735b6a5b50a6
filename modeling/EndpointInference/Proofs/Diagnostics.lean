import EndpointInference.Log

/-!
# The diagnostics of a computation that logs

Diagnostics are the entries of the log that report one. They are appended by each part of a
computation, and nothing that is reported later changes what was reported before.
-/

namespace EndpointInference

namespace Log

@[simp] theorem diagnostics_nil : Log.diagnostics [] = [] := rfl

@[simp] theorem diagnostics_append (first second : Log) :
    Log.diagnostics (first ++ second) = first.diagnostics ++ second.diagnostics :=
  List.filterMap_append

@[simp] theorem diagnostics_map_report (diagnostics : Diagnostics) :
    Log.diagnostics (diagnostics.map .report) = diagnostics := by
  simp [Log.diagnostics, LogEntry.diagnostic?, List.filterMap_map, Function.comp_def]

@[simp] theorem diagnostics_event (event : Event) (log : Log) :
    Log.diagnostics (.event event :: log) = log.diagnostics := rfl

end Log

namespace Logged

@[simp] theorem diagnostics_pure (a : α) : (pure a : Logged α).diagnostics = [] := rfl

@[simp] theorem diagnostics_bind (x : Logged α) (f : α → Logged β) :
    (x >>= f).diagnostics = x.diagnostics ++ (f x.value).diagnostics :=
  Log.diagnostics_append ..

@[simp] theorem value_map (f : α → β) (x : Logged α) : (f <$> x).value = f x.value := rfl

@[simp] theorem diagnostics_map (f : α → β) (x : Logged α) :
    (f <$> x).diagnostics = x.diagnostics :=
  (diagnostics_bind x (pure ∘ f)).trans (List.append_nil _)

@[simp] theorem diagnostics_debug (message : String) (fields : List (String × String)) :
    (debug message fields).diagnostics = [] := rfl

@[simp] theorem diagnostics_span (handler : String) : (tell (.span handler)).diagnostics = [] := rfl

@[simp] theorem diagnostics_report (diagnostic : Diagnostic) :
    (report diagnostic).diagnostics = [diagnostic] := rfl

@[simp] theorem value_mapM (f : α → Logged β) (xs : List α) :
    (xs.mapM f).value = xs.map fun x => (f x).value := by
  induction xs with
  | nil => rfl
  | cons x rest ih => simp [ih]

@[simp] theorem diagnostics_mapM (f : α → Logged β) (xs : List α) :
    (xs.mapM f).diagnostics = xs.flatMap fun x => (f x).diagnostics := by
  induction xs with
  | nil => rfl
  | cons x rest ih => simp [ih]

end Logged

namespace Diagnostics

@[simp] theorem hasErrors_nil : Diagnostics.hasErrors [] = false := rfl

@[simp] theorem hasErrors_append (first second : Diagnostics) :
    Diagnostics.hasErrors (first ++ second) = (first.hasErrors || second.hasErrors) :=
  List.any_append

theorem hasErrors_iff {diagnostics : Diagnostics} :
    diagnostics.hasErrors = true ↔ ∃ diagnostic ∈ diagnostics, diagnostic.isError = true :=
  List.any_eq_true

theorem hasErrors_flatMap {f : α → Diagnostics} {xs : List α} :
    Diagnostics.hasErrors (xs.flatMap f) = true ↔ ∃ x ∈ xs, (f x).hasErrors = true := by
  rw [Diagnostics.hasErrors, List.any_flatMap, List.any_eq_true]
  rfl

end Diagnostics

end EndpointInference
