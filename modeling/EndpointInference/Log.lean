import EndpointInference.Diagnostic

/-!
The log of an analysis, as data. A computation that logs is a value together with its entries, in
order. Diagnostics are entries too: a log has a view of the diagnostics alone and one of all events,
in which a diagnostic is an event like the others.
-/

namespace EndpointInference

inductive Level
  | debug
  | trace
deriving DecidableEq, Repr

def Level.text : Level → String
  | debug => "DEBUG"
  | trace => "TRACE"

structure Event where
  level : Level
  message : String
  fields : List (String × String) := []
deriving DecidableEq, Repr

inductive LogEntry
  | event (event : Event)
  | span (handler : String)
  | report (diagnostic : Diagnostic)
deriving DecidableEq, Repr

namespace LogEntry

def diagnostic? : LogEntry → Option Diagnostic
  | report diagnostic => some diagnostic
  | _ => none

def ofReport (diagnostic : Diagnostic) : Event where
  level := .debug
  message := diagnostic.message
  fields := [("code", diagnostic.code.id), ("severity", diagnostic.severity.text)]

def shown : LogEntry → LogEntry
  | report diagnostic => .event (ofReport diagnostic)
  | entry => entry

end LogEntry

abbrev Log := List LogEntry

def Log.diagnostics (log : Log) : Diagnostics :=
  log.filterMap LogEntry.diagnostic?

structure Logged (α : Type) where
  value : α
  log : Log

namespace Logged

instance : Monad Logged where
  pure value := ⟨value, []⟩
  bind x f :=
    let y := f x.value
    ⟨y.value, x.log ++ y.log⟩

instance : LawfulMonad Logged := LawfulMonad.mk' Logged
  (fun _ => by simp [Functor.map])
  (fun _ _ => by simp [bind, pure])
  (fun _ _ _ => by simp [bind, List.append_assoc])

def tell (entry : LogEntry) : Logged Unit :=
  ⟨(), [entry]⟩

def debug (message : String) (fields : List (String × String) := []) : Logged Unit :=
  tell (.event ⟨.debug, message, fields⟩)

def trace (message : String) (fields : List (String × String) := []) : Logged Unit :=
  tell (.event ⟨.trace, message, fields⟩)

def report (diagnostic : Diagnostic) : Logged Unit :=
  tell (.report diagnostic)

def diagnostics (x : Logged α) : Diagnostics :=
  x.log.diagnostics

@[simp] theorem value_pure (a : α) : (pure a : Logged α).value = a := rfl

@[simp] theorem log_pure (a : α) : (pure a : Logged α).log = [] := rfl

@[simp] theorem value_bind (x : Logged α) (f : α → Logged β) :
    (x >>= f).value = (f x.value).value := rfl

@[simp] theorem log_bind (x : Logged α) (f : α → Logged β) :
    (x >>= f).log = x.log ++ (f x.value).log := rfl

end Logged

end EndpointInference
