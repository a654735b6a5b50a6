import EndpointInference.Binding.Classify
import EndpointInference.ResponseUnion
import EndpointInference.Scan.Run
import EndpointInference.Success

/-!
The analysis of handlers: the shape of the success, the parameters, the errors, and from them the
responses. A handler that cannot fail is no endpoint, and one whose parameters cannot all be bound
has no contract.
-/

namespace EndpointInference

structure Analyzer where
  symbols : Symbols
  options : Options

structure HandlerAnalysis where
  handler : String
  contract : Option Contract
  diagnostics : Diagnostics

namespace Analyzer

def known (analyzer : Analyzer) : WellKnown :=
  analyzer.options.wellKnown

def view (analyzer : Analyzer) : TypeView :=
  ⟨analyzer.symbols, analyzer.known⟩

def success? (analyzer : Analyzer) (handler : Handler) : Option SuccessShape :=
  inferSuccess? analyzer.symbols analyzer.known handler.returnType handler.isAsync

def notFallible (handler : Handler) : Logged Unit :=
  Logged.debug "Not a fallible result, skipping"
    [("handler", handler.name), ("return_type", handler.returnType.text)]

def contract (analyzer : Analyzer) (handler : Handler) (success : SuccessShape)
    (parameters : List EndpointParameter) : Logged Contract := do
  let errors ← collectErrors analyzer.symbols analyzer.known handler
  let responses ← ResponseUnion.build analyzer.options handler success parameters errors
  return {
    handler := handler.name
    verb := handler.verb
    route := handler.route
    parameters
    success
    errors
    responses }

def analyze (analyzer : Analyzer) (handler : Handler) : Logged (Option Contract) := do
  Logged.tell (.span handler.name)
  match analyzer.success? handler with
  | none =>
    notFallible handler
    return none
  | some success =>
    match (← analyzer.view.classifyHandler handler).complete? with
    | none =>
      Logged.debug "Classification failed" [("handler", handler.name)]
      return none
    | some parameters => return some (← analyzer.contract handler success parameters)

def analyzeAll (analyzer : Analyzer) (handlers : List Handler) : Logged (List (Option Contract)) :=
  handlers.mapM analyzer.analyze

def analysis (analyzer : Analyzer) (handler : Handler) : HandlerAnalysis :=
  let result := analyzer.analyze handler
  ⟨handler.name, result.value, result.diagnostics⟩

/-- What a handler answers with, its parameters left aside. -/
def infer (analyzer : Analyzer) (handler : Handler) :
    Logged (Option (SuccessShape × ErrorOutcomes)) := do
  match analyzer.success? handler with
  | none =>
    notFallible handler
    return none
  | some success => return some (success, ← collectErrors analyzer.symbols analyzer.known handler)

end Analyzer

end EndpointInference
