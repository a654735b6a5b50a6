import EndpointInference.Analysis
import EndpointInference.Annotations
import EndpointInference.Binding.Classify
import EndpointInference.Binding.Form
import EndpointInference.Binding.Rule
import EndpointInference.Config.Environment
import EndpointInference.Config.Load
import EndpointInference.Config.Value
import EndpointInference.Decimal.Reading
import EndpointInference.Decimal.Shortest
import EndpointInference.Diagnostic
import EndpointInference.Disk
import EndpointInference.Handler
import EndpointInference.Index.Basic
import EndpointInference.Index.Declaration
import EndpointInference.Index.Fold
import EndpointInference.Index.Handlers
import EndpointInference.Index.Metadata
import EndpointInference.Index.Resolve
import EndpointInference.Log
import EndpointInference.Logging
import EndpointInference.Lowering
import EndpointInference.Options
import EndpointInference.Outcome
import EndpointInference.Parameter
import EndpointInference.Proofs.Agreement
import EndpointInference.Proofs.ArgumentLists
import EndpointInference.Proofs.BodyExclusive
import EndpointInference.Proofs.BoundTree
import EndpointInference.Proofs.Collector
import EndpointInference.Proofs.ConstantValues
import EndpointInference.Proofs.Course
import EndpointInference.Proofs.CustomCodes
import EndpointInference.Proofs.Cut
import EndpointInference.Proofs.DeclaredArguments
import EndpointInference.Proofs.Declaring
import EndpointInference.Proofs.Diagnostics
import EndpointInference.Proofs.Faithful
import EndpointInference.Proofs.FileOrder
import EndpointInference.Proofs.FlattenedFields
import EndpointInference.Proofs.Flattening
import EndpointInference.Proofs.FoldedNumbers
import EndpointInference.Proofs.FormExpansion
import EndpointInference.Proofs.GrammarAgreement
import EndpointInference.Proofs.GrammarDepth
import EndpointInference.Proofs.ImplicitBinding
import EndpointInference.Proofs.IndexAgreement
import EndpointInference.Proofs.Indexing
import EndpointInference.Proofs.Layers
import EndpointInference.Proofs.Lists
import EndpointInference.Proofs.LoadedOptions
import EndpointInference.Proofs.MissingContract
import EndpointInference.Proofs.ModuleLookup
import EndpointInference.Proofs.NamedArguments
import EndpointInference.Proofs.Naming
import EndpointInference.Proofs.NormalTypes
import EndpointInference.Proofs.Outcomes
import EndpointInference.Proofs.PassedFunctions
import EndpointInference.Proofs.PhraseAgreement
import EndpointInference.Proofs.Provenance
import EndpointInference.Proofs.QueryExtractors
import EndpointInference.Proofs.Recordings
import EndpointInference.Proofs.Rejection
import EndpointInference.Proofs.Remarks
import EndpointInference.Proofs.Reported
import EndpointInference.Proofs.Responses
import EndpointInference.Proofs.RouteJoin
import EndpointInference.Proofs.RouteSlices
import EndpointInference.Proofs.RouteTemplates
import EndpointInference.Proofs.ServiceSuffixes
import EndpointInference.Proofs.SingleScan
import EndpointInference.Proofs.SuccessShapes
import EndpointInference.Proofs.TypeMetadata
import EndpointInference.Proofs.Unread
import EndpointInference.Proofs.VariableKeys
import EndpointInference.Proofs.Warnings
import EndpointInference.Proofs.WrittenNumbers
import EndpointInference.Response
import EndpointInference.ResponseUnion
import EndpointInference.Route
import EndpointInference.Scan.Factory
import EndpointInference.Scan.Run
import EndpointInference.Scan.Site
import EndpointInference.Serial.Config
import EndpointInference.Serial.Data
import EndpointInference.Serial.Encode
import EndpointInference.Success
import EndpointInference.Symbols
import EndpointInference.Syntax.Expr
import EndpointInference.Syntax.Grammar
import EndpointInference.Syntax.Grammar.Basic
import EndpointInference.Syntax.Grammar.Cursor
import EndpointInference.Syntax.Grammar.Expr
import EndpointInference.Syntax.Grammar.Function
import EndpointInference.Syntax.Grammar.Generics
import EndpointInference.Syntax.Grammar.Item
import EndpointInference.Syntax.Grammar.Path
import EndpointInference.Syntax.Grammar.Pattern
import EndpointInference.Syntax.Grammar.Stmt
import EndpointInference.Syntax.Grammar.Ty
import EndpointInference.Syntax.Item
import EndpointInference.Syntax.Literal
import EndpointInference.Syntax.Pattern
import EndpointInference.Syntax.Token
import EndpointInference.Syntax.Token.Lexeme
import EndpointInference.Syntax.Token.Lexer
import EndpointInference.Syntax.Ty
import EndpointInference.Text.Blank
import EndpointInference.Text.CaseMap
import EndpointInference.Text.CodePoints
import EndpointInference.Text.Identifier
import EndpointInference.Text.Letter
import EndpointInference.Text.Printable
import EndpointInference.Text.Quoted
import EndpointInference.Toml.Document
import EndpointInference.Toml.Moment
import EndpointInference.Toml.Scalar
import EndpointInference.Toml.Table
import EndpointInference.TypeInfo
import EndpointInference.TypeRef
