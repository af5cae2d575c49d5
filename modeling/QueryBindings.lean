import QueryBindings.Text.Base64
import QueryBindings.Text.Quoted
import QueryBindings.Log.Logger
import QueryBindings.Query.Name
import QueryBindings.Query.Command
import QueryBindings.Query.Batch
import QueryBindings.Template.Tree
import QueryBindings.Template.Span
import QueryBindings.Binding.TypeMap
import QueryBindings.Template.Library
import QueryBindings.Decimal.Shortest
import QueryBindings.Json.Reader
import QueryBindings.Json.Printer
import QueryBindings.Binding.Generator
import QueryBindings.Options.Load
import QueryBindings.Plugin.Process
import QueryBindings.CommandLine.Run
import QueryBindings.Main
import QueryBindings.Proofs.Binding.Assembly
import QueryBindings.Proofs.Plugin.Transparency
import QueryBindings.Proofs.Plugin.Routing
import QueryBindings.Proofs.Binding.Outcome
import QueryBindings.Proofs.Log.Threshold
import QueryBindings.Proofs.Binding.Report
import QueryBindings.Proofs.Script.Escape
import QueryBindings.Proofs.Script.TemplateLiteral
import QueryBindings.Proofs.Binding.QueryLiteral
import QueryBindings.Proofs.Json.Refusals
import QueryBindings.Proofs.Binding.Declarations
import QueryBindings.Proofs.Binding.FileNames
import QueryBindings.Proofs.Plugin.Responses
import QueryBindings.Proofs.Plugin.Compatibility
import QueryBindings.Proofs.CommandLine.Refinement
import QueryBindings.Proofs.Options.Sources
import QueryBindings.Proofs.Plugin.ImportLine
import QueryBindings.Proofs.Plugin.Documents
import QueryBindings.Proofs.Plugin.Concatenation
import QueryBindings.Proofs.Query.LeadingWord
import QueryBindings.Proofs.Script.Identifier
import QueryBindings.Proofs.Binding.ExportedName
import QueryBindings.Proofs.Binding.ResultShapes
import QueryBindings.Proofs.Script.PropertyKey
import QueryBindings.Proofs.Text.Contained
import QueryBindings.Proofs.Binding.Arguments
import QueryBindings.Proofs.Binding.DocComment
import QueryBindings.Proofs.Binding.FallbackWarnings
import QueryBindings.Proofs.Wire.Truncation
import QueryBindings.Proofs.Json.Truncation
import QueryBindings.Proofs.Plugin.Truncation
import QueryBindings.Proofs.Template.LineReading
import QueryBindings.Proofs.Log.Configuration
import QueryBindings.Proofs.Protocol.Naming
