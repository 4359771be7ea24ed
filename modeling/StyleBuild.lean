import StyleBuild.Command.Arguments
import StyleBuild.Command.Run
import StyleBuild.Command.Settings
import StyleBuild.Compile.Api
import StyleBuild.Compile.Assemble
import StyleBuild.Compile.Request
import StyleBuild.Compile.Steps
import StyleBuild.Compile.Toolchain
import StyleBuild.Diagnostic
import StyleBuild.Diagnostic.Throttle
import StyleBuild.Dialect
import StyleBuild.Effect
import StyleBuild.Fault
import StyleBuild.Fault.Described
import StyleBuild.FileTree
import StyleBuild.Import.Lookup
import StyleBuild.Import.PackageFile
import StyleBuild.Import.Packages
import StyleBuild.Import.Resolver
import StyleBuild.Import.Source
import StyleBuild.Import.Steps
import StyleBuild.Lines.Evaluator
import StyleBuild.Lines.Sheet
import StyleBuild.Lines.Toolchain
import StyleBuild.Main
import StyleBuild.Path
import StyleBuild.Proofs.Calls
import StyleBuild.Proofs.Driver
import StyleBuild.Report
import StyleBuild.Session
import StyleBuild.SourceMap
import StyleBuild.SourceMap.Vlq
import StyleBuild.Span
import StyleBuild.Stage
import StyleBuild.Table
import StyleBuild.Telemetry.Console
import StyleBuild.Telemetry.Event
import StyleBuild.Telemetry.Log
import StyleBuild.Telemetry.Redact
import StyleBuild.Telemetry.Tracer
import StyleBuild.Text.Blank
import StyleBuild.Text.Case
import StyleBuild.Text.Cased
import StyleBuild.Text.Digit
import StyleBuild.Text.Printable
import StyleBuild.Text.Similar
import StyleBuild.Text.Split
import StyleBuild.Text.Styling
import StyleBuild.Text.Utf8
import StyleBuild.Url
import StyleBuild.Url.Host
import StyleBuild.Url.Percent
import StyleBuild.Value
import StyleBuild.Value.Binary64
import StyleBuild.Value.Calendar
import StyleBuild.Value.Check
import StyleBuild.Value.Integer
import StyleBuild.Value.Json.Reader
import StyleBuild.Value.Json.Writer
import StyleBuild.Value.Literal
import StyleBuild.Value.Mapping
import StyleBuild.Value.Yaml
import StyleBuild.Value.Yaml.Cursor
import StyleBuild.Value.Yaml.Lexeme
import StyleBuild.Value.Yaml.Node
import StyleBuild.Value.Yaml.Scalar
import StyleBuild.Value.Yaml.Tag
import StyleBuild.Value.Yaml.Token
import StyleBuild.Proofs.ModeAgreement
import StyleBuild.Proofs.Rerunner
import StyleBuild.Proofs.Memoization
import StyleBuild.Proofs.CacheReuse
import StyleBuild.Proofs.Containment
import StyleBuild.Proofs.Exchanges
import StyleBuild.Proofs.Histories
import StyleBuild.Proofs.DecidedOnce
import StyleBuild.Proofs.Provenance
import StyleBuild.Proofs.ParsedDialect
import StyleBuild.Proofs.Seeding
import StyleBuild.Proofs.Vlq
import StyleBuild.Proofs.MappingsText
import StyleBuild.Proofs.QuietDependencies
import StyleBuild.Proofs.Course
import StyleBuild.Proofs.ImportFailures
import StyleBuild.Proofs.Positions
import StyleBuild.Proofs.Cascade
import StyleBuild.Proofs.LoadedUrls
import StyleBuild.Proofs.PathText
import StyleBuild.Proofs.EntryFile
import StyleBuild.Proofs.FailedImports
import StyleBuild.Proofs.RealPaths
import StyleBuild.Proofs.LookupRules
import StyleBuild.Proofs.NamedFailures
import StyleBuild.Proofs.FileUrls
import StyleBuild.Proofs.FoundFiles
import StyleBuild.Proofs.CanonicalUrls
import StyleBuild.Proofs.PackageReferences
import StyleBuild.Proofs.Throttling
import StyleBuild.Proofs.Redaction
import StyleBuild.Proofs.Refusals
import StyleBuild.Proofs.DirectoryReplies
import StyleBuild.Proofs.Discovery
import StyleBuild.Proofs.ResolvedPaths
import StyleBuild.Proofs.RunFrames
import StyleBuild.Proofs.CommandRuns
import StyleBuild.Proofs.PendingAnswers
import StyleBuild.Proofs.QuerySecrets
import StyleBuild.Proofs.Checks
import StyleBuild.Proofs.PackageDocuments
import StyleBuild.Proofs.RequestedPaths
import StyleBuild.Proofs.ShiftedMappings
import StyleBuild.Proofs.CodeWords
import StyleBuild.Proofs.ShownDialects
