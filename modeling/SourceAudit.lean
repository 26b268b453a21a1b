import SourceAudit.Text.Blank
import SourceAudit.Ast.Basic
import SourceAudit.Ast.Walk
import SourceAudit.Text.Fixed
import SourceAudit.Text.Caseless
import SourceAudit.Halstead.Counts
import SourceAudit.Halstead.Tally
import SourceAudit.Halstead.Pass
import SourceAudit.Ast.Query
import SourceAudit.Destructor
import SourceAudit.Report.Sheet
import SourceAudit.Text.Quoted
import SourceAudit.Pass
import SourceAudit.Analysis
import SourceAudit.Syntax.Tree
import SourceAudit.Syntax.Dialect
import SourceAudit.Text.Qualified
import SourceAudit.Ast.OfTree
import SourceAudit.Syntax.Token
import SourceAudit.Syntax.Reader
import SourceAudit.Syntax.Words
import SourceAudit.Syntax.Grammar
import SourceAudit.Error
import SourceAudit.Ast.OfSource
import SourceAudit.Path.Basic
import SourceAudit.FileSystem.Basic
import SourceAudit.Glob.Pattern
import SourceAudit.Glob.Match
import SourceAudit.Batch.Collect
import SourceAudit.Config.Basic
import SourceAudit.Report.Naming
import SourceAudit.Batch.Run
import SourceAudit.Json.Error
import SourceAudit.Json.Cursor
import SourceAudit.Decimal.Nearest
import SourceAudit.Decimal.Shortest
import SourceAudit.Json.Number
import SourceAudit.Json.Value
import SourceAudit.Build.Database
import SourceAudit.Yaml.Mark
import SourceAudit.Yaml.Token
import SourceAudit.Yaml.Event
import SourceAudit.Yaml.Token.Lexer
import SourceAudit.Yaml.Token.Scalar
import SourceAudit.Yaml.Token.Property
import SourceAudit.Yaml.Token.Fetch
import SourceAudit.Yaml.Event.Parse
import SourceAudit.Yaml.Document
import SourceAudit.Decimal.Literal
import SourceAudit.Yaml.Reading
import SourceAudit.Yaml.Decode
import SourceAudit.Config.Load
import SourceAudit.Config.Validate
import SourceAudit.Batch.Job
import SourceAudit.Cli.Spec
import SourceAudit.Cli.Help
import SourceAudit.Cli.Suggest
import SourceAudit.Cli.Parse
import SourceAudit.Text.Lines
import SourceAudit.Report.Combine
import SourceAudit.Json.Print
import SourceAudit.Report.Summary
import SourceAudit.Config.Template
import SourceAudit.Cli.Run
import SourceAudit.Main
import SourceAudit.Proofs.Dispatch
import SourceAudit.Proofs.Bases
import SourceAudit.Proofs.Destructor
import SourceAudit.Proofs.Arena
import SourceAudit.Proofs.Progress
import SourceAudit.Proofs.Lowering
import SourceAudit.Proofs.Naming
import SourceAudit.Proofs.Resolution
import SourceAudit.Proofs.Respelling
import SourceAudit.Proofs.Spelling
import SourceAudit.Proofs.Fuel
import SourceAudit.Proofs.Conditional
import SourceAudit.Proofs.HalsteadCounts
import SourceAudit.Proofs.FileFrame
import SourceAudit.Proofs.MergedReports
import SourceAudit.Proofs.Comments
import SourceAudit.Proofs.BodyWalk
import SourceAudit.Proofs.Overflow
import SourceAudit.Proofs.StepInduction
import SourceAudit.Proofs.RecordIndex
import SourceAudit.Proofs.BaseClause
import SourceAudit.Proofs.BaseResolution
