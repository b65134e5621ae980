import ServiceAtlas.Calls
import ServiceAtlas.Command.Arguments
import ServiceAtlas.Command.Run
import ServiceAtlas.Decimal.Double
import ServiceAtlas.Decimal.Shortest
import ServiceAtlas.Disk.Basic
import ServiceAtlas.Disk.IgnoreRule
import ServiceAtlas.Disk.Walk
import ServiceAtlas.Failure
import ServiceAtlas.Glob.Match
import ServiceAtlas.Glob.Pattern
import ServiceAtlas.Graph
import ServiceAtlas.Graph.Dot
import ServiceAtlas.Java.Cursor
import ServiceAtlas.Java.Grammar.Basic
import ServiceAtlas.Java.Grammar.Expression
import ServiceAtlas.Java.Grammar.Statement
import ServiceAtlas.Java.Token
import ServiceAtlas.Main
import ServiceAtlas.OrderedMap
import ServiceAtlas.Outline.Extraction
import ServiceAtlas.Outline.Rule
import ServiceAtlas.Path
import ServiceAtlas.Proofs.CallColours
import ServiceAtlas.Proofs.CallSiteLines
import ServiceAtlas.Proofs.CallSiteSearch
import ServiceAtlas.Proofs.CommandAgreement
import ServiceAtlas.Proofs.ContextHistory
import ServiceAtlas.Proofs.DialectAgreement
import ServiceAtlas.Proofs.DiskListing
import ServiceAtlas.Proofs.DotReading
import ServiceAtlas.Proofs.GraphDegrees
import ServiceAtlas.Proofs.GraphHistory
import ServiceAtlas.Proofs.Java.BareTypes
import ServiceAtlas.Proofs.Java.DeclarationReading
import ServiceAtlas.Proofs.Java.DeclaredTypes
import ServiceAtlas.Proofs.Java.PrintedProgram
import ServiceAtlas.Proofs.Java.PrintedTokens
import ServiceAtlas.Proofs.Java.ProgramReading
import ServiceAtlas.Proofs.Java.Refusal
import ServiceAtlas.Proofs.Java.RoundTrip
import ServiceAtlas.Proofs.Java.TokenSpelling
import ServiceAtlas.Proofs.Java.TokensTaken
import ServiceAtlas.Proofs.Java.WrittenTypes
import ServiceAtlas.Proofs.JsonReading
import ServiceAtlas.Proofs.LegendNames
import ServiceAtlas.Proofs.NearestFiles
import ServiceAtlas.Proofs.OrderedMapHistory
import ServiceAtlas.Proofs.OutlineLines
import ServiceAtlas.Proofs.PathAncestors
import ServiceAtlas.Proofs.PathSpelling
import ServiceAtlas.Proofs.PathSteps
import ServiceAtlas.Proofs.PrintedText
import ServiceAtlas.Proofs.PropertiesContinuation
import ServiceAtlas.Proofs.PropertiesLines
import ServiceAtlas.Proofs.PropertiesSection
import ServiceAtlas.Proofs.PropertiesWriting
import ServiceAtlas.Proofs.PrunedSubtrees
import ServiceAtlas.Proofs.Python.CallForms
import ServiceAtlas.Proofs.Python.DecoratedFunctions
import ServiceAtlas.Proofs.Python.ExpressionLayers
import ServiceAtlas.Proofs.Python.ExpressionReading
import ServiceAtlas.Proofs.Python.GrammarInvariants
import ServiceAtlas.Proofs.Python.LayoutReading
import ServiceAtlas.Proofs.Python.LiteralForms
import ServiceAtlas.Proofs.Python.OpenBlocks
import ServiceAtlas.Proofs.Python.ParameterForms
import ServiceAtlas.Proofs.Python.PrintedChars
import ServiceAtlas.Proofs.Python.PrintedProgram
import ServiceAtlas.Proofs.Python.ProgramReading
import ServiceAtlas.Proofs.Python.Refusal
import ServiceAtlas.Proofs.Python.RoundTrip
import ServiceAtlas.Proofs.Python.StringSpelling
import ServiceAtlas.Proofs.Python.TokenReading
import ServiceAtlas.Proofs.Python.TokenSpans
import ServiceAtlas.Proofs.RuleInversion
import ServiceAtlas.Proofs.RuleReading
import ServiceAtlas.Proofs.RuleSelection
import ServiceAtlas.Proofs.ScanCounts
import ServiceAtlas.Proofs.ScanExclusion
import ServiceAtlas.Proofs.ScanReferences
import ServiceAtlas.Proofs.ScanReport
import ServiceAtlas.Proofs.ScanRun
import ServiceAtlas.Proofs.ScanStability
import ServiceAtlas.Proofs.Scanner
import ServiceAtlas.Proofs.SettingsLayers
import ServiceAtlas.Proofs.SettingsLists
import ServiceAtlas.Proofs.TextBytes
import ServiceAtlas.Proofs.TextLines
import ServiceAtlas.Proofs.UrlTableHistory
import ServiceAtlas.Proofs.Yaml.FlatMapping
import ServiceAtlas.Proofs.Yaml.PlainLines
import ServiceAtlas.Python.Cursor
import ServiceAtlas.Python.Grammar.Expression
import ServiceAtlas.Python.Grammar.Statement
import ServiceAtlas.Python.Layout
import ServiceAtlas.Python.StringText
import ServiceAtlas.Report.Format
import ServiceAtlas.Report.ScanJson
import ServiceAtlas.Report.ScanText
import ServiceAtlas.Report.UrlList
import ServiceAtlas.Scan
import ServiceAtlas.Service.Facts
import ServiceAtlas.Service.Name
import ServiceAtlas.Settings.Basic
import ServiceAtlas.Settings.File
import ServiceAtlas.Settings.Layers
import ServiceAtlas.Settings.Resolve
import ServiceAtlas.Settings.Show
import ServiceAtlas.SourceTree
import ServiceAtlas.Text.Basic
import ServiceAtlas.Text.CodeRanges
import ServiceAtlas.Text.Fold
import ServiceAtlas.Text.Identifier
import ServiceAtlas.Text.Unquote
import ServiceAtlas.Text.Upper
import ServiceAtlas.Text.Utf8
import ServiceAtlas.Toml.Document
import ServiceAtlas.Toml.Scalar
import ServiceAtlas.Toml.StringText
import ServiceAtlas.Toml.Value
import ServiceAtlas.Url.Properties
import ServiceAtlas.Url.Table
import ServiceAtlas.Yaml.Cursor
import ServiceAtlas.Yaml.Event
import ServiceAtlas.Yaml.Number
import ServiceAtlas.Yaml.Printer
import ServiceAtlas.Yaml.ScalarStyle
import ServiceAtlas.Yaml.ScalarText
import ServiceAtlas.Yaml.Token
import ServiceAtlas.Yaml.TopLevel
import ServiceAtlas.Yaml.Value
