import UiContract.Text.Blank
import UiContract.Text.Pieces
import UiContract.Text.Quoted
import UiContract.Text.Utf8
import UiContract.SortedMap
import UiContract.Path
import UiContract.PathGlobs
import UiContract.FileTree
import UiContract.Language
import UiContract.Import.Resolver
import UiContract.Graph.ImportGraph
import UiContract.Report.Text
import UiContract.Report.Format
import UiContract.Import.EdgeFormat
import UiContract.Registry
import UiContract.Config
import UiContract.Script.Tree
import UiContract.Script.Expression
import UiContract.Script.Items
import UiContract.Script.Markup
import UiContract.Script.Types
import UiContract.Graph.SourceFile
import UiContract.Graph.Reachability
import UiContract.Main
import UiContract.Proofs.SortedMap
import UiContract.Proofs.Paths
import UiContract.Proofs.Places
import UiContract.Proofs.Reachability
import UiContract.Proofs.ReportOrder
import UiContract.Proofs.Findings
import UiContract.Proofs.Selection
import UiContract.Proofs.Strictness
import UiContract.Proofs.CrossReference
import UiContract.Proofs.Compliance
import UiContract.Proofs.ImportGraph
import UiContract.Proofs.ShortestChain
import UiContract.Proofs.FollowedImports
import UiContract.Proofs.RelativePaths
import UiContract.Proofs.AlikeFiles
import UiContract.Proofs.EntryOrder
import UiContract.Proofs.TreeOrder
import UiContract.Proofs.ReadingLines
import UiContract.Proofs.TypeImports
import UiContract.Proofs.FoldedPaths
import UiContract.Proofs.Preparation
import UiContract.Proofs.UnusableInputs
import UiContract.Proofs.JsonReading
import UiContract.Proofs.JsonDocuments
import UiContract.Proofs.ReportRoundTrip
import UiContract.Proofs.Arguments
import UiContract.Proofs.CommandRuns
import UiContract.Proofs.TomlTables
import UiContract.Proofs.TomlDocuments
import UiContract.Proofs.SectionDecoding
import UiContract.Proofs.ConfigFields
import UiContract.Proofs.GrammarSpans
import UiContract.Proofs.ModuleSpans
import UiContract.Proofs.ItemSpans
import UiContract.Proofs.ExpressionSpans
import UiContract.Proofs.TypeSpans
import UiContract.Proofs.StatementSpans
import UiContract.Proofs.DeclarationOrder
import UiContract.Proofs.Trimming
import UiContract.Proofs.ImportResolution
import UiContract.Proofs.DynamicImports
import UiContract.Proofs.DeclarationBindings
import UiContract.Proofs.ImportChains
import UiContract.Proofs.AliasChoice
import UiContract.Proofs.UsableAliases
import UiContract.Proofs.Encoding
import UiContract.Proofs.GlobMeaning
import UiContract.Proofs.LiteralGlobs
import UiContract.Proofs.PlainTrees
import UiContract.Proofs.PlainNames
import UiContract.Proofs.BudgetSelection
import UiContract.Proofs.GlobLists
import UiContract.Proofs.BudgetFindings
import UiContract.Proofs.BudgetUnions
import UiContract.Proofs.SkippedDirectories
import UiContract.Proofs.NormalPaths
import UiContract.Proofs.RouteFiles
import UiContract.Proofs.RouteFindings
import UiContract.Proofs.CharSets
import UiContract.Proofs.EscapedPatterns
import UiContract.Proofs.WholeWords
import UiContract.Proofs.Occurrences
import UiContract.Proofs.RuleIsolation
import UiContract.Proofs.ModuleNames
import UiContract.Proofs.BarrelLookups
import UiContract.Proofs.RegistryEntries
import UiContract.Proofs.QuestionTopics
import UiContract.Proofs.StatusMessages
import UiContract.Proofs.ConfiguredPaths
import UiContract.Proofs.DisplayedPaths
import UiContract.Proofs.WrittenSpecifiers
import UiContract.Proofs.FindingGroups
import UiContract.Proofs.OrderedFindings
import UiContract.Proofs.ComparedForms
import UiContract.Proofs.PieceGlobs
import UiContract.Proofs.RepeatedForms
import UiContract.Proofs.FoldedShapes
import UiContract.Proofs.FileIdentity
import UiContract.Proofs.GraphHistory
import UiContract.Proofs.DisjointOccurrences
import UiContract.Proofs.FirstFailure
import UiContract.Proofs.PatternMatches
import UiContract.Proofs.ShownSegments
