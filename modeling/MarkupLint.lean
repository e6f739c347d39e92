import MarkupLint.Catalogue
import MarkupLint.Document.Basic
import MarkupLint.Document.Content
import MarkupLint.Document.Element
import MarkupLint.Document.RawAttribute
import MarkupLint.Document.Tree
import MarkupLint.Grid.Breakpoint
import MarkupLint.Grid.ClassList
import MarkupLint.Grid.Column
import MarkupLint.Link.Host
import MarkupLint.Link.Url
import MarkupLint.Link.Version
import MarkupLint.Linter
import MarkupLint.Markup.Attribute
import MarkupLint.Markup.Token
import MarkupLint.Markup.TokenStream
import MarkupLint.Problem
import MarkupLint.Proofs.AncestorQueries
import MarkupLint.Proofs.AttributesReadBack
import MarkupLint.Proofs.BuilderSessions
import MarkupLint.Proofs.ButtonGroups
import MarkupLint.Proofs.CharsetMetas
import MarkupLint.Proofs.ClassReaders
import MarkupLint.Proofs.ClassSets
import MarkupLint.Proofs.CleanGrids
import MarkupLint.Proofs.ColumnLayout
import MarkupLint.Proofs.ColumnNames
import MarkupLint.Proofs.ColumnRewriting
import MarkupLint.Proofs.ColumnRuns
import MarkupLint.Proofs.ControlTargets
import MarkupLint.Proofs.Deliveries
import MarkupLint.Proofs.DocumentOrder
import MarkupLint.Proofs.DownwardWalk
import MarkupLint.Proofs.ElementLocations
import MarkupLint.Proofs.ElementReferences
import MarkupLint.Proofs.EmptySpacers
import MarkupLint.Proofs.FindingOrder
import MarkupLint.Proofs.InvisibleData
import MarkupLint.Proofs.Kinship
import MarkupLint.Proofs.LibraryScripts
import MarkupLint.Proofs.LinePlaces
import MarkupLint.Proofs.LinkFiles
import MarkupLint.Proofs.LinkSuffixes
import MarkupLint.Proofs.ModalHierarchy
import MarkupLint.Proofs.OffsetLocations
import MarkupLint.Proofs.ParsedTags
import MarkupLint.Proofs.PassCompletion
import MarkupLint.Proofs.Passes
import MarkupLint.Proofs.RaisedThresholds
import MarkupLint.Proofs.RankBlocks
import MarkupLint.Proofs.Registration
import MarkupLint.Proofs.RegistrationOrder
import MarkupLint.Proofs.Repetitions
import MarkupLint.Proofs.RetouchedRules
import MarkupLint.Proofs.Retouching
import MarkupLint.Proofs.RuleIds
import MarkupLint.Proofs.ScriptSearches
import MarkupLint.Proofs.SelectorViews
import MarkupLint.Proofs.SettledClasses
import MarkupLint.Proofs.SimplifiedClasses
import MarkupLint.Proofs.SingleFindings
import MarkupLint.Proofs.SortedClasses
import MarkupLint.Proofs.SourceIndependence
import MarkupLint.Proofs.StartTags
import MarkupLint.Proofs.TagSpelling
import MarkupLint.Proofs.TextKinds
import MarkupLint.Proofs.TreeGrowth
import MarkupLint.Proofs.VersionNumbers
import MarkupLint.Proofs.Words
import MarkupLint.Proofs.WrittenSelectors
import MarkupLint.Proofs.WrittenValues
import MarkupLint.Registry
import MarkupLint.Rule.Basic
import MarkupLint.Rule.Id
import MarkupLint.Rules.Action
import MarkupLint.Rules.Carousel
import MarkupLint.Rules.Component
import MarkupLint.Rules.Form
import MarkupLint.Rules.Grid
import MarkupLint.Rules.Head
import MarkupLint.Rules.Library
import MarkupLint.Rules.Modal
import MarkupLint.Rules.Retired
import MarkupLint.Selector.Basic
import MarkupLint.Selector.Bounds
import MarkupLint.Selector.Direction
import MarkupLint.Selector.Form
import MarkupLint.Selector.Language
import MarkupLint.Selector.Lexeme
import MarkupLint.Selector.Match
import MarkupLint.Selector.Nth
import MarkupLint.Selector.Parser
import MarkupLint.Selector.Place
import MarkupLint.Selector.Query
import MarkupLint.Selector.Search
import MarkupLint.Selector.Standard
import MarkupLint.Selector.Trait
import MarkupLint.Settings
import MarkupLint.Settings.Shape
import MarkupLint.Settings.Source
import MarkupLint.Source
import MarkupLint.Text.Basic
import MarkupLint.Text.Case
import MarkupLint.Text.CaseTable
import MarkupLint.Text.Direction
import MarkupLint.Text.Number
import MarkupLint.Text.Quoted
import MarkupLint.Text.Reference
import MarkupLint.Text.ReferenceTable
