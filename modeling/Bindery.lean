import Bindery.Book.Events
import Bindery.Book.Item
import Bindery.Book.Load
import Bindery.Book.Parts
import Bindery.Book.Render
import Bindery.Book.Summary
import Bindery.Command.Arguments
import Bindery.Command.Run
import Bindery.CommonMark.Address
import Bindery.CommonMark.Block
import Bindery.CommonMark.Definition
import Bindery.CommonMark.Delimiter
import Bindery.CommonMark.Entity
import Bindery.CommonMark.EntityTable
import Bindery.CommonMark.Html
import Bindery.CommonMark.Inline
import Bindery.CommonMark.Link
import Bindery.CommonMark.Opening
import Bindery.CommonMark.Page
import Bindery.CommonMark.Span
import Bindery.Convert.Chain
import Bindery.Convert.Pipeline
import Bindery.Convert.Settings
import Bindery.Convert.Stage
import Bindery.Disk
import Bindery.Event.Basic
import Bindery.Event.Book
import Bindery.Event.Debug
import Bindery.Event.Markdown
import Bindery.Event.Typst
import Bindery.FileTree
import Bindery.Main
import Bindery.Markup.Escape
import Bindery.Markup.Literal
import Bindery.Markup.Render
import Bindery.Path
import Bindery.Prose.Merge
import Bindery.Prose.OfText
import Bindery.Prose.Token
import Bindery.Prose.OfTokens
import Bindery.Stream.Balance
import Bindery.Stream.Dialect
import Bindery.Stream.Drained
import Bindery.Text.Blank
import Bindery.Text.CaseFold
import Bindery.Text.Encoding
import Bindery.Text.Hex
import Bindery.Text.Json
import Bindery.Text.Numeral
import Bindery.Text.Percent
import Bindery.Text.Printable
import Bindery.Text.Punctuation
import Bindery.Text.Punycode
import Bindery.Text.Quoted
import Bindery.Text.Ranges
import Bindery.Text.Split
import Bindery.Text.Utf8
import Bindery.Toml.Document
import Bindery.Toml.Fault
import Bindery.Toml.Reader
import Bindery.Toml.Scalar
import Bindery.Toml.Value
import Bindery.Proofs.ItemEvents
import Bindery.Proofs.PartCoverage
import Bindery.Proofs.LazyChain
import Bindery.Proofs.Nesting
import Bindery.Proofs.StageNesting
import Bindery.Proofs.StageOrder
import Bindery.Proofs.RendererState
import Bindery.Proofs.RenderSafety
import Bindery.Proofs.PartRepair
import Bindery.Proofs.ChapterProse
import Bindery.Proofs.BookMarkup
import Bindery.Proofs.PullDemand
import Bindery.Proofs.OnePass
import Bindery.Proofs.ReadBack
import Bindery.Proofs.SummaryTree
import Bindery.Proofs.SummaryNumbers
import Bindery.Proofs.SummaryLinks
import Bindery.Proofs.BookNesting
import Bindery.Proofs.DelimiterNesting
import Bindery.Proofs.LineNesting
import Bindery.Proofs.BlockNesting
import Bindery.Proofs.FileAccess
import Bindery.Proofs.LoadFaults
import Bindery.Proofs.LoadedBook
import Bindery.Proofs.DecodedText
import Bindery.Proofs.FilledChapters
import Bindery.Proofs.ChapterCount
import Bindery.Proofs.StageNames
import Bindery.Proofs.JsonReading
import Bindery.Proofs.CommandTrace
import Bindery.Proofs.PartCompletion
import Bindery.Proofs.TruncatedParts
import Bindery.Proofs.StageErasure
import Bindery.Proofs.LiteralReading
import Bindery.Proofs.Metadata
import Bindery.Proofs.TokenBalance
import Bindery.Proofs.ItemMarkers
import Bindery.Proofs.ListNumbers
import Bindery.Proofs.LinkTargets
import Bindery.Proofs.TableShape
import Bindery.Proofs.OpenTags
import Bindery.Proofs.HeadingLevels
import Bindery.Proofs.EscapedText
import Bindery.Proofs.LiveMarkup
import Bindery.Proofs.RendererPlaces
import Bindery.Proofs.RendererCounters
import Bindery.Proofs.LineStarts
import Bindery.Proofs.ListMarkers
import Bindery.Proofs.CodeFences
import Bindery.Proofs.NestingGrammar
import Bindery.Proofs.RejectedEvents
import Bindery.Proofs.RenderComposition
import Bindery.Proofs.TokenText
import Bindery.Proofs.TokenLayout
import Bindery.Proofs.ProseLayout
import Bindery.Proofs.HeadingPlaces
import Bindery.Proofs.Reconversion
import Bindery.Proofs.DisplayFormulas
import Bindery.Proofs.ListedStages
import Bindery.Proofs.BracketReading
import Bindery.Proofs.BracketedContainers
import Bindery.Proofs.MadeEvents
import Bindery.Proofs.ConvertedBrackets
import Bindery.Proofs.TextRuns
import Bindery.Proofs.FilteredNesting
