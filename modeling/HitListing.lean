import HitListing.Calendar.Date
import HitListing.Calendar.IndexDate
import HitListing.Calendar.Iso
import HitListing.Calendar.Moment
import HitListing.Calendar.Pattern
import HitListing.CommandLine
import HitListing.CommandLine.Arguments
import HitListing.CommandLine.Request
import HitListing.CommandLine.WholeValue
import HitListing.Console.Layout
import HitListing.Console.Picture
import HitListing.Console.PictureTable
import HitListing.Console.PlainText
import HitListing.Console.Style
import HitListing.Console.Tag
import HitListing.Context
import HitListing.Context.Live
import HitListing.Context.Stored
import HitListing.Definitions
import HitListing.Draft
import HitListing.Excerpt
import HitListing.Fault
import HitListing.FileTree
import HitListing.FileTree.Path
import HitListing.FileTree.Placement
import HitListing.Group
import HitListing.Gzip
import HitListing.Gzip.Crc32
import HitListing.Gzip.Deflate
import HitListing.Highlight
import HitListing.Hit
import HitListing.IndexFile
import HitListing.Json
import HitListing.Json.Order
import HitListing.Json.Reader
import HitListing.Json.Writer
import HitListing.Main
import HitListing.Markup.Escape
import HitListing.Markup.NamedReference
import HitListing.Markup.Reference
import HitListing.Markup.StartTag
import HitListing.Markup.Strip
import HitListing.Number.Binary64
import HitListing.Number.Numeral
import HitListing.Number.Shortest
import HitListing.Page
import HitListing.Positions
import HitListing.Project
import HitListing.Proofs.AcceptedTables
import HitListing.Proofs.AllLink
import HitListing.Proofs.BeforeOpenTag
import HitListing.Proofs.BoldWords
import HitListing.Proofs.CachedFile
import HitListing.Proofs.Calendar
import HitListing.Proofs.Closings
import HitListing.Proofs.Constructs
import HitListing.Proofs.ContextAgreement
import HitListing.Proofs.ContextDocument
import HitListing.Proofs.ContextFaults
import HitListing.Proofs.ContextLimit
import HitListing.Proofs.ContextLines
import HitListing.Proofs.CrossReference
import HitListing.Proofs.CutReference
import HitListing.Proofs.Cutting
import HitListing.Proofs.DatePatterns
import HitListing.Proofs.Documents
import HitListing.Proofs.DoubleText
import HitListing.Proofs.Drafts
import HitListing.Proofs.Escaping
import HitListing.Proofs.Excerpts
import HitListing.Proofs.FileForms
import HitListing.Proofs.FileStart
import HitListing.Proofs.FilledStore
import HitListing.Proofs.GroupedPages
import HitListing.Proofs.Grouping
import HitListing.Proofs.IndexDates
import HitListing.Proofs.InnermostScope
import HitListing.Proofs.InstantOrder
import HitListing.Proofs.InvertedIndex
import HitListing.Proofs.JsonAscii
import HitListing.Proofs.JsonReading
import HitListing.Proofs.JsonString
import HitListing.Proofs.JsonText
import HitListing.Proofs.LastEdited
import HitListing.Proofs.LineAnchors
import HitListing.Proofs.LineNumbers
import HitListing.Proofs.Lines
import HitListing.Proofs.LinkDecoding
import HitListing.Proofs.LowerCase
import HitListing.Proofs.MomentText
import HitListing.Proofs.Numerals
import HitListing.Proofs.OpenTag
import HitListing.Proofs.Outcomes
import HitListing.Proofs.PageDocument
import HitListing.Proofs.PageFaults
import HitListing.Proofs.PageRows
import HitListing.Proofs.PageSteps
import HitListing.Proofs.PageText
import HitListing.Proofs.PathEncoding
import HitListing.Proofs.PendingMessages
import HitListing.Proofs.Pieces
import HitListing.Proofs.Positions
import HitListing.Proofs.ProjectLookup
import HitListing.Proofs.Projects
import HitListing.Proofs.QueryWords
import HitListing.Proofs.References
import HitListing.Proofs.SafeDocuments
import HitListing.Proofs.SearchContext
import HitListing.Proofs.SearchResults
import HitListing.Proofs.ShownLines
import HitListing.Proofs.SnippetDocument
import HitListing.Proofs.SortedSet
import HitListing.Proofs.SourceFile
import HitListing.Proofs.StartTags
import HitListing.Proofs.StoreRuns
import HitListing.Proofs.StoredContext
import HitListing.Proofs.StoredFaults
import HitListing.Proofs.StoredLines
import HitListing.Proofs.StoredRows
import HitListing.Proofs.StrippedLength
import HitListing.Proofs.Stripping
import HitListing.Proofs.TableRows
import HitListing.Proofs.TableRuns
import HitListing.Proofs.TagPlaces
import HitListing.Proofs.Utf8
import HitListing.Proofs.ValueOrder
import HitListing.Proofs.Windows
import HitListing.Proofs.Words
import HitListing.Proofs.WrittenValues
import HitListing.Query
import HitListing.Scopes
import HitListing.Search
import HitListing.Settings
import HitListing.Snippet
import HitListing.Store
import HitListing.StoredTable
import HitListing.Stream
import HitListing.Table
import HitListing.Terms
import HitListing.Text
import HitListing.Text.Blank
import HitListing.Text.CellTable
import HitListing.Text.CellWidth
import HitListing.Text.Cluster
import HitListing.Text.CodePoints
import HitListing.Text.Digit
import HitListing.Text.Lines
import HitListing.Text.LowerCase
import HitListing.Text.LowerTable
import HitListing.Text.Printable
import HitListing.Text.Quoted
import HitListing.Text.Word
import HitListing.Text.WordChar
import HitListing.TextFile
import HitListing.Uri
import HitListing.Utf8
