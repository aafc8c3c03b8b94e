import StickerBook.Choice
import StickerBook.CommandLine.Invocation
import StickerBook.CommandLine.Run
import StickerBook.Distinct
import StickerBook.Editor.Combobox
import StickerBook.Editor.EditorSession
import StickerBook.Editor.Effect
import StickerBook.Editor.Form
import StickerBook.Editor.LockableField
import StickerBook.Editor.SearchPage
import StickerBook.Editor.Selection
import StickerBook.Editor.StickerEditor
import StickerBook.Editor.TagList
import StickerBook.Files.Basic
import StickerBook.Files.Memory
import StickerBook.Json.Number
import StickerBook.Json.Record
import StickerBook.Json.Scan
import StickerBook.Json.Value
import StickerBook.Json.Write
import StickerBook.Library.Basic
import StickerBook.Library.File
import StickerBook.Library.Load
import StickerBook.Library.Lookup
import StickerBook.Library.NameSet
import StickerBook.Library.Source
import StickerBook.Lookup.Basic
import StickerBook.Lookup.Coordinator
import StickerBook.Lookup.RunQueue
import StickerBook.Lookup.Service
import StickerBook.Lookup.Session
import StickerBook.Lookup.Source
import StickerBook.Main
import StickerBook.Paging
import StickerBook.Proofs.CommandLine.Output
import StickerBook.Proofs.CommandLine.SearchText
import StickerBook.Proofs.Distinct
import StickerBook.Proofs.Editor.Agreement
import StickerBook.Proofs.Editor.Candor
import StickerBook.Proofs.Editor.ClosedList
import StickerBook.Proofs.Editor.Combobox
import StickerBook.Proofs.Editor.Event
import StickerBook.Proofs.Editor.Fetching
import StickerBook.Proofs.Editor.Highlight
import StickerBook.Proofs.Editor.Listening
import StickerBook.Proofs.Editor.Loop
import StickerBook.Proofs.Editor.Named
import StickerBook.Proofs.Editor.Observed
import StickerBook.Proofs.Editor.PackageRun
import StickerBook.Proofs.Editor.Pinning
import StickerBook.Proofs.Editor.Removal
import StickerBook.Proofs.Editor.Reset
import StickerBook.Proofs.Editor.SearchPage
import StickerBook.Proofs.Editor.Selection
import StickerBook.Proofs.Editor.Supply
import StickerBook.Proofs.Editor.TagList
import StickerBook.Proofs.Editor.Wrapping
import StickerBook.Proofs.Except
import StickerBook.Proofs.Json.Object
import StickerBook.Proofs.Json.Quoted
import StickerBook.Proofs.Json.Yields
import StickerBook.Proofs.Library.Built
import StickerBook.Proofs.Library.Conjunction
import StickerBook.Proofs.Library.Listing
import StickerBook.Proofs.Library.Pages
import StickerBook.Proofs.Library.Parts
import StickerBook.Proofs.Library.RowOrder
import StickerBook.Proofs.Library.Shuffled
import StickerBook.Proofs.Library.Tagged
import StickerBook.Proofs.Lookup.Acceptance
import StickerBook.Proofs.Lookup.Draining
import StickerBook.Proofs.Lookup.Event
import StickerBook.Proofs.Lookup.Exchange
import StickerBook.Proofs.Lookup.History
import StickerBook.Proofs.Lookup.RunQueue
import StickerBook.Proofs.Lookup.Session
import StickerBook.Proofs.Lookup.Team
import StickerBook.Proofs.Lookup.Tracking
import StickerBook.Proofs.Lookup.WrapAround
import StickerBook.Proofs.Run
import StickerBook.Proofs.Search.Beside
import StickerBook.Proofs.Search.Keyword
import StickerBook.Proofs.Search.Literals
import StickerBook.Proofs.Search.Meaning
import StickerBook.Proofs.Search.Negation
import StickerBook.Proofs.Search.PageOrder
import StickerBook.Proofs.Search.Quoting
import StickerBook.Proofs.Search.Readable
import StickerBook.Proofs.Search.Refusal
import StickerBook.Proofs.Search.Selected
import StickerBook.Proofs.Search.Sign
import StickerBook.Proofs.Search.Step
import StickerBook.Proofs.Search.TagFilter
import StickerBook.Proofs.Search.Token
import StickerBook.Proofs.Search.Word
import StickerBook.Proofs.Search.Written
import StickerBook.Proofs.Sorting
import StickerBook.Proofs.Sql.Database
import StickerBook.Proofs.Sql.Like
import StickerBook.Proofs.Sql.Mirror
import StickerBook.Proofs.Sql.Pattern
import StickerBook.Proofs.Sql.Query
import StickerBook.Proofs.Sql.Scanning
import StickerBook.Proofs.Sql.Selected
import StickerBook.Proofs.Sql.Statement
import StickerBook.Proofs.Suggest.Package
import StickerBook.Proofs.Suggest.Tag
import StickerBook.Proofs.Tag
import StickerBook.Proofs.Tag.Display
import StickerBook.Proofs.Text.Ascii
import StickerBook.Proofs.Text.Folding
import StickerBook.Proofs.Text.Lines
import StickerBook.Proofs.Text.Lower
import StickerBook.Proofs.Text.Trim
import StickerBook.Search.Basic
import StickerBook.Search.Parse
import StickerBook.Search.Statement
import StickerBook.Search.Token
import StickerBook.Settings.Basic
import StickerBook.Settings.File
import StickerBook.Sql.Like
import StickerBook.Sql.Literal
import StickerBook.Sql.Statement
import StickerBook.Sticker
import StickerBook.Suggest.Package
import StickerBook.Suggest.Tag
import StickerBook.Tag
import StickerBook.Text.Blank
import StickerBook.Text.CaseTables
import StickerBook.Text.Infix
import StickerBook.Text.Lower
import StickerBook.Text.Numeral
import StickerBook.Toml.Document
import StickerBook.Toml.Scalar
import StickerBook.Toml.Table
import StickerBook.Toml.Text
import StickerBook.Word
