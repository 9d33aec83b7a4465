import Taskbook.Text.Lines
import Taskbook.Text.Case
import Taskbook.Text.Unicode.Printable
import Taskbook.Html.Node
import Taskbook.Task.Basic
import Taskbook.Task.Block
import Taskbook.Task.Line
import Taskbook.PageName.Title
import Taskbook.PageName.Tags
import Taskbook.Include.Notebook
import Taskbook.Include.Web
import Taskbook.Include.Expansion
import Taskbook.Include.Listing
import Taskbook.Page.Line
import Taskbook.Page.Anchor
import Taskbook.Page.Render
import Taskbook.Page.Section
import Taskbook.Html.CharacterReference
import Taskbook.Text.Percent
import Taskbook.Markdown.Document
import Taskbook.Markdown.Line
import Taskbook.Markdown.Link
import Taskbook.Markdown.RawHtml
import Taskbook.Markdown.Table
import Taskbook.Markdown.Reader
import Taskbook.Markdown.Span
import Taskbook.Markdown.CodeListing
import Taskbook.Markdown.Html
import Taskbook.Json.Basic
import Taskbook.Json.Reader
import Taskbook.Number.Binary64
import Taskbook.Number.Numeral
import Taskbook.Include.Fetch
import Taskbook.Settings
import Taskbook.Store.Basic
import Taskbook.Store.Location
import Taskbook.Http.Fields
import Taskbook.Http.Request
import Taskbook.Http.Response
import Taskbook.Http.Stamp
import Taskbook.Site.Answer
import Taskbook.Import.Command
import Taskbook.Markdown.Address
import Taskbook.Markdown.Emphasis
import Taskbook.Text.Punycode
import Taskbook.Text.Unicode.HostLabel
import Taskbook.Import.FileTree
import Taskbook.Main
import Taskbook.Proofs.Task.Tags
import Taskbook.Proofs.Include.Run
import Taskbook.Proofs.Include.Find
import Taskbook.Proofs.Include.Footprint
import Taskbook.Proofs.Include.Origin
import Taskbook.Proofs.Include.Once
import Taskbook.Proofs.Include.Depth
import Taskbook.Proofs.Text.Trim
import Taskbook.Proofs.Task.Tag
import Taskbook.Proofs.Task.RoundTrip
import Taskbook.Proofs.Include.WellFormed
import Taskbook.Proofs.Include.Link
import Taskbook.Proofs.Include.Reach
import Taskbook.Proofs.Include.Inheritance
import Taskbook.Proofs.Include.Refusal
import Taskbook.Proofs.Store.Change
import Taskbook.Proofs.Site.Check
import Taskbook.Proofs.Site.Route
import Taskbook.Proofs.Site.Session
import Taskbook.Proofs.Site.Rendering
import Taskbook.Proofs.Include.Notebook
import Taskbook.Proofs.Store.Names
import Taskbook.Proofs.Store.Maps
import Taskbook.Proofs.PageName.Check
import Taskbook.Proofs.Text.Cut
import Taskbook.Proofs.Import.Search
import Taskbook.Proofs.Import.Run
import Taskbook.Proofs.Site.Pages
import Taskbook.Proofs.Site.Entrance
import Taskbook.Proofs.Http.Form
import Taskbook.Proofs.Site.Reading
import Taskbook.Proofs.Text.Order
import Taskbook.Proofs.Text.Lines
import Taskbook.Proofs.Include.View
import Taskbook.Proofs.Include.Put
import Taskbook.Proofs.Page.Frame
import Taskbook.Proofs.Text.Replacement
import Taskbook.Proofs.Site.Preview
import Taskbook.Proofs.Task.Grammar
import Taskbook.Proofs.Html.Tag
import Taskbook.Proofs.Page.Attribute
import Taskbook.Proofs.Page.Anchor
import Taskbook.Proofs.Page.Outline
import Taskbook.Proofs.Page.Sections
import Taskbook.Proofs.Page.Walk
import Taskbook.Proofs.Page.Renewal
import Taskbook.Proofs.Html.Skeleton
import Taskbook.Proofs.Task.Block
import Taskbook.Proofs.Include.Block
import Taskbook.Proofs.Include.Pending
import Taskbook.Proofs.Include.Order
import Taskbook.Proofs.Include.Everything
import Taskbook.Proofs.Html.Lines
import Taskbook.Proofs.Markdown.RawHtml
import Taskbook.Proofs.Include.Lines
import Taskbook.Proofs.Import.Merge
import Taskbook.Proofs.Text.Case
import Taskbook.Proofs.Store.Listing
import Taskbook.Proofs.Page.Title
import Taskbook.Proofs.Import.Repeat
import Taskbook.Proofs.Import.DryRun
import Taskbook.Proofs.Text.Percent
import Taskbook.Proofs.Text.PercentCode
import Taskbook.Proofs.Site.Address
import Taskbook.Proofs.Site.Redirect
import Taskbook.Proofs.Store.Metadata
import Taskbook.Proofs.Include.Moment
import Taskbook.Proofs.Include.Enough
import Taskbook.Proofs.Include.Failure
import Taskbook.Proofs.Page.Passes
import Taskbook.Proofs.Include.Target
import Taskbook.Proofs.Page.Quoted
import Taskbook.Proofs.Page.HeadingTag
import Taskbook.Proofs.Page.HeadingAnchor
import Taskbook.Proofs.PageName.Title
import Taskbook.Proofs.Include.Splice
import Taskbook.Proofs.Include.Implied
import Taskbook.Proofs.Site.Inclusion
import Taskbook.Proofs.Include.Literal
import Taskbook.Proofs.Page.Slug
