import Paperwork.Checking.Accept
import Paperwork.Checking.Checked
import Paperwork.Checking.Fault
import Paperwork.Command.Files
import Paperwork.Command.Options
import Paperwork.Command.Run
import Paperwork.Data.Display
import Paperwork.Data.Graph
import Paperwork.Data.Json.Reader
import Paperwork.Data.Json.Writer
import Paperwork.Data.Pairs
import Paperwork.Data.Path
import Paperwork.Data.Rehydrate
import Paperwork.Data.Shown
import Paperwork.Data.Value
import Paperwork.Document.Build
import Paperwork.Document.Check
import Paperwork.Document.Convert
import Paperwork.Document.Node
import Paperwork.Document.Reading
import Paperwork.Document.Region
import Paperwork.Document.Scan
import Paperwork.Document.Wrapper
import Paperwork.Form.Compile
import Paperwork.Form.Inputs
import Paperwork.Form.Record
import Paperwork.Form.Schema.Basic
import Paperwork.Form.Schema.Check
import Paperwork.Form.Schema.Read
import Paperwork.Form.Title
import Paperwork.Html.Content
import Paperwork.Html.Entity.Bare
import Paperwork.Html.Entity.FirstLower
import Paperwork.Html.Entity.LastLower
import Paperwork.Html.Entity.Name
import Paperwork.Html.Entity.Upper
import Paperwork.Html.Escape
import Paperwork.Html.Markup
import Paperwork.Html.Reference
import Paperwork.Html.Tag
import Paperwork.Html.Visible
import Paperwork.Main
import Paperwork.Notice
import Paperwork.Number.Binary64
import Paperwork.Number.Reading
import Paperwork.Number.Shortest
import Paperwork.Number.Text
import Paperwork.Output.Format
import Paperwork.Output.Moment
import Paperwork.Output.Produce
import Paperwork.Page.Block
import Paperwork.Page.Document
import Paperwork.Page.Placeholder
import Paperwork.Page.Stylesheet
import Paperwork.Picture.Bmp
import Paperwork.Picture.Bytes
import Paperwork.Picture.Checksum
import Paperwork.Picture.Gif
import Paperwork.Picture.Jpeg
import Paperwork.Picture.Measure
import Paperwork.Picture.Measures
import Paperwork.Picture.Png
import Paperwork.Picture.Tiff
import Paperwork.Print.FontWidth
import Paperwork.Print.Pdf
import Paperwork.Print.Plain
import Paperwork.Print.Story
import Paperwork.Proofs.Answers
import Paperwork.Proofs.Command.Saved
import Paperwork.Proofs.Command.Untouched
import Paperwork.Proofs.Data.Graph.Copies
import Paperwork.Proofs.Data.Json.Atoms
import Paperwork.Proofs.Data.Json.RoundTrip
import Paperwork.Proofs.Data.NormalForm
import Paperwork.Proofs.Data.Packed
import Paperwork.Proofs.Data.Path
import Paperwork.Proofs.Document.Advance
import Paperwork.Proofs.Document.Capped
import Paperwork.Proofs.Document.Conservation
import Paperwork.Proofs.Document.Hidden
import Paperwork.Proofs.Document.Lookahead
import Paperwork.Proofs.Document.Pictures
import Paperwork.Proofs.Document.Regions
import Paperwork.Proofs.Document.Rows
import Paperwork.Proofs.Document.Runs
import Paperwork.Proofs.Document.Sources
import Paperwork.Proofs.Document.Tables
import Paperwork.Proofs.Document.Unclosed
import Paperwork.Proofs.Document.WellFormed
import Paperwork.Proofs.Document.Wrappers
import Paperwork.Proofs.Form.Binding
import Paperwork.Proofs.Form.Integers
import Paperwork.Proofs.Form.Lenient
import Paperwork.Proofs.Form.Shaping
import Paperwork.Proofs.Html.Blank
import Paperwork.Proofs.Html.Markup
import Paperwork.Proofs.Html.Plain
import Paperwork.Proofs.Html.Reference
import Paperwork.Proofs.Number.Exact
import Paperwork.Proofs.Number.Range
import Paperwork.Proofs.Number.Text
import Paperwork.Proofs.Number.Written
import Paperwork.Proofs.Output.Refused
import Paperwork.Proofs.Output.Undeclared
import Paperwork.Proofs.Page.Escaping
import Paperwork.Proofs.Page.Filling
import Paperwork.Proofs.Page.Lookups
import Paperwork.Proofs.Page.Outline
import Paperwork.Proofs.Page.Printed
import Paperwork.Proofs.Page.Stands
import Paperwork.Proofs.Page.Words
import Paperwork.Proofs.Print.Fallback
import Paperwork.Proofs.Print.Layout
import Paperwork.Proofs.Template.Authored
import Paperwork.Proofs.Text.Base64
import Paperwork.Proofs.Text.Search
import Paperwork.Proofs.Word.Numbering
import Paperwork.Settings.Basic
import Paperwork.Settings.Check
import Paperwork.Settings.Definitions
import Paperwork.Settings.Environment
import Paperwork.Template.Block
import Paperwork.Template.Check
import Paperwork.Template.Style
import Paperwork.Template.Write
import Paperwork.Text.Base64
import Paperwork.Text.Blank
import Paperwork.Text.Cased
import Paperwork.Text.Digit
import Paperwork.Text.LetterCase
import Paperwork.Text.Likeness
import Paperwork.Text.Lines
import Paperwork.Text.Pattern
import Paperwork.Text.Printable
import Paperwork.Text.Quoted
import Paperwork.Text.Ranges
import Paperwork.Text.WordChar
import Paperwork.Text.Words
import Paperwork.Word.Compose
import Paperwork.Word.Numbering
import Paperwork.Word.OfPage
import Paperwork.Word.Outline
