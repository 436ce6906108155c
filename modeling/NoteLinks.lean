import NoteLinks.Command
import NoteLinks.CommandLine
import NoteLinks.CrossReference
import NoteLinks.Csv
import NoteLinks.Decimal
import NoteLinks.Decimal.Binary
import NoteLinks.Dictionary
import NoteLinks.Failure
import NoteLinks.FileSystem
import NoteLinks.Fragment
import NoteLinks.Help.Match
import NoteLinks.Help.Rule
import NoteLinks.Help.Scope
import NoteLinks.Help.Sheet
import NoteLinks.Help.Table
import NoteLinks.Html.Anchor
import NoteLinks.Html.Attribute
import NoteLinks.Html.Entities
import NoteLinks.Html.FurtherNames
import NoteLinks.Html.Reference
import NoteLinks.Image
import NoteLinks.Link
import NoteLinks.Link.Expansion
import NoteLinks.Link.Markup
import NoteLinks.Main
import NoteLinks.Markdown.Autolink
import NoteLinks.Markdown.Block
import NoteLinks.Markdown.BlockReader
import NoteLinks.Markdown.Break
import NoteLinks.Markdown.Container
import NoteLinks.Markdown.Definition
import NoteLinks.Markdown.Document
import NoteLinks.Markdown.Emphasis
import NoteLinks.Markdown.Escape
import NoteLinks.Markdown.Event
import NoteLinks.Markdown.Images
import NoteLinks.Markdown.Inline
import NoteLinks.Markdown.Label
import NoteLinks.Markdown.Line
import NoteLinks.Markdown.Paragraph
import NoteLinks.Markdown.Place
import NoteLinks.Markdown.RawHtml
import NoteLinks.Markdown.Source
import NoteLinks.Markdown.Table
import NoteLinks.Markdown.Target
import NoteLinks.Markdown.Verbatim
import NoteLinks.Markdown.Writer
import NoteLinks.Message
import NoteLinks.Mime
import NoteLinks.Note
import NoteLinks.Percent
import NoteLinks.Proofs.Anchors
import NoteLinks.Proofs.Attributes
import NoteLinks.Proofs.Chains
import NoteLinks.Proofs.Cutting
import NoteLinks.Proofs.Expansions
import NoteLinks.Proofs.Fragments
import NoteLinks.Proofs.Rewriting
import NoteLinks.Provider
import NoteLinks.Provider.Article
import NoteLinks.Provider.Listing
import NoteLinks.Provider.MapView
import NoteLinks.PublicFile
import NoteLinks.Record
import NoteLinks.Record.Document
import NoteLinks.Record.Store
import NoteLinks.Settings
import NoteLinks.Settings.Document
import NoteLinks.Settings.File
import NoteLinks.Settings.Profile
import NoteLinks.Text
import NoteLinks.Text.Blank
import NoteLinks.Text.Digit
import NoteLinks.Text.Fold
import NoteLinks.Text.Invisible
import NoteLinks.Text.Order
import NoteLinks.Text.Punctuation
import NoteLinks.Text.Quoted
import NoteLinks.Timestamp
import NoteLinks.Url
import NoteLinks.Utf8
import NoteLinks.Yaml.Gap
import NoteLinks.Yaml.Layout
import NoteLinks.Yaml.Node
import NoteLinks.Yaml.Plain
import NoteLinks.Yaml.Quoted
import NoteLinks.Yaml.Reader
import NoteLinks.Yaml.Scalar
import NoteLinks.Yaml.Token
import NoteLinks.Yaml.Value
import NoteLinks.Yaml.Verbatim
import NoteLinks.Yaml.Writer
import NoteLinks.Proofs.RecordChecks
import NoteLinks.Proofs.Privacy
import NoteLinks.Proofs.Percent
import NoteLinks.Proofs.FragmentWriting
import NoteLinks.Proofs.Rescanning
import NoteLinks.Proofs.Numerals
import NoteLinks.Proofs.Trimming
import NoteLinks.Proofs.Timestamps
import NoteLinks.Proofs.DelimitedText
import NoteLinks.Proofs.RuleSheets
import NoteLinks.Proofs.FileSystems
import NoteLinks.Proofs.RuleFiles
import NoteLinks.Proofs.Sandbox
import NoteLinks.Proofs.Addresses
import NoteLinks.Proofs.HelpRanking
import NoteLinks.Proofs.FragmentMeaning
import NoteLinks.Proofs.Markup
import NoteLinks.Proofs.ImageMarkup
import NoteLinks.Proofs.OtherTags
import NoteLinks.Proofs.CrossReferences
import NoteLinks.Proofs.Routes
import NoteLinks.Proofs.ShownRecords
import NoteLinks.Proofs.MapViews
import NoteLinks.Proofs.Articles
import NoteLinks.Proofs.ImageSpans
import NoteLinks.Proofs.ImageSources
import NoteLinks.Proofs.AccessVerdicts
import NoteLinks.Proofs.KeptAttributes
import NoteLinks.Proofs.BareValues
import NoteLinks.Proofs.TableTexts
import NoteLinks.Proofs.FaultLines
import NoteLinks.Proofs.ColumnOrder
import NoteLinks.Proofs.Scopes
import NoteLinks.Proofs.PublicAddresses
import NoteLinks.Proofs.Dictionaries
import NoteLinks.Proofs.SameValues
import NoteLinks.Proofs.MergedValues
import NoteLinks.Proofs.StatedSettings
import NoteLinks.Proofs.LayeredSettings
import NoteLinks.Proofs.WrittenScalars
import NoteLinks.Proofs.FlowTokens
import NoteLinks.Proofs.WrittenDocuments
import NoteLinks.Proofs.SavedSettings
import NoteLinks.Proofs.Insertions
import NoteLinks.Proofs.WrittenAttributes
import NoteLinks.Proofs.MessageTexts
import NoteLinks.Proofs.ClassLists
