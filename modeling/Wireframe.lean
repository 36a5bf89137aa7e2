import Wireframe.Cache
import Wireframe.Calendar
import Wireframe.Command.Arguments
import Wireframe.Command.Console
import Wireframe.Command.Run
import Wireframe.Digest.Sha256
import Wireframe.Document.Basic
import Wireframe.Document.Build
import Wireframe.Document.Fault
import Wireframe.Document.Field
import Wireframe.Document.Outline
import Wireframe.Document.Path
import Wireframe.Document.Payload
import Wireframe.Document.Read
import Wireframe.Document.Vocabulary
import Wireframe.Document.Walk
import Wireframe.Export.Format
import Wireframe.Export.Html
import Wireframe.Export.Jsx
import Wireframe.Export.Pug
import Wireframe.Export.React
import Wireframe.Export.Sheet
import Wireframe.FilePath
import Wireframe.Files
import Wireframe.Json.Basic
import Wireframe.Json.Read
import Wireframe.Location
import Wireframe.Log.Pattern
import Wireframe.Log.Record
import Wireframe.Main
import Wireframe.Markup.Basic
import Wireframe.Markup.Names
import Wireframe.Markup.Read
import Wireframe.Markup.Reference
import Wireframe.Markup.Token
import Wireframe.Named
import Wireframe.Number.Read
import Wireframe.Number.Rounded
import Wireframe.Number.Shortest
import Wireframe.Number.Text
import Wireframe.Preview.Hub
import Wireframe.Preview.Message
import Wireframe.Preview.Outcome
import Wireframe.Preview.Pipeline
import Wireframe.Preview.Reload
import Wireframe.Preview.Script
import Wireframe.Preview.Server
import Wireframe.Preview.Session
import Wireframe.Preview.Surface
import Wireframe.Preview.Watch
import Wireframe.Proofs.Cache
import Wireframe.Proofs.Document.Acceptance
import Wireframe.Proofs.Document.Alike
import Wireframe.Proofs.Document.Content
import Wireframe.Proofs.Document.Contract
import Wireframe.Proofs.Document.Fields
import Wireframe.Proofs.Document.Identity
import Wireframe.Proofs.Document.Indifference
import Wireframe.Proofs.Document.Paths
import Wireframe.Proofs.Document.Payload
import Wireframe.Proofs.Document.Places
import Wireframe.Proofs.Document.Refusals
import Wireframe.Proofs.Document.Twins
import Wireframe.Proofs.Document.Walk
import Wireframe.Proofs.Export.Blocks
import Wireframe.Proofs.Export.Jsx
import Wireframe.Proofs.Export.JsxDocument
import Wireframe.Proofs.Export.JsxReading
import Wireframe.Proofs.Export.JsxTags
import Wireframe.Proofs.Export.Page
import Wireframe.Proofs.Export.Pug
import Wireframe.Proofs.Export.PugBreaks
import Wireframe.Proofs.Export.PugDocument
import Wireframe.Proofs.Export.PugHeads
import Wireframe.Proofs.Export.PugReading
import Wireframe.Proofs.Export.Sheets
import Wireframe.Proofs.Export.TextContent
import Wireframe.Proofs.Json.Numerals
import Wireframe.Proofs.Json.Reading
import Wireframe.Proofs.Json.Strings
import Wireframe.Proofs.Json.Written
import Wireframe.Proofs.Log.Lines
import Wireframe.Proofs.Markup.Contents
import Wireframe.Proofs.Markup.Elements
import Wireframe.Proofs.Markup.Front
import Wireframe.Proofs.Markup.Nodes
import Wireframe.Proofs.Markup.RawText
import Wireframe.Proofs.Markup.Regular
import Wireframe.Proofs.Markup.Written
import Wireframe.Proofs.Named
import Wireframe.Proofs.Number.NoNumber
import Wireframe.Proofs.Number.Reading
import Wireframe.Proofs.Number.Written
import Wireframe.Proofs.Overlong
import Wireframe.Proofs.Preview.Banner
import Wireframe.Proofs.Preview.Convergence
import Wireframe.Proofs.Preview.Delivery
import Wireframe.Proofs.Preview.Diagram
import Wireframe.Proofs.Preview.Display
import Wireframe.Proofs.Preview.EventStream
import Wireframe.Proofs.Preview.Flush
import Wireframe.Proofs.Preview.Handshake
import Wireframe.Proofs.Preview.History
import Wireframe.Proofs.Preview.Hub
import Wireframe.Proofs.Preview.InForce
import Wireframe.Proofs.Preview.LastGood
import Wireframe.Proofs.Preview.Latecomer
import Wireframe.Proofs.Preview.Mirror
import Wireframe.Proofs.Preview.Outcomes
import Wireframe.Proofs.Preview.Polling
import Wireframe.Proofs.Preview.Posting
import Wireframe.Proofs.Preview.Recency
import Wireframe.Proofs.Preview.Sharing
import Wireframe.Proofs.Preview.Uncached
import Wireframe.Proofs.Preview.Watching
import Wireframe.Proofs.Preview.Wire
import Wireframe.Proofs.Recency
import Wireframe.Proofs.Render.Captions
import Wireframe.Proofs.Render.Classes
import Wireframe.Proofs.Render.Cycles
import Wireframe.Proofs.Render.Declared
import Wireframe.Proofs.Render.Frame
import Wireframe.Proofs.Render.Ids
import Wireframe.Proofs.Render.Minimal
import Wireframe.Proofs.Render.Outline
import Wireframe.Proofs.Render.Reached
import Wireframe.Proofs.Render.Reading
import Wireframe.Proofs.Render.Search
import Wireframe.Proofs.Render.Vocabulary
import Wireframe.Proofs.Settings.Loading
import Wireframe.Proofs.Table
import Wireframe.Proofs.Text.Ascii
import Wireframe.Proofs.Text.Codes
import Wireframe.Proofs.Text.Lines
import Wireframe.Proofs.Text.Literal
import Wireframe.Proofs.Text.Quoted
import Wireframe.Proofs.Text.Spelled
import Wireframe.Proofs.Text.Utf8
import Wireframe.Proofs.Text.Words
import Wireframe.Proofs.Theme.Absence
import Wireframe.Proofs.Theme.Contract
import Wireframe.Proofs.Theme.Declarations
import Wireframe.Proofs.Theme.Entries
import Wireframe.Proofs.Theme.Fallback
import Wireframe.Proofs.Theme.Index
import Wireframe.Proofs.Theme.Layers
import Wireframe.Proofs.Theme.LeafValues
import Wireframe.Proofs.Theme.Overlay
import Wireframe.Proofs.Theme.Reserved
import Wireframe.Proofs.Theme.StyleIndex
import Wireframe.Proofs.Toml.Overlong
import Wireframe.Proofs.Yaml.Composition
import Wireframe.Proofs.Yaml.Escapes
import Wireframe.Proofs.Yaml.Faults
import Wireframe.Proofs.Yaml.Values
import Wireframe.Render.Fragment
import Wireframe.Render.Reference
import Wireframe.Render.Structure
import Wireframe.Render.Template
import Wireframe.Settings.Basic
import Wireframe.Settings.Field
import Wireframe.Settings.Load
import Wireframe.Table
import Wireframe.Text.Base64
import Wireframe.Text.Blank
import Wireframe.Text.Case
import Wireframe.Text.Digit
import Wireframe.Text.Halves
import Wireframe.Text.Lines
import Wireframe.Text.Printable
import Wireframe.Text.Quoted
import Wireframe.Text.Spelled
import Wireframe.Text.Utf8
import Wireframe.Theme.Builtin
import Wireframe.Theme.Css
import Wireframe.Theme.Fault
import Wireframe.Theme.Load
import Wireframe.Theme.Resolve
import Wireframe.Theme.Tokens
import Wireframe.Toml.Draft
import Wireframe.Toml.Fault
import Wireframe.Toml.Read
import Wireframe.Toml.Scalar
import Wireframe.Toml.Text
import Wireframe.Value
import Wireframe.Version
import Wireframe.Yaml.Error
import Wireframe.Yaml.Lexeme
import Wireframe.Yaml.Lexer
import Wireframe.Yaml.Load
import Wireframe.Yaml.Mark
import Wireframe.Yaml.Node
import Wireframe.Yaml.Scalar
import Wireframe.Yaml.Tag
import Wireframe.Yaml.Token
