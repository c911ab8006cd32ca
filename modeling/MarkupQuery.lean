import MarkupQuery.Attribute
import MarkupQuery.Bytes
import MarkupQuery.Calendar
import MarkupQuery.CharSet
import MarkupQuery.Cursor
import MarkupQuery.DateTime
import MarkupQuery.DateTime.Format
import MarkupQuery.DateTime.Parse
import MarkupQuery.Delimiter
import MarkupQuery.Document
import MarkupQuery.Event
import MarkupQuery.Failure
import MarkupQuery.Lexer
import MarkupQuery.Name
import MarkupQuery.Namespace
import MarkupQuery.Node
import MarkupQuery.Node.Markup
import MarkupQuery.Node.Place
import MarkupQuery.Path
import MarkupQuery.Path.Cache
import MarkupQuery.Pattern
import MarkupQuery.Pattern.Automaton
import MarkupQuery.Pattern.ByteRanges
import MarkupQuery.Pattern.Named
import MarkupQuery.Pattern.Outline
import MarkupQuery.Pattern.Parser
import MarkupQuery.Proofs.Lexer.Locality
import MarkupQuery.Proofs.Utf8.Decoding
import MarkupQuery.Reader
import MarkupQuery.Reference
import MarkupQuery.Resolver
import MarkupQuery.Stream.Dispatcher
import MarkupQuery.Stream.Streamer
import MarkupQuery.Stream.Trail
import MarkupQuery.Text
import MarkupQuery.Text.CaseFold
import MarkupQuery.Text.Category
import MarkupQuery.Text.Newer
import MarkupQuery.Text.Property
import MarkupQuery.Text.Quoted
import MarkupQuery.Text.Ranges
import MarkupQuery.Text.Script
import MarkupQuery.Text.ScriptExtension
import MarkupQuery.Text.Segment
import MarkupQuery.Text.Version
import MarkupQuery.Text.Visible
import MarkupQuery.Token
import MarkupQuery.Utf8
import MarkupQuery.Value
import MarkupQuery.Value.Binary64
import MarkupQuery.Proofs.Stream.Declarations
import MarkupQuery.Proofs.Stream.Dispatch
import MarkupQuery.Proofs.Stream.Feeding
import MarkupQuery.Proofs.Stream.Promptness
import MarkupQuery.Proofs.Stream.Refinement
import MarkupQuery.Proofs.Stream.Selector
import MarkupQuery.Proofs.Stream.Trail
import MarkupQuery.Proofs.Document.Building
import MarkupQuery.Proofs.Document.Content
import MarkupQuery.Proofs.Document.Reading
import MarkupQuery.Proofs.Document.Scope
import MarkupQuery.Proofs.Lexer.Stretch
import MarkupQuery.Proofs.Lexer.Tiling
import MarkupQuery.Proofs.Reader
import MarkupQuery.Proofs.Stream.Chunking
import MarkupQuery.Proofs.Lexer.Continuation
import MarkupQuery.Proofs.Name
import MarkupQuery.Proofs.Reference
import MarkupQuery.Proofs.Stream.Bounds
import MarkupQuery.Proofs.Lexer.Spelling
import MarkupQuery.Proofs.Document.Declaring
import MarkupQuery.Proofs.Document.Making
import MarkupQuery.Proofs.Document.Tagging
import MarkupQuery.Proofs.Document.RoundTrip
import MarkupQuery.Proofs.Lexer.Rendering
import MarkupQuery.Proofs.Lexer.DocumentType
import MarkupQuery.Proofs.Document.Lookup
import MarkupQuery.Proofs.Lexer.Opening
import MarkupQuery.Proofs.Stream.OpenTags
import MarkupQuery.Proofs.Stream.Matching
import MarkupQuery.Proofs.Stream.Standing
import MarkupQuery.Proofs.Path.Recency
import MarkupQuery.Proofs.Path.Sharing
import MarkupQuery.Proofs.Path.Joining
import MarkupQuery.Proofs.Path.Walking
import MarkupQuery.Proofs.Reference.Grammar
import MarkupQuery.Proofs.Namespace
import MarkupQuery.Proofs.Path.Normal
import MarkupQuery.Proofs.Reader.Calls
import MarkupQuery.Proofs.Attribute.Layout
import MarkupQuery.Proofs.Path.Addressing
import MarkupQuery.Proofs.Utf8.Boundary
import MarkupQuery.Proofs.Utf8.Slicing
import MarkupQuery.Proofs.Lexer.Encoding
import MarkupQuery.Proofs.Reference.Slicing
import MarkupQuery.Proofs.Attribute.Slicing
import MarkupQuery.Proofs.Document.Encoding
import MarkupQuery.Proofs.Stream.Joined
import MarkupQuery.Proofs.Document.Recipe
import MarkupQuery.Proofs.Document.Offset
