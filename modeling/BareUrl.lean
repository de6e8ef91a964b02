import BareUrl.Address.Basic
import BareUrl.Address.Domain
import BareUrl.Address.Domain.Direction
import BareUrl.Address.Domain.Joining
import BareUrl.Address.Domain.Kept
import BareUrl.Address.Domain.Mark
import BareUrl.Address.Domain.Several
import BareUrl.Address.Domain.Single
import BareUrl.Address.Fault
import BareUrl.Address.Form
import BareUrl.Address.Host
import BareUrl.Address.Ipv4
import BareUrl.Address.Ipv6
import BareUrl.Address.Path
import BareUrl.Address.Percent
import BareUrl.Address.Punycode
import BareUrl.Address.Relative
import BareUrl.CommandLine.Basic
import BareUrl.CommandLine.Flag
import BareUrl.CommandLine.Message
import BareUrl.CommandLine.Reader
import BareUrl.Config.Basic
import BareUrl.Config.File
import BareUrl.Config.HeaderLine
import BareUrl.Config.Verbosity
import BareUrl.Converter
import BareUrl.Exchange.Basic
import BareUrl.Exchange.Client
import BareUrl.Exchange.Header
import BareUrl.Failure
import BareUrl.Input
import BareUrl.Json.Basic
import BareUrl.Json.Reader
import BareUrl.Json.Token
import BareUrl.Main
import BareUrl.Markup.Chunk
import BareUrl.Markup.Comment
import BareUrl.Markup.Exclusion
import BareUrl.Markup.Reference
import BareUrl.Markup.Reference.Capital
import BareUrl.Markup.Reference.Small
import BareUrl.Markup.Reference.Table
import BareUrl.Markup.Reference.Unclosed
import BareUrl.Markup.Tokenizer
import BareUrl.Note
import BareUrl.Program.Command
import BareUrl.Program.Run
import BareUrl.Program.Setup
import BareUrl.Program.Sink
import BareUrl.Program.Surroundings
import BareUrl.Provider.Basic
import BareUrl.Provider.Known
import BareUrl.Provider.Wildcard
import BareUrl.Resolution
import BareUrl.Resolver.Basic
import BareUrl.Resolver.Cached
import BareUrl.Resolver.Online
import BareUrl.Status
import BareUrl.Text.Basic
import BareUrl.Text.Blank
import BareUrl.Text.CharSet
import BareUrl.Text.CodeMap
import BareUrl.Text.Composition
import BareUrl.Text.Composition.Order
import BareUrl.Text.Composition.Parts
import BareUrl.Text.Cut
import BareUrl.Text.Decimal
import BareUrl.Text.Digits
import BareUrl.Text.Letter
import BareUrl.Text.Number
import BareUrl.Text.Reader
import BareUrl.Text.Utf8
import BareUrl.Text.Word
import BareUrl.Toml.Basic
import BareUrl.Toml.Reader
import BareUrl.Toml.Token
import BareUrl.Traced
import BareUrl.Url.Alphabet
import BareUrl.Url.Expression
import BareUrl.Url.Grammar
import BareUrl.Url.Host
import BareUrl.Url.Language
import BareUrl.Url.Trail
import BareUrl.Proofs.Markup.Comment
import BareUrl.Proofs.Markup.Mask
import BareUrl.Proofs.Markup.Chunk
import BareUrl.Proofs.Text.Reader
import BareUrl.Proofs.Url.Alphabet
import BareUrl.Proofs.Url.Expression
import BareUrl.Proofs.Url.Sound
import BareUrl.Proofs.Url.Language
import BareUrl.Proofs.Url.Complete
import BareUrl.Proofs.Text.Scan
import BareUrl.Proofs.Url.Find
import BareUrl.Proofs.Converter.Layout
import BareUrl.Proofs.Converter.Rewrite
import BareUrl.Proofs.Converter.Splice
import BareUrl.Proofs.Converter.Apart
import BareUrl.Proofs.Url.Local
import BareUrl.Proofs.Url.Before
import BareUrl.Proofs.Url.Apart
import BareUrl.Proofs.Url.Sentence
import BareUrl.Proofs.Markup.Exclusion
import BareUrl.Proofs.Converter.Exposed
import BareUrl.Proofs.Converter.Again
import BareUrl.Proofs.Converter.Idempotence
import BareUrl.Proofs.Converter.Placeholder
import BareUrl.Proofs.Converter.Bodies
import BareUrl.Proofs.Text.Case
import BareUrl.Proofs.Converter.Numbers
import BareUrl.Proofs.Converter.Seam
import BareUrl.Proofs.Markup.Document
import BareUrl.Proofs.Converter.Nesting
import BareUrl.Proofs.Traced
import BareUrl.Proofs.Resolver.Cached
import BareUrl.Proofs.Program.Sink
import BareUrl.Proofs.Program.Inputs
import BareUrl.Proofs.Program.Work
import BareUrl.Proofs.Program.OutputFile
import BareUrl.Proofs.Program.Exit
import BareUrl.Proofs.Markup.StartTag
import BareUrl.Proofs.Converter.Attribute
import BareUrl.Proofs.Converter.Several
import BareUrl.Proofs.Program.Listing
import BareUrl.Proofs.Exchange.Client
import BareUrl.Proofs.Resolver.Online
import BareUrl.Proofs.Converter.Online
import BareUrl.Proofs.Config.Merge
import BareUrl.Proofs.CommandLine.Written
import BareUrl.Proofs.Toml.Written
import BareUrl.Proofs.Text.Utf8
import BareUrl.Proofs.Config.HeaderLine
import BareUrl.Proofs.Config.Choices
import BareUrl.Proofs.Program.Settings
import BareUrl.Proofs.Provider.Wildcard
import BareUrl.Proofs.Markup.Closing
import BareUrl.Proofs.Markup.Names
import BareUrl.Proofs.Url.Protocols
import BareUrl.Proofs.Converter.Lists
import BareUrl.Proofs.Url.Longest
import BareUrl.Proofs.Markup.Reference
import BareUrl.Proofs.Converter.Behind
import BareUrl.Proofs.Exchange.Header
import BareUrl.Proofs.Config.Headers
import BareUrl.Proofs.Program.Headers
import BareUrl.Proofs.Address.Form
import BareUrl.Proofs.Exchange.Line
import BareUrl.Proofs.Resolver.Question
import BareUrl.Proofs.Markup.Chunking
import BareUrl.Proofs.Markup.Tokenizer
import BareUrl.Proofs.Markup.Decoding
import BareUrl.Proofs.Markup.Encoding
import BareUrl.Proofs.Program.Lines
import BareUrl.Proofs.Markup.Unmask
import BareUrl.Proofs.Failure
