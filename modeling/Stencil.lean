import Stencil.Text.Basic
import Stencil.Text.CodePoints
import Stencil.Text.Blank
import Stencil.Text.Word
import Stencil.Text.Printable
import Stencil.Text.LetterCase
import Stencil.Text.Lines
import Stencil.Text.Quoted
import Stencil.Text.StringLiteral
import Stencil.Text.Utf8
import Stencil.Text.Terminal
import Stencil.Text.CellWidth
import Stencil.Text.Cluster
import Stencil.Text.Layout
import Stencil.Text.Emoji
import Stencil.Text.Styled
import Stencil.Json
import Stencil.LineBreak
import Stencil.Report
import Stencil.Node.Basic
import Stencil.Node.Printer
import Stencil.Node.Outline
import Stencil.Event.Basic
import Stencil.Event.Directive
import Stencil.Event.Scan
import Stencil.Frame
import Stencil.Parse
import Stencil.Config
import Stencil.Style.Declaration
import Stencil.Jsx.Literal
import Stencil.Jsx.Style
import Stencil.Jsx.Attribute
import Stencil.Jsx.Markup
import Stencil.Lower.Fault
import Stencil.Lower.Literal
import Stencil.Lower.Style
import Stencil.Lower.Attribute
import Stencil.Lower.Content
import Stencil.Component
import Stencil.FileTree.Path
import Stencil.FileTree.Glob
import Stencil.FileTree.Basic
import Stencil.FileTree.Search
import Stencil.Build
import Stencil.Cli.Options
import Stencil.Cli.Run
import Stencil.Main
import Stencil.Proofs.LineBreak
import Stencil.Proofs.Text.Mark
import Stencil.Proofs.Event.Header
import Stencil.Proofs.Event.Iteration
import Stencil.Proofs.Event.Lexeme
import Stencil.Proofs.Event.Zone
import Stencil.Proofs.Event.Stream
import Stencil.Proofs.Event.Layout
import Stencil.Proofs.Builder
import Stencil.Proofs.Parse
import Stencil.Proofs.Event.Reading
import Stencil.Proofs.Node.Settled
import Stencil.Proofs.Node.Tidy
import Stencil.Proofs.Node.Outline
import Stencil.Proofs.RoundTrip
import Stencil.Proofs.Lower.Output
import Stencil.Proofs.Node.Clean
import Stencil.Proofs.Builder.Account
import Stencil.Proofs.LineBreak.Tag
import Stencil.Proofs.LineBreak.Run
import Stencil.Proofs.LineBreak.Directive
import Stencil.Proofs.Report
import Stencil.Proofs.Lower.Refusal
import Stencil.Proofs.Lower.Supported
import Stencil.Proofs.Session
import Stencil.Proofs.Jsx.Literal
import Stencil.Proofs.Jsx.Meaning
import Stencil.Proofs.Lower.Expansion
import Stencil.Proofs.Jsx.StyleMeaning
import Stencil.Proofs.Style.Declaration
import Stencil.Proofs.Lower.StylePieces
import Stencil.Proofs.Lower.Style
import Stencil.Proofs.Jsx.Semicolon
import Stencil.Proofs.Lower.Semicolon
import Stencil.Proofs.FileTree.Location
import Stencil.Proofs.FileTree.Search
import Stencil.Proofs.Build.Isolation
import Stencil.Proofs.Build.Frame
import Stencil.Proofs.Lower.AttributeName
import Stencil.Proofs.Jsx.Reference
import Stencil.Proofs.Lower.LiteralText
import Stencil.Proofs.Jsx.Script
import Stencil.Proofs.Lower.Operand
import Stencil.Proofs.Jsx.Code
import Stencil.Proofs.Lower.MissingList
import Stencil.Proofs.Style.Mapping
import Stencil.Proofs.Style.PropertyName
import Stencil.Proofs.Lower.StyleText
import Stencil.Proofs.Lower.ComposedLiteral
import Stencil.Proofs.Lower.StyleTrace
import Stencil.Proofs.Builder.FrameStore
import Stencil.Proofs.Builder.Simulation
