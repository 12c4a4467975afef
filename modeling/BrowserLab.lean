import BrowserLab.Backend
import BrowserLab.Bus
import BrowserLab.Catalog.Basic
import BrowserLab.Catalog.Builtin
import BrowserLab.Catalog.Document
import BrowserLab.Catalog.Maintenance
import BrowserLab.Catalog.Network
import BrowserLab.Catalog.Pages
import BrowserLab.Catalog.Text
import BrowserLab.Command.Advice
import BrowserLab.Command.Arguments
import BrowserLab.Command.Basic
import BrowserLab.Command.Browse
import BrowserLab.Command.Run
import BrowserLab.Command.Standing
import BrowserLab.Concurrent
import BrowserLab.Config
import BrowserLab.Config.Text
import BrowserLab.Dict
import BrowserLab.Disk
import BrowserLab.Document
import BrowserLab.Draws
import BrowserLab.Environment
import BrowserLab.Error
import BrowserLab.Event.Basic
import BrowserLab.Event.Document
import BrowserLab.Glob
import BrowserLab.Json.Basic
import BrowserLab.Json.Printer
import BrowserLab.Json.Reader
import BrowserLab.Main
import BrowserLab.Mentor
import BrowserLab.Moment
import BrowserLab.Number.Binary
import BrowserLab.Number.Fixed
import BrowserLab.Number.Reader
import BrowserLab.Number.Shortest
import BrowserLab.Number.Text
import BrowserLab.Playground.Basic
import BrowserLab.Playground.View
import BrowserLab.Progress.Basic
import BrowserLab.Progress.Saving
import BrowserLab.Proofs.Backend
import BrowserLab.Proofs.Backend.Fill
import BrowserLab.Proofs.Bus
import BrowserLab.Proofs.Catalog.Skeleton
import BrowserLab.Proofs.Command.Run
import BrowserLab.Proofs.Concurrent.Isolation
import BrowserLab.Proofs.Dict
import BrowserLab.Proofs.Document
import BrowserLab.Proofs.Draws
import BrowserLab.Proofs.Event.ReadBack
import BrowserLab.Proofs.Glob
import BrowserLab.Proofs.Json.ReadBack
import BrowserLab.Proofs.Json.Sorted
import BrowserLab.Proofs.Json.Text
import BrowserLab.Proofs.Number.Index
import BrowserLab.Proofs.Number.Key
import BrowserLab.Proofs.Number.Shortest
import BrowserLab.Proofs.Number.Sum
import BrowserLab.Proofs.Number.Units
import BrowserLab.Proofs.Number.Unpacked
import BrowserLab.Proofs.Number.Whole
import BrowserLab.Proofs.Playground.Hear
import BrowserLab.Proofs.Playground.Intercept
import BrowserLab.Proofs.Playground.Network
import BrowserLab.Proofs.Playground.Reacts
import BrowserLab.Proofs.Progress.CutShort
import BrowserLab.Proofs.Progress.Key
import BrowserLab.Proofs.Progress.Load
import BrowserLab.Proofs.Progress.Record
import BrowserLab.Proofs.Progress.Saving
import BrowserLab.Proofs.Script.Along
import BrowserLab.Proofs.Script.Building
import BrowserLab.Proofs.Script.Calls
import BrowserLab.Proofs.Script.Chain
import BrowserLab.Proofs.Script.CodePoint
import BrowserLab.Proofs.Script.ComesTo
import BrowserLab.Proofs.Script.Commands
import BrowserLab.Proofs.Script.Compile
import BrowserLab.Proofs.Script.Declares
import BrowserLab.Proofs.Script.Does
import BrowserLab.Proofs.Script.Equality
import BrowserLab.Proofs.Script.Evaluation
import BrowserLab.Proofs.Script.Finally
import BrowserLab.Proofs.Script.Follows
import BrowserLab.Proofs.Script.Global
import BrowserLab.Proofs.Script.Grammar.Levels
import BrowserLab.Proofs.Script.Grammar.Lookahead
import BrowserLab.Proofs.Script.Grammar.Places
import BrowserLab.Proofs.Script.Grammar.Progress
import BrowserLab.Proofs.Script.Grammar.Read
import BrowserLab.Proofs.Script.Grammar.Rules
import BrowserLab.Proofs.Script.Grammar.Settles
import BrowserLab.Proofs.Script.Grammar.Spell
import BrowserLab.Proofs.Script.Grammar.Stream
import BrowserLab.Proofs.Script.Groups
import BrowserLab.Proofs.Script.Judgement
import BrowserLab.Proofs.Script.Held
import BrowserLab.Proofs.Script.Import
import BrowserLab.Proofs.Script.Json.Built
import BrowserLab.Proofs.Script.Json.Echo
import BrowserLab.Proofs.Script.Json.Literal
import BrowserLab.Proofs.Script.Json.Shown
import BrowserLab.Proofs.Script.Json.Stable
import BrowserLab.Proofs.Script.Loop
import BrowserLab.Proofs.Script.Method
import BrowserLab.Proofs.Script.MethodCall
import BrowserLab.Proofs.Script.Nearest
import BrowserLab.Proofs.Script.NumericKey
import BrowserLab.Proofs.Script.Passage
import BrowserLab.Proofs.Script.Reach
import BrowserLab.Proofs.Script.Rewriting
import BrowserLab.Proofs.Script.Run
import BrowserLab.Proofs.Script.Scoping
import BrowserLab.Proofs.Script.Slice
import BrowserLab.Proofs.Script.Spliced
import BrowserLab.Proofs.Script.Stacks
import BrowserLab.Proofs.Script.Tame
import BrowserLab.Proofs.Script.Tests
import BrowserLab.Proofs.Script.Then
import BrowserLab.Proofs.Script.Token.Cover
import BrowserLab.Proofs.Script.Token.Cut
import BrowserLab.Proofs.Script.Token.Ends
import BrowserLab.Proofs.Script.Token.Hole
import BrowserLab.Proofs.Script.Token.Numeral
import BrowserLab.Proofs.Script.Token.Stops
import BrowserLab.Proofs.Script.Token.Takes
import BrowserLab.Proofs.Script.Untouched
import BrowserLab.Proofs.Script.ValueMethod
import BrowserLab.Proofs.Script.Watched
import BrowserLab.Proofs.Script.Yield
import BrowserLab.Proofs.Session.Announce
import BrowserLab.Proofs.Session.Answered
import BrowserLab.Proofs.Session.Apart
import BrowserLab.Proofs.Session.History
import BrowserLab.Proofs.Session.Intercept
import BrowserLab.Proofs.Session.Network
import BrowserLab.Proofs.Session.Pace
import BrowserLab.Proofs.Session.ReadBack
import BrowserLab.Proofs.Session.Sent
import BrowserLab.Proofs.Session.Served
import BrowserLab.Proofs.Session.Valid
import BrowserLab.Proofs.Session.Yield
import BrowserLab.Proofs.Surface.Admits
import BrowserLab.Proofs.Surface.Argument
import BrowserLab.Proofs.Surface.Atomic
import BrowserLab.Proofs.Surface.Command
import BrowserLab.Proofs.Surface.Frames
import BrowserLab.Proofs.Surface.Invoke
import BrowserLab.Proofs.Surface.Page
import BrowserLab.Proofs.Surface.Request
import BrowserLab.Proofs.Text.Search
import BrowserLab.Proofs.Text.Words
import BrowserLab.Proofs.Trace.Told
import BrowserLab.Script.ArrayMethod
import BrowserLab.Script.Eval
import BrowserLab.Script.Global
import BrowserLab.Script.Heap
import BrowserLab.Script.Import
import BrowserLab.Script.Machine
import BrowserLab.Script.Operator
import BrowserLab.Script.Parser
import BrowserLab.Script.Position
import BrowserLab.Script.Program
import BrowserLab.Script.Property
import BrowserLab.Script.Reply
import BrowserLab.Script.Run
import BrowserLab.Script.Scope
import BrowserLab.Script.StringMethod
import BrowserLab.Script.Syntax
import BrowserLab.Script.Token
import BrowserLab.Script.Token.Lexer
import BrowserLab.Script.Value
import BrowserLab.Session
import BrowserLab.Style
import BrowserLab.Surface.Argument
import BrowserLab.Surface.Command
import BrowserLab.Surface.Invoke
import BrowserLab.Surface.Page
import BrowserLab.Surface.Request
import BrowserLab.Table
import BrowserLab.Text.Alphabetic
import BrowserLab.Text.Blank
import BrowserLab.Text.Boundaries
import BrowserLab.Text.Case
import BrowserLab.Text.Quoted
import BrowserLab.Text.Search
import BrowserLab.Text.Unprintable
import BrowserLab.Text.Width
import BrowserLab.Toml.Printer
import BrowserLab.Toml.Reader
import BrowserLab.Toml.Value
import BrowserLab.Trace.Basic
import BrowserLab.Trace.Recorder
import BrowserLab.Yaml.Node
import BrowserLab.Yaml.Printer
import BrowserLab.Yaml.Reader
import BrowserLab.Yaml.Scalar
