import MqttRouting.Attribute.Analysis
import MqttRouting.Attribute.Arguments
import MqttRouting.Attribute.Attr
import MqttRouting.Attribute.Code
import MqttRouting.Attribute.Error
import MqttRouting.Attribute.Generated
import MqttRouting.Attribute.Grammar.Cursor
import MqttRouting.Attribute.Grammar.Depth
import MqttRouting.Attribute.Grammar.Expr
import MqttRouting.Attribute.Grammar.Generics
import MqttRouting.Attribute.Grammar.Item
import MqttRouting.Attribute.Grammar.Member
import MqttRouting.Attribute.Grammar.Nested
import MqttRouting.Attribute.Grammar.Operand
import MqttRouting.Attribute.Grammar.Path
import MqttRouting.Attribute.Grammar.Pattern
import MqttRouting.Attribute.Grammar.Signature
import MqttRouting.Attribute.Grammar.Statement
import MqttRouting.Attribute.Grammar.Types
import MqttRouting.Attribute.ImplBlock
import MqttRouting.Attribute.ImplBlock.Reader
import MqttRouting.Attribute.Lexer
import MqttRouting.Attribute.Literal
import MqttRouting.Attribute.Parameter
import MqttRouting.Attribute.Plan
import MqttRouting.Attribute.Token
import MqttRouting.Client.EventLoop
import MqttRouting.Client.Options
import MqttRouting.Client.Sender
import MqttRouting.Declaration
import MqttRouting.Declaration.Builder
import MqttRouting.Dictionary
import MqttRouting.Dispatcher
import MqttRouting.Dispatcher.Host
import MqttRouting.Dispatcher.Step
import MqttRouting.Example.Recorder
import MqttRouting.Handler.Args
import MqttRouting.Handler.Pool
import MqttRouting.Handler.Script
import MqttRouting.Handler.Task
import MqttRouting.Hook
import MqttRouting.Json.Fault
import MqttRouting.Json.Printer
import MqttRouting.Json.Reader
import MqttRouting.Json.Shape
import MqttRouting.Json.Skip
import MqttRouting.Json.Value
import MqttRouting.Message
import MqttRouting.Notice
import MqttRouting.Number.Binary64
import MqttRouting.Number.Shortest
import MqttRouting.Payload.Basic
import MqttRouting.Payload.Transform
import MqttRouting.Router.Config
import MqttRouting.Router.Connect
import MqttRouting.Router.Error
import MqttRouting.Router.Run
import MqttRouting.Router.Session
import MqttRouting.Settings
import MqttRouting.Subscription
import MqttRouting.Subscription.Registry
import MqttRouting.Text.Blank
import MqttRouting.Text.Hidden
import MqttRouting.Text.Identifier
import MqttRouting.Text.Mark
import MqttRouting.Text.Offset
import MqttRouting.Text.Quoted
import MqttRouting.Text.Unprintable
import MqttRouting.Text.Utf8
import MqttRouting.Topic.Compiled
import MqttRouting.Topic.Engine
import MqttRouting.Topic.Engine.Sized
import MqttRouting.Topic.Expression
import MqttRouting.Topic.Matcher
import MqttRouting.Topic.PatternError
import MqttRouting.Topic.Placeholder
import MqttRouting.Topic.Policy
import MqttRouting.Topic.Regex
import MqttRouting.Topic.Route
import MqttRouting.Topic.Search
import MqttRouting.Transport
import MqttRouting.Transport.Tracker
import MqttRouting.Url
import MqttRouting.Url.Domain
import MqttRouting.Url.Ipv4
import MqttRouting.Url.Ipv6
import MqttRouting.Url.Percent
import MqttRouting.Url.Punycode
import MqttRouting.Proofs.Attribute.Code
import MqttRouting.Proofs.Attribute.Markers
import MqttRouting.Proofs.Attribute.Readers
import MqttRouting.Proofs.Attribute.Subscriptions
import MqttRouting.Proofs.Attribute.Templates
import MqttRouting.Proofs.Attribute.Types
import MqttRouting.Proofs.Attribute.Unbroken
import MqttRouting.Proofs.Attribute.Wiring
import MqttRouting.Proofs.Compiler
import MqttRouting.Proofs.Declaration
import MqttRouting.Proofs.Declaration.Building
import MqttRouting.Proofs.Dispatcher.Arguments
import MqttRouting.Proofs.Dispatcher.Coverage
import MqttRouting.Proofs.Dispatcher.History
import MqttRouting.Proofs.Dispatcher.Refusal
import MqttRouting.Proofs.Dispatcher.Routing
import MqttRouting.Proofs.Dispatcher.Subscribing
import MqttRouting.Proofs.Dispatcher.Surroundings
import MqttRouting.Proofs.Except
import MqttRouting.Proofs.Json.Objects
import MqttRouting.Proofs.Json.Reading
import MqttRouting.Proofs.Json.Shapes
import MqttRouting.Proofs.Json.Skipping
import MqttRouting.Proofs.Payload.Forms
import MqttRouting.Proofs.Registry
import MqttRouting.Proofs.Registry.FirstMatch
import MqttRouting.Proofs.Session.Actors
import MqttRouting.Proofs.Session.Alike
import MqttRouting.Proofs.Session.Answers
import MqttRouting.Proofs.Session.Capacity
import MqttRouting.Proofs.Session.Deadlock
import MqttRouting.Proofs.Session.Exchange
import MqttRouting.Proofs.Session.Isolation
import MqttRouting.Proofs.Session.Jam
import MqttRouting.Proofs.Session.Ledger
import MqttRouting.Proofs.Session.Moves
import MqttRouting.Proofs.Session.Release
import MqttRouting.Proofs.Session.Shutdown
import MqttRouting.Proofs.Settings
import MqttRouting.Proofs.Text.Offset
import MqttRouting.Proofs.Text.Utf8
import MqttRouting.Proofs.Topic.Acceptance
import MqttRouting.Proofs.Topic.Captures
import MqttRouting.Proofs.Topic.Decomposition
import MqttRouting.Proofs.Topic.Defects
import MqttRouting.Proofs.Topic.Delivery
import MqttRouting.Proofs.Topic.Language
import MqttRouting.Proofs.Topic.Leftovers
import MqttRouting.Proofs.Topic.Legality
import MqttRouting.Proofs.Topic.Levels
import MqttRouting.Proofs.Topic.Memory
import MqttRouting.Proofs.Topic.Placeholders
import MqttRouting.Proofs.Topic.Prefixes
import MqttRouting.Proofs.Topic.Regex
import MqttRouting.Proofs.Topic.Rendering
import MqttRouting.Proofs.Topic.Samples
import MqttRouting.Proofs.Topic.Search
import MqttRouting.Proofs.Topic.Sized
import MqttRouting.Proofs.Transport.Correlation
import MqttRouting.Proofs.Transport.Fates
