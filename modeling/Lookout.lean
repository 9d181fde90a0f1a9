import Lookout.Action.Basic
import Lookout.Action.Decode
import Lookout.Action.Dispatch
import Lookout.Action.Report
import Lookout.Alert.Basic
import Lookout.Alert.File
import Lookout.Alert.Load
import Lookout.Command.Line
import Lookout.Command.Run
import Lookout.Config.Basic
import Lookout.Config.Decode
import Lookout.Config.Load
import Lookout.Context
import Lookout.Cycle.Basic
import Lookout.Cycle.Gather
import Lookout.Cycle.Run
import Lookout.Cycle.Step
import Lookout.Decimal.Fixed
import Lookout.Decimal.Layout
import Lookout.Decimal.Read
import Lookout.Decimal.Shortest
import Lookout.Error.Kind
import Lookout.Error.Watch
import Lookout.Files
import Lookout.Http.Network
import Lookout.Http.Request
import Lookout.Http.Token
import Lookout.Json.Document
import Lookout.Json.Number
import Lookout.Json.Printer
import Lookout.Json.Reader
import Lookout.Json.Text
import Lookout.Main
import Lookout.Pool.Basic
import Lookout.Pool.Overlap
import Lookout.Pool.Session
import Lookout.Pool.Step
import Lookout.Proofs.Action.Delivery
import Lookout.Proofs.Action.Grammar
import Lookout.Proofs.Action.Report
import Lookout.Proofs.Alert.Building
import Lookout.Proofs.Alert.Checked
import Lookout.Proofs.Alert.Loading
import Lookout.Proofs.Arrays
import Lookout.Proofs.Command.ForceRun
import Lookout.Proofs.Command.Startable
import Lookout.Proofs.Config.Layers
import Lookout.Proofs.Cycle.Actions
import Lookout.Proofs.Cycle.Behind
import Lookout.Proofs.Cycle.Ends
import Lookout.Proofs.Cycle.Framed
import Lookout.Proofs.Cycle.Gather
import Lookout.Proofs.Cycle.Gathered
import Lookout.Proofs.Cycle.History
import Lookout.Proofs.Cycle.Run
import Lookout.Proofs.Cycle.Safety
import Lookout.Proofs.Cycle.Sound
import Lookout.Proofs.Cycle.Step
import Lookout.Proofs.Cycle.Verdict
import Lookout.Proofs.Except
import Lookout.Proofs.Http.Exchange
import Lookout.Proofs.Json.Numbers
import Lookout.Proofs.Json.Numerals
import Lookout.Proofs.Json.Quoted
import Lookout.Proofs.Json.Rearranged
import Lookout.Proofs.Json.RoundTrip
import Lookout.Proofs.Json.Trees
import Lookout.Proofs.Pool.Attended
import Lookout.Proofs.Pool.Conservation
import Lookout.Proofs.Pool.Evaluate
import Lookout.Proofs.Pool.Frame
import Lookout.Proofs.Pool.Headcount
import Lookout.Proofs.Pool.History
import Lookout.Proofs.Pool.Isolation
import Lookout.Proofs.Pool.Losses
import Lookout.Proofs.Pool.Overlap
import Lookout.Proofs.Pool.Posts
import Lookout.Proofs.Pool.Replies
import Lookout.Proofs.Pool.Staffed
import Lookout.Proofs.Pool.Step
import Lookout.Proofs.Pool.Tally
import Lookout.Proofs.Pool.Turns
import Lookout.Proofs.Pool.Untouched
import Lookout.Proofs.Schedule.Serial
import Lookout.Proofs.Schedule.Signs
import Lookout.Proofs.Schedule.Task
import Lookout.Proofs.Script.Built
import Lookout.Proofs.Script.BuiltBuiltins
import Lookout.Proofs.Script.BuiltData
import Lookout.Proofs.Script.BuiltMethods
import Lookout.Proofs.Script.BuiltScripts
import Lookout.Proofs.Script.Cancellation
import Lookout.Proofs.Script.Clock
import Lookout.Proofs.Script.Crossing
import Lookout.Proofs.Script.CutOff
import Lookout.Proofs.Script.Finish
import Lookout.Proofs.Script.Frozen
import Lookout.Proofs.Script.Globals
import Lookout.Proofs.Script.Limit
import Lookout.Proofs.Script.Truth
import Lookout.Proofs.Search.Answer
import Lookout.Proofs.Search.BaseUrl
import Lookout.Proofs.Search.Target
import Lookout.Proofs.Text.Casing
import Lookout.Proofs.Text.Trimming
import Lookout.Proofs.Text.Utf8
import Lookout.Proofs.Url.Below
import Lookout.Proofs.Value.Entered
import Lookout.Proofs.Value.Entries
import Lookout.Proofs.Value.Ordered
import Lookout.Proofs.Value.Pointer
import Lookout.Proofs.Value.Widths
import Lookout.Proofs.Value.Zero
import Lookout.Proofs.Yaml.Agreement
import Lookout.Schedule.Alerts
import Lookout.Schedule.Step
import Lookout.Schedule.Task
import Lookout.Schedule.Ticker
import Lookout.Script.Annotation
import Lookout.Script.Arguments
import Lookout.Script.Builtins
import Lookout.Script.Calls
import Lookout.Script.Compare
import Lookout.Script.Containers
import Lookout.Script.Datum
import Lookout.Script.Evaluate
import Lookout.Script.Exchange
import Lookout.Script.Fault
import Lookout.Script.FloatText
import Lookout.Script.Format
import Lookout.Script.Grammar
import Lookout.Script.Interpreter
import Lookout.Script.Items
import Lookout.Script.Lexeme
import Lookout.Script.Machine
import Lookout.Script.Names
import Lookout.Script.Operators
import Lookout.Script.Placement
import Lookout.Script.Show
import Lookout.Script.Syntax
import Lookout.Script.SyntaxFault
import Lookout.Script.TextMethods
import Lookout.Search.Client
import Lookout.Search.Query
import Lookout.Text.Base64
import Lookout.Text.Blank
import Lookout.Text.Casing
import Lookout.Text.CodeSet
import Lookout.Text.Digit
import Lookout.Text.Duration
import Lookout.Text.Letter
import Lookout.Text.Printable
import Lookout.Text.Quoted
import Lookout.Text.Utf8
import Lookout.Time.Calendar
import Lookout.Toml.Reader
import Lookout.Toml.Table
import Lookout.Url.Basic
import Lookout.Url.Host
import Lookout.Url.Percent
import Lookout.Url.Punycode
import Lookout.Value.Basic
import Lookout.Value.Entries
import Lookout.Value.Number
import Lookout.Value.Pointer
import Lookout.Value.Token
import Lookout.Yaml.Cursor
import Lookout.Yaml.Data
import Lookout.Yaml.Decode
import Lookout.Yaml.Error
import Lookout.Yaml.Lexeme
import Lookout.Yaml.Node
import Lookout.Yaml.Scalar
import Lookout.Yaml.Scan
import Lookout.Yaml.Tree
