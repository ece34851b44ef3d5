import SelectorSearch.CommandLine
import SelectorSearch.CommandLine.Run
import SelectorSearch.CommandLine.Word
import SelectorSearch.Config
import SelectorSearch.Config.Entries
import SelectorSearch.Config.Loader
import SelectorSearch.FileTree
import SelectorSearch.Host
import SelectorSearch.Host.Conduct
import SelectorSearch.Invocation
import SelectorSearch.Json.Grammar
import SelectorSearch.Json.Number
import SelectorSearch.Json.Parser
import SelectorSearch.Json.Printer
import SelectorSearch.Json.Value
import SelectorSearch.Launch
import SelectorSearch.LineDecoder
import SelectorSearch.Log
import SelectorSearch.Main
import SelectorSearch.Message
import SelectorSearch.Message.Reader
import SelectorSearch.Mismatch
import SelectorSearch.Number.Binary64
import SelectorSearch.Number.Shortest
import SelectorSearch.Path
import SelectorSearch.Process.Child
import SelectorSearch.Process.Life
import SelectorSearch.Process.Signal
import SelectorSearch.Process.Spawn
import SelectorSearch.Proofs.Arguments
import SelectorSearch.Proofs.Components
import SelectorSearch.Proofs.Conduct
import SelectorSearch.Proofs.Configuration
import SelectorSearch.Proofs.ContainingFolder
import SelectorSearch.Proofs.Counting
import SelectorSearch.Proofs.Damage
import SelectorSearch.Proofs.DecodedLines
import SelectorSearch.Proofs.Dialog
import SelectorSearch.Proofs.Display
import SelectorSearch.Proofs.Drained
import SelectorSearch.Proofs.ExitCode
import SelectorSearch.Proofs.HandOff
import SelectorSearch.Proofs.Headers
import SelectorSearch.Proofs.Json
import SelectorSearch.Proofs.JsonCompleteness
import SelectorSearch.Proofs.JsonSoundness
import SelectorSearch.Proofs.Lifecycle
import SelectorSearch.Proofs.LineDecoder
import SelectorSearch.Proofs.Machine
import SelectorSearch.Proofs.MessageGrammar
import SelectorSearch.Proofs.Navigation
import SelectorSearch.Proofs.Padding
import SelectorSearch.Proofs.Publication
import SelectorSearch.Proofs.Pump
import SelectorSearch.Proofs.Race
import SelectorSearch.Proofs.Recovery
import SelectorSearch.Proofs.Scope
import SelectorSearch.Proofs.SearchLine
import SelectorSearch.Proofs.Settings
import SelectorSearch.Proofs.StatusLine
import SelectorSearch.Proofs.Tally
import SelectorSearch.Proofs.TomlKeys
import SelectorSearch.Proofs.Utf8
import SelectorSearch.Proofs.Wire
import SelectorSearch.Proofs.WorkingDirectory
import SelectorSearch.Queue
import SelectorSearch.Request
import SelectorSearch.ResultText
import SelectorSearch.ResultText.Navigation
import SelectorSearch.Search
import SelectorSearch.Session
import SelectorSearch.Session.Race
import SelectorSearch.Session.Report
import SelectorSearch.Session.Run
import SelectorSearch.Session.State
import SelectorSearch.Session.WatchedRace
import SelectorSearch.Shell.Arithmetic
import SelectorSearch.Shell.Builtin
import SelectorSearch.Shell.Command
import SelectorSearch.Shell.Condition
import SelectorSearch.Shell.Expansion
import SelectorSearch.Shell.Format
import SelectorSearch.Shell.Pattern
import SelectorSearch.Shell.Redirect
import SelectorSearch.Shell.Run
import SelectorSearch.Shell.State
import SelectorSearch.Shell.Token
import SelectorSearch.Shell.Tool
import SelectorSearch.Shell.Toolbox
import SelectorSearch.Terminal
import SelectorSearch.Text.Blank
import SelectorSearch.Text.Digits
import SelectorSearch.Text.Printable
import SelectorSearch.Text.Quoted
import SelectorSearch.Text.Split
import SelectorSearch.Text.Style
import SelectorSearch.Text.Timestamp
import SelectorSearch.Text.Truncate
import SelectorSearch.Text.Utf8
import SelectorSearch.Toml.Document
import SelectorSearch.Toml.Excerpt
import SelectorSearch.Toml.Scalar
import SelectorSearch.Toml.Value
import SelectorSearch.View
import SelectorSearch.Worker.Handle
import SelectorSearch.Worker.Launch
import SelectorSearch.Worker.Pump
import SelectorSearch.Worker.Record
import SelectorSearch.Worker.Status
