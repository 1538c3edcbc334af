import ReplHost.Activation.Controller
import ReplHost.Activation.Settings
import ReplHost.Cli.Args
import ReplHost.Cli.Run
import ReplHost.Config.Basic
import ReplHost.Config.Load
import ReplHost.Error
import ReplHost.Host.Activation
import ReplHost.Host.Container
import ReplHost.Host.Lifecycle
import ReplHost.Host.Scenario
import ReplHost.Host.State
import ReplHost.Json.Error
import ReplHost.Json.Reader
import ReplHost.Json.Record
import ReplHost.Logging.Filter
import ReplHost.Logging.Setup
import ReplHost.Main
import ReplHost.Os.Errno
import ReplHost.Os.Files
import ReplHost.Output.Buffer
import ReplHost.Output.Chunk
import ReplHost.Output.Decoder
import ReplHost.Output.Prompt
import ReplHost.Output.Sanitizer
import ReplHost.Process.Memory
import ReplHost.Process.Pty
import ReplHost.Process.Script
import ReplHost.Process.Spawn
import ReplHost.Process.Spec
import ReplHost.Proofs.Session.Operations
import ReplHost.Session.Console
import ReplHost.Session.Id
import ReplHost.Session.Options
import ReplHost.Session.Pump
import ReplHost.Session.Registry
import ReplHost.Session.State
import ReplHost.Session.Title
import ReplHost.Shell.Arithmetic
import ReplHost.Shell.Expand
import ReplHost.Shell.Fields
import ReplHost.Shell.Getopts
import ReplHost.Shell.Filters
import ReplHost.Shell.Grammar
import ReplHost.Shell.Machine
import ReplHost.Shell.Options
import ReplHost.Shell.Output
import ReplHost.Shell.Pattern
import ReplHost.Shell.Regex
import ReplHost.Shell.Seq
import ReplHost.Shell.Signals
import ReplHost.Shell.Expr
import ReplHost.Shell.Printf
import ReplHost.Shell.Programs
import ReplHost.Shell.Quoting
import ReplHost.Shell.Sorting
import ReplHost.Shell.State
import ReplHost.Shell.Translate
import ReplHost.Shell.Umask
import ReplHost.Shell.Utilities
import ReplHost.Terminal.Process
import ReplHost.Terminal.Tty
import ReplHost.Text.Binary64
import ReplHost.Text.Chars
import ReplHost.Text.Decimal
import ReplHost.Text.Floating
import ReplHost.Text.Quoted
import ReplHost.Text.Spelled
import ReplHost.Text.Utf8
import ReplHost.Proofs.Session.Lifecycle
import ReplHost.Proofs.Session.Start
import ReplHost.Proofs.Output.Buffer
import ReplHost.Proofs.Session.Routing
import ReplHost.Proofs.Host.Aside
import ReplHost.Proofs.Host.Desk
import ReplHost.Proofs.Host.Orderly
import ReplHost.Proofs.Host.Fitting
import ReplHost.Proofs.Host.Calls
import ReplHost.Proofs.Text.Lossy
import ReplHost.Proofs.Output.Decoding
import ReplHost.Proofs.Output.Stripping
import ReplHost.Proofs.Host.Respawn
import ReplHost.Proofs.Output.Reads
import ReplHost.Proofs.Session.Naming
import ReplHost.Proofs.Host.Launch
import ReplHost.Proofs.Host.LaunchFailure
import ReplHost.Proofs.Host.Race
import ReplHost.Json.Writer
import ReplHost.Config.Write
import ReplHost.Proofs.Text.Encoding
import ReplHost.Proofs.Json.Reads
import ReplHost.Proofs.Json.Records
import ReplHost.Proofs.Config.RoundTrip
import ReplHost.Proofs.Output.Retention
import ReplHost.Proofs.Text.Decoded
import ReplHost.Proofs.Output.Alphabet
import ReplHost.Proofs.Output.PlainText
import ReplHost.Proofs.Host.RegistryRuns
import ReplHost.Proofs.Host.Closing
import ReplHost.Proofs.Session.Input
import ReplHost.Proofs.Output.PromptReads
import ReplHost.Proofs.Cli.Options
import ReplHost.Proofs.Config.Layers
import ReplHost.Proofs.Process.Reading
import ReplHost.Proofs.Output.HeldBack
import ReplHost.Proofs.Process.Lines
import ReplHost.Proofs.Json.Lexemes
import ReplHost.Proofs.Json.Texts
import ReplHost.Proofs.Json.Values
import ReplHost.Proofs.Json.Typed
import ReplHost.Proofs.Json.Fields
import ReplHost.Proofs.Config.Documents
