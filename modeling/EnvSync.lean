import EnvSync.Text.Blank
import EnvSync.Text.Pair
import EnvSync.Text.Split
import EnvSync.Text.Utf8
import EnvSync.Text.Hex
import EnvSync.Text.Slice
import EnvSync.Text.Alphanumeric
import EnvSync.Text.Printable
import EnvSync.Text.Quoted
import EnvSync.OrderedMap.Basic
import EnvSync.OrderedMap.Lemmas
import EnvSync.Settings
import EnvSync.Dotenv.Assignment
import EnvSync.Dotenv.Reader
import EnvSync.Dotenv.Writer
import EnvSync.Decimal.Binary64
import EnvSync.Decimal.Shortest
import EnvSync.Decimal.Layout
import EnvSync.Json.Value
import EnvSync.Json.Numeral
import EnvSync.Json.Chars
import EnvSync.Json.Reader
import EnvSync.Json.Printer
import EnvSync.Secret.Id
import EnvSync.Secret.Failure
import EnvSync.Secret.Payload
import EnvSync.Provider
import EnvSync.Pattern.Atom
import EnvSync.Pattern.Bracket
import EnvSync.Pattern.Valid
import EnvSync.Log.Event
import EnvSync.Log.Directive
import EnvSync.Log.Filter
import EnvSync.Backend.Basic
import EnvSync.Backend.Program
import EnvSync.Backend.Gcp
import EnvSync.Backend.Aws
import EnvSync.FileTree.Path
import EnvSync.FileTree.Basic
import EnvSync.FileTree.Standing
import EnvSync.FileTree.Replace
import EnvSync.Dotenv.Store
import EnvSync.Sync
import EnvSync.CommandLine.Setting
import EnvSync.CommandLine.Arguments
import EnvSync.CommandLine.Help
import EnvSync.CommandLine.Run
import EnvSync.Main
import EnvSync.Proofs.Text.Unchanged
import EnvSync.Proofs.Text.LineBreaks
import EnvSync.Proofs.Text.Pair
import EnvSync.Proofs.Dotenv.Lines
import EnvSync.Proofs.Dotenv.Parts
import EnvSync.Proofs.Dotenv.Taken
import EnvSync.Proofs.Dotenv.RoundTrip
import EnvSync.Proofs.Dotenv.Document
import EnvSync.Proofs.Json.Strings
import EnvSync.Proofs.Json.Numerals
import EnvSync.Proofs.Json.Values
import EnvSync.Proofs.Json.Compact
import EnvSync.Proofs.Secret.Bundle
import EnvSync.Proofs.Secret.Extent
import EnvSync.Proofs.Secret.Newlines
import EnvSync.Proofs.Secret.Refusal
import EnvSync.Proofs.Dotenv.Reload
import EnvSync.Proofs.Dotenv.Stretches
import EnvSync.Proofs.Dotenv.LineEndings
import EnvSync.Proofs.FileTree.Replace
import EnvSync.Proofs.FileTree.Path
import EnvSync.Proofs.FileTree.Course
import EnvSync.Proofs.FileTree.Alike
import EnvSync.Proofs.Dotenv.Store
import EnvSync.Proofs.Sync.Run
import EnvSync.Proofs.Sync.Written
import EnvSync.Proofs.Sync.Interrupted
import EnvSync.Proofs.Sync.Secrecy
import EnvSync.Proofs.Sync.History
import EnvSync.Proofs.Sync.Reread
import EnvSync.Proofs.Sync.Key
import EnvSync.Proofs.CommandLine.Secrecy
import EnvSync.Proofs.CommandLine.Arguments
import EnvSync.Proofs.CommandLine.Groups
import EnvSync.Proofs.Log.Cuts
import EnvSync.Proofs.CommandLine.Safety
import EnvSync.Proofs.Sync.Report
import EnvSync.Proofs.Json.Sorted
import EnvSync.Proofs.Secret.Verbatim
import EnvSync.Proofs.CommandLine.Groups
import EnvSync.Proofs.Secret.Refusal
