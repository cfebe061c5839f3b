import RemoteDesk.Audit.Event
import RemoteDesk.Audit.Log
import RemoteDesk.Catalog
import RemoteDesk.CommandLine
import RemoteDesk.CommandLine.Argument
import RemoteDesk.CommandLine.Arguments
import RemoteDesk.CommandLine.Filter
import RemoteDesk.CommandLine.Help
import RemoteDesk.CommandLine.Mistake
import RemoteDesk.Compose
import RemoteDesk.Config
import RemoteDesk.Config.Document
import RemoteDesk.Decimal.Double
import RemoteDesk.Decimal.Nearest
import RemoteDesk.Decimal.Shortest
import RemoteDesk.Disk
import RemoteDesk.Error
import RemoteDesk.FileTree
import RemoteDesk.FileTree.Replace
import RemoteDesk.Glob
import RemoteDesk.Json
import RemoteDesk.Json.Source
import RemoteDesk.Main
import RemoteDesk.Operator
import RemoteDesk.OsError
import RemoteDesk.Path
import RemoteDesk.Profile
import RemoteDesk.Proofs.Audit.Encoding
import RemoteDesk.Proofs.Audit.Framing
import RemoteDesk.Proofs.Audit.Life
import RemoteDesk.Proofs.Audit.Origins
import RemoteDesk.Proofs.Audit.Waiting
import RemoteDesk.Proofs.Catalog
import RemoteDesk.Proofs.Compose
import RemoteDesk.Proofs.Compose.Delivery
import RemoteDesk.Proofs.Compose.Passwords
import RemoteDesk.Proofs.Compose.Profile
import RemoteDesk.Proofs.Compose.Shell
import RemoteDesk.Proofs.Config.Document
import RemoteDesk.Proofs.FileTree.Appending
import RemoteDesk.Proofs.FileTree.Changes
import RemoteDesk.Proofs.FileTree.Looking
import RemoteDesk.Proofs.FileTree.Outline
import RemoteDesk.Proofs.FileTree.Reordered
import RemoteDesk.Proofs.FileTree.Replace
import RemoteDesk.Proofs.FileTree.Whole
import RemoteDesk.Proofs.Json.Doubles
import RemoteDesk.Proofs.Json.Numerals
import RemoteDesk.Proofs.Json.Reading
import RemoteDesk.Proofs.Json.Strings
import RemoteDesk.Proofs.Json.Values
import RemoteDesk.Proofs.Path
import RemoteDesk.Proofs.Path.Holders
import RemoteDesk.Proofs.Path.Names
import RemoteDesk.Proofs.Registry
import RemoteDesk.Proofs.Registry.Directory
import RemoteDesk.Proofs.Registry.History
import RemoteDesk.Proofs.Registry.Loading
import RemoteDesk.Proofs.Registry.Outline
import RemoteDesk.Proofs.Script.Breaks
import RemoteDesk.Proofs.Script.Determined
import RemoteDesk.Proofs.Script.Key
import RemoteDesk.Proofs.Script.Projections
import RemoteDesk.Proofs.Script.Sections
import RemoteDesk.Proofs.Script.Typing
import RemoteDesk.Proofs.Session.Calls
import RemoteDesk.Proofs.Session.Operations
import RemoteDesk.Proofs.Session.Passwords
import RemoteDesk.Proofs.Session.Questions
import RemoteDesk.Proofs.Session.Reachable
import RemoteDesk.Proofs.Shell.Actions
import RemoteDesk.Proofs.Shell.Announced
import RemoteDesk.Proofs.Shell.Colors
import RemoteDesk.Proofs.Shell.Commands
import RemoteDesk.Proofs.Shell.Coupling
import RemoteDesk.Proofs.Shell.Deafness
import RemoteDesk.Proofs.Shell.Delivery
import RemoteDesk.Proofs.Shell.Kept
import RemoteDesk.Proofs.Shell.Keys
import RemoteDesk.Proofs.Shell.Ledger
import RemoteDesk.Proofs.Shell.Palette
import RemoteDesk.Proofs.Shell.Passwords
import RemoteDesk.Proofs.Shell.Record
import RemoteDesk.Proofs.Shell.Refusals
import RemoteDesk.Proofs.Shell.Registered
import RemoteDesk.Proofs.Shell.Replay
import RemoteDesk.Proofs.Shell.Rounds
import RemoteDesk.Proofs.Shell.Talk
import RemoteDesk.Proofs.Shell.Typed
import RemoteDesk.Proofs.Shell.Waiting
import RemoteDesk.Proofs.Store
import RemoteDesk.Proofs.Text.Indent
import RemoteDesk.Proofs.Text.Lines
import RemoteDesk.Proofs.Text.Reading
import RemoteDesk.Proofs.Text.Utf8
import RemoteDesk.Proofs.Timestamp.Calendar
import RemoteDesk.Proofs.Timestamp.Printing
import RemoteDesk.Proofs.Workbench
import RemoteDesk.Proofs.Workbench.Fragments
import RemoteDesk.Proofs.Workbench.Refusals
import RemoteDesk.Proofs.Workbench.Scripts
import RemoteDesk.Proofs.Yaml.Block
import RemoteDesk.Proofs.Yaml.Characters
import RemoteDesk.Proofs.Yaml.Document
import RemoteDesk.Proofs.Yaml.Fields
import RemoteDesk.Proofs.Yaml.Meaning
import RemoteDesk.Proofs.Yaml.Plain
import RemoteDesk.Proofs.Yaml.Quoted
import RemoteDesk.Proofs.Yaml.Reading
import RemoteDesk.Proofs.Yaml.Values
import RemoteDesk.Proofs.Yaml.Writing
import RemoteDesk.Registry
import RemoteDesk.Script.Assembly
import RemoteDesk.Script.Connection
import RemoteDesk.Script.Fragment
import RemoteDesk.Script.Typing
import RemoteDesk.Session
import RemoteDesk.Shell
import RemoteDesk.Shell.Command
import RemoteDesk.Shell.Desk
import RemoteDesk.Shell.Palette
import RemoteDesk.Store
import RemoteDesk.Text.Alphanumeric
import RemoteDesk.Text.Blank
import RemoteDesk.Text.Case
import RemoteDesk.Text.Lines
import RemoteDesk.Text.Lowercase
import RemoteDesk.Text.Shown
import RemoteDesk.Text.Utf8
import RemoteDesk.Text.Visible
import RemoteDesk.Text.Words
import RemoteDesk.Timestamp
import RemoteDesk.Yaml.Block
import RemoteDesk.Yaml.Character
import RemoteDesk.Yaml.Document
import RemoteDesk.Yaml.Fault
import RemoteDesk.Yaml.Gap
import RemoteDesk.Yaml.Meaning
import RemoteDesk.Yaml.Node
import RemoteDesk.Yaml.Plain
import RemoteDesk.Yaml.Quoted
import RemoteDesk.Yaml.Reading
import RemoteDesk.Yaml.Tag
import RemoteDesk.Yaml.Token
import RemoteDesk.Yaml.Token.Lexer
import RemoteDesk.Yaml.Value
import RemoteDesk.Yaml.Writing
