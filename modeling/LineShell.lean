import LineShell.Builtin
import LineShell.Command
import LineShell.CommandTable
import LineShell.Completion
import LineShell.Conversation
import LineShell.Delivery
import LineShell.FileTree.Basic
import LineShell.FileTree.Setup
import LineShell.FileTree.Walk
import LineShell.Host
import LineShell.Invocation
import LineShell.Launch
import LineShell.LineEditor
import LineShell.Machine
import LineShell.Main
import LineShell.Names
import LineShell.Output
import LineShell.Path
import LineShell.Procedure
import LineShell.Process.Basic
import LineShell.Process.Channel
import LineShell.Process.Interpreter
import LineShell.Process.Search
import LineShell.Program
import LineShell.Proofs.Command.Characters
import LineShell.Proofs.Command.Rendering
import LineShell.Proofs.Completion.Order
import LineShell.Proofs.Completion.Running
import LineShell.Proofs.Completion.Settling
import LineShell.Proofs.Conversation.Agreement
import LineShell.Proofs.Conversation.Listings
import LineShell.Proofs.Conversation.Splicing
import LineShell.Proofs.Delivery
import LineShell.Proofs.FileTree.Walking
import LineShell.Proofs.Host.Elsewhere
import LineShell.Proofs.Host.Searching
import LineShell.Proofs.Machine.Launching
import LineShell.Proofs.Path.Normalizing
import LineShell.Proofs.Program.Overriding
import LineShell.Proofs.Program.Stopping
import LineShell.Proofs.Redirection.Roles
import LineShell.Proofs.Shell.Agreement
import LineShell.Proofs.Shell.Appending
import LineShell.Proofs.Shell.Blindness
import LineShell.Proofs.Shell.Composing
import LineShell.Proofs.Shell.Confinement
import LineShell.Proofs.Shell.Course
import LineShell.Proofs.Shell.Entering
import LineShell.Proofs.Shell.Execution
import LineShell.Proofs.Shell.Files
import LineShell.Proofs.Shell.Isolation
import LineShell.Proofs.Shell.Journal
import LineShell.Proofs.Shell.Performing
import LineShell.Proofs.Shell.Refusing
import LineShell.Proofs.Shell.Returning
import LineShell.Proofs.Shell.Sharing
import LineShell.Proofs.Shell.Showing
import LineShell.Proofs.Shell.WorkingDirectory
import LineShell.Proofs.Token.Joining
import LineShell.Proofs.Token.Spelling
import LineShell.Redirection
import LineShell.Resolution
import LineShell.Script.Arithmetic
import LineShell.Script.Builtin
import LineShell.Script.Directory
import LineShell.Script.Expansion
import LineShell.Script.Grammar
import LineShell.Script.Interpreter
import LineShell.Script.Lookup
import LineShell.Script.Pattern
import LineShell.Script.Signals
import LineShell.Script.Source
import LineShell.Script.Start
import LineShell.Script.State
import LineShell.Script.Statement
import LineShell.Script.Streams
import LineShell.Script.Token
import LineShell.Script.Variables
import LineShell.Script.Word
import LineShell.Script.World
import LineShell.Session
import LineShell.Settings
import LineShell.Shell.Exec
import LineShell.Shell.Outlets
import LineShell.Shell.State
import LineShell.Text.Blank
import LineShell.Text.Capital
import LineShell.Text.CharClass
import LineShell.Text.Integer
import LineShell.Text.Lines
import LineShell.Text.Octets
import LineShell.Text.Printable
import LineShell.Text.Quoted
import LineShell.Text.Utf8
import LineShell.Token
import LineShell.Utility.Basic
import LineShell.Utility.Cat
import LineShell.Utility.Condition
import LineShell.Utility.Echo
import LineShell.Utility.Entries
import LineShell.Utility.Environment
import LineShell.Utility.Escape
import LineShell.Utility.Format
import LineShell.Utility.Listing
import LineShell.Utility.Plain
import LineShell.Utility.Printf
import LineShell.Utility.Table
