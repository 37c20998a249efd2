import Specfile.Calendar
import Specfile.CommandLine.Command
import Specfile.CommandLine.Run
import Specfile.CommandLine.Toolkit
import Specfile.Config
import Specfile.Data
import Specfile.Document
import Specfile.Edit
import Specfile.Entry
import Specfile.Failure
import Specfile.Files.Disk
import Specfile.Files.Errno
import Specfile.Files.Path
import Specfile.Files.Tree
import Specfile.Macro.Definition
import Specfile.Macro.Expansion
import Specfile.Macro.Table
import Specfile.Macro.Template
import Specfile.Main
import Specfile.Notice
import Specfile.Packager
import Specfile.Plain.Argument
import Specfile.Plain.Bracket
import Specfile.Plain.Columns
import Specfile.Plain.Command
import Specfile.Plain.Control
import Specfile.Plain.Integer
import Specfile.Plain.Toolkit
import Specfile.Plain.Width
import Specfile.Proofs.CommandLine.Bumping
import Specfile.Proofs.CommandLine.Configuring
import Specfile.Proofs.CommandLine.Dependence
import Specfile.Proofs.CommandLine.Printing
import Specfile.Proofs.CommandLine.Reloading
import Specfile.Proofs.CommandLine.Routes
import Specfile.Proofs.CommandLine.Saving
import Specfile.Proofs.Config
import Specfile.Proofs.Document.Cursor
import Specfile.Proofs.Document.Lines
import Specfile.Proofs.Document.Loading
import Specfile.Proofs.Document.Placement
import Specfile.Proofs.Document.Splicing
import Specfile.Proofs.Document.Stacking
import Specfile.Proofs.Edit
import Specfile.Proofs.Entry
import Specfile.Proofs.Entry.Generation
import Specfile.Proofs.Files.Tree
import Specfile.Proofs.Macro.Agreement
import Specfile.Proofs.Macro.Concatenation
import Specfile.Proofs.Macro.Cycles
import Specfile.Proofs.Macro.Frames
import Specfile.Proofs.Macro.Grammar
import Specfile.Proofs.Macro.Idempotence
import Specfile.Proofs.Macro.Levels
import Specfile.Proofs.Macro.Percent
import Specfile.Proofs.Macro.Pieces
import Specfile.Proofs.Macro.Scanning
import Specfile.Proofs.Macro.Values
import Specfile.Proofs.Macro.Vanishing
import Specfile.Proofs.Packager
import Specfile.Proofs.Release.Change
import Specfile.Proofs.Release.Commutation
import Specfile.Proofs.Release.Counter
import Specfile.Proofs.Release.Footprint
import Specfile.Proofs.Release.Limits
import Specfile.Proofs.Release.Outcome
import Specfile.Proofs.Release.Repetition
import Specfile.Proofs.Release.Site
import Specfile.Proofs.Session
import Specfile.Proofs.Success
import Specfile.Proofs.Tags
import Specfile.Proofs.Text.Core
import Specfile.Proofs.Text.Digits
import Specfile.Proofs.Text.Utf8
import Specfile.Release.Bump
import Specfile.Release.Line
import Specfile.Session
import Specfile.Tags
import Specfile.Text.Basic
import Specfile.Text.Blank
import Specfile.Text.Double
import Specfile.Text.Newline
import Specfile.Text.Numeral
import Specfile.Text.Printable
import Specfile.Text.Quoted
import Specfile.Text.Utf8
import Specfile.Text.Word
import Specfile.Toml.Draft
import Specfile.Toml.Quoted
import Specfile.Toml.Reader
import Specfile.Toml.Scalar
import Specfile.Toml.Space
import Specfile.Toml.Value
import Specfile.Tool
