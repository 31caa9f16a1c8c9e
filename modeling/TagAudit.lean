import TagAudit.Binary64
import TagAudit.Binary64.Shortest
import TagAudit.Binary64.Spelling
import TagAudit.ClassFile.ConstantPool
import TagAudit.ClassFile.Cursor
import TagAudit.ClassFile.Defect
import TagAudit.ClassFile.Descriptor
import TagAudit.ClassFile.Layout
import TagAudit.ClassFile.Reading
import TagAudit.ClassesDir
import TagAudit.CommandLine.Ending
import TagAudit.CommandLine.Level
import TagAudit.CommandLine.Misuse
import TagAudit.CommandLine.Request
import TagAudit.CommandLine.Run
import TagAudit.CommandLine.Speech
import TagAudit.CommandLine.Words
import TagAudit.Console
import TagAudit.Data
import TagAudit.Data.Display
import TagAudit.Data.Json
import TagAudit.Data.Json.Reader
import TagAudit.Data.Overlay
import TagAudit.Discovery
import TagAudit.Duration
import TagAudit.Failure
import TagAudit.FileTree
import TagAudit.FileTree.Edit
import TagAudit.FileTree.RealPath
import TagAudit.Keyed
import TagAudit.Log.Entry
import TagAudit.Log.Event
import TagAudit.Log.Line
import TagAudit.Log.Routing
import TagAudit.Log.Session
import TagAudit.Main
import TagAudit.Path
import TagAudit.Progress
import TagAudit.Proofs.ClassFile.BigEndian
import TagAudit.Proofs.ClassFile.Format
import TagAudit.Proofs.ClassFile.Reads
import TagAudit.Proofs.ClassFile.Spells
import TagAudit.Scan
import TagAudit.Scan.Outcome
import TagAudit.Scan.Readers
import TagAudit.Settings
import TagAudit.Settings.Check
import TagAudit.Settings.Checked
import TagAudit.Settings.Environment
import TagAudit.Settings.Numeral
import TagAudit.Settings.Sources
import TagAudit.Tags.Conflict
import TagAudit.Tags.Report
import TagAudit.Tags.ScanResult
import TagAudit.Text
import TagAudit.Text.Case
import TagAudit.Text.Emoji
import TagAudit.Text.Integer
import TagAudit.Text.Likeness
import TagAudit.Text.Markup
import TagAudit.Text.Markup.Argument
import TagAudit.Text.Markup.Style
import TagAudit.Text.Places
import TagAudit.Text.Printable
import TagAudit.Text.Quoted
import TagAudit.Text.Units
import TagAudit.Text.Utf8
import TagAudit.Text.Wrapping
import TagAudit.Yaml
import TagAudit.Yaml.Composition
import TagAudit.Yaml.Cursor
import TagAudit.Yaml.Levels
import TagAudit.Yaml.Meaning
import TagAudit.Yaml.Merging
import TagAudit.Yaml.Moment
import TagAudit.Yaml.Node
import TagAudit.Yaml.Number
import TagAudit.Yaml.Scalar
import TagAudit.Yaml.Token
import TagAudit.Yaml.Token.Block
import TagAudit.Yaml.Token.Lexer
import TagAudit.Yaml.Token.Plain
import TagAudit.Yaml.Token.Quoted
import TagAudit.Yaml.Token.Word
import TagAudit.Proofs.ClassFile.PoolFormat
import TagAudit.Proofs.ClassFile.AnnotationFormat
import TagAudit.Proofs.ClassFile.ClassFormat
import TagAudit.Proofs.ClassFile.RoundTrip
import TagAudit.Proofs.Binary64
import TagAudit.Proofs.ClassFile.Operations
import TagAudit.Proofs.ClassFile.Extension
import TagAudit.Proofs.ClassFile.PassedOver
import TagAudit.Proofs.Discovery
import TagAudit.Proofs.Scan.Collected
import TagAudit.Proofs.Scan.Verdict
import TagAudit.Proofs.Keyed
import TagAudit.Proofs.Keyed.Sorted
import TagAudit.Proofs.Tags.Recorded
import TagAudit.Proofs.Tags.Replacement
import TagAudit.Proofs.Tags.Soundness
import TagAudit.Proofs.Tags.Sorted
import TagAudit.Proofs.Tags.Enumeration
import TagAudit.Proofs.Tags.Renderings
import TagAudit.Proofs.Scan.Justified
import TagAudit.Proofs.Scan.Trace
import TagAudit.Proofs.Scan.Readers
import TagAudit.Proofs.CommandLine.Arguments
import TagAudit.Proofs.CommandLine.ExitCode
import TagAudit.Proofs.FileTree.Leads
import TagAudit.Proofs.FileTree.Pruning
import TagAudit.Proofs.Text.Affixes
import TagAudit.Proofs.Text.Order
import TagAudit.Proofs.Discovery.Remaining
import TagAudit.Proofs.Scan.Policies
import TagAudit.Proofs.Scan.Deletion
import TagAudit.Proofs.Text.Units
import TagAudit.Proofs.Text.Utf8
import TagAudit.Proofs.FileTree.Rearrangement
import TagAudit.Proofs.Discovery.Exactness
import TagAudit.Proofs.Progress.Muting
import TagAudit.Proofs.Progress.Transparency
import TagAudit.Proofs.Scan.Single
import TagAudit.Proofs.Scan.Muting
import TagAudit.Proofs.Data.Ascii
import TagAudit.Proofs.Log.Routing
import TagAudit.Proofs.CommandLine.Machines
import TagAudit.Proofs.FileTree.Growth
import TagAudit.Proofs.FileTree.Writing
import TagAudit.Proofs.Log.Sessions
import TagAudit.Proofs.Data.Keys
import TagAudit.Proofs.Data.Overlay
import TagAudit.Proofs.Data.Overlay.Laws
import TagAudit.Proofs.Settings.Setting
import TagAudit.Proofs.Yaml.Tables
import TagAudit.Proofs.Yaml.Levels
import TagAudit.Proofs.Settings.Environment
import TagAudit.Proofs.Settings.Precedence
import TagAudit.Proofs.CommandLine.Options
import TagAudit.Proofs.Text.Case
import TagAudit.Proofs.Settings.Variables
import TagAudit.Proofs.CommandLine.Loading
import TagAudit.Proofs.Path
import TagAudit.Proofs.Settings.Recheck
import TagAudit.Proofs.Text.Utf8.Writing
import TagAudit.Proofs.ClassFile.Unseen
import TagAudit.Proofs.ClassFile.Failing
import TagAudit.Proofs.ClassFile.Sites
import TagAudit.Proofs.ClassFile.Lookups
import TagAudit.Proofs.ClassFile.Grounds
import TagAudit.Proofs.ClassFile.Walks
import TagAudit.Proofs.ClassFile.Slots
import TagAudit.Proofs.ClassFile.Consumption
import TagAudit.Proofs.Text.Pictures
import TagAudit.Proofs.Text.Markup
import TagAudit.Proofs.Console
import TagAudit.Proofs.CommandLine.Verbatim
