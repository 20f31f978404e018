import Intake.Alteration.Apply
import Intake.Alteration.Basic
import Intake.Alteration.Failure
import Intake.Alteration.Normalize
import Intake.Alteration.Payload
import Intake.Alteration.Request
import Intake.Charset.Basic
import Intake.Charset.Decoder
import Intake.Charset.Detect
import Intake.Charset.Label
import Intake.Charset.Mark
import Intake.Charset.SingleByte
import Intake.Charset.Utf16
import Intake.Column.Name
import Intake.Command.Arguments
import Intake.Command.Character
import Intake.Command.Error
import Intake.Command.Input
import Intake.Command.Invocation
import Intake.Command.Run
import Intake.Command.Settings
import Intake.Database.Basic
import Intake.Database.Error
import Intake.Database.Replies
import Intake.Database.Scripted
import Intake.Database.Session
import Intake.Delimited.Cell
import Intake.Delimited.Dialect
import Intake.Delimited.Layout
import Intake.Delimited.Record
import Intake.Delimited.Sniff
import Intake.Descriptor.Basic
import Intake.Descriptor.File
import Intake.Json.Reader
import Intake.Json.Value
import Intake.Json.Writer
import Intake.Load.CopyCommand
import Intake.Load.Error
import Intake.Load.Import
import Intake.Load.Inspect
import Intake.Load.Prepare
import Intake.Main
import Intake.Numeric.Binary64
import Intake.Numeric.Hex
import Intake.Numeric.Shortest
import Intake.Sql.Identifier
import Intake.Sql.Literal
import Intake.Storage.Files
import Intake.Storage.Path
import Intake.Stream.Copy
import Intake.Stream.Reader
import Intake.Stream.Source
import Intake.Stream.Transcode
import Intake.Text.Alphabetic
import Intake.Text.Blank
import Intake.Text.CodeRanges
import Intake.Text.Machine
import Intake.Text.Printable
import Intake.Text.Quoted
import Intake.Text.Utf8
import Intake.Yaml.Block
import Intake.Yaml.Event
import Intake.Yaml.Gap
import Intake.Yaml.Lexer
import Intake.Yaml.Node
import Intake.Yaml.Number
import Intake.Yaml.Plain
import Intake.Yaml.Quoted
import Intake.Yaml.Scalar
import Intake.Yaml.Tag
import Intake.Yaml.Text
import Intake.Yaml.Token
import Intake.Yaml.Writer
import Intake.Proofs.Alteration.Accepted
import Intake.Proofs.Alteration.Calls
import Intake.Proofs.Alteration.Shapes
import Intake.Proofs.Charset.Inspect
import Intake.Proofs.Charset.Mark
import Intake.Proofs.Column.Names
import Intake.Proofs.Database.Traced
import Intake.Proofs.Json.Members
import Intake.Proofs.Load.Agreement
import Intake.Proofs.Load.CopyCommand
import Intake.Proofs.Load.Import
import Intake.Proofs.Load.Plan
import Intake.Proofs.Outcome
import Intake.Proofs.Sql.Quoting
import Intake.Proofs.Sql.Tokens
import Intake.Proofs.Stream.Copy
import Intake.Proofs.Stream.Transcode
import Intake.Proofs.Text.Length
import Intake.Proofs.Text.Machine
import Intake.Proofs.Text.Trim
import Intake.Proofs.Text.Utf8
import Intake.Proofs.Alteration.Kept
import Intake.Proofs.Database.Parallel
import Intake.Proofs.Load.Carried
import Intake.Proofs.Database.Statements
import Intake.Proofs.Database.Served
import Intake.Proofs.Load.Statements
import Intake.Proofs.Command.AllOrNothing
import Intake.Proofs.Load.Names
import Intake.Proofs.Alteration.Batch
import Intake.Proofs.Alteration.Explained
import Intake.Proofs.Sql.Parameters
import Intake.Proofs.Database.Readings
import Intake.Proofs.Delimited.Again
import Intake.Proofs.Load.Again
import Intake.Proofs.Storage.Located
import Intake.Proofs.Descriptor.ReadBack
import Intake.Proofs.Command.Probe
import Intake.Proofs.Text.Ascii
import Intake.Proofs.Delimited.Written
import Intake.Proofs.Command.DryRun
import Intake.Proofs.Load.LeftBehind
import Intake.Proofs.Command.Precedence
import Intake.Proofs.Text.Opening
import Intake.Proofs.Charset.Detect
import Intake.Proofs.Load.Sample
import Intake.Proofs.Alteration.Wrapper
import Intake.Proofs.Stream.Limited
import Intake.Proofs.Stream.Unmarked
import Intake.Proofs.Alteration.Stable
import Intake.Proofs.Command.Narrowed
import Intake.Proofs.Json.Data
import Intake.Proofs.Alteration.Reported
import Intake.Proofs.Alteration.Dropped
import Intake.Proofs.Alteration.Instructed
import Intake.Proofs.Column.Kept
import Intake.Proofs.Column.Before
import Intake.Proofs.Delimited.Legible
import Intake.Proofs.Load.Columns
import Intake.Proofs.Delimited.Sniffed
import Intake.Proofs.Delimited.Quoted
import Intake.Proofs.Text.Boundary
import Intake.Proofs.Column.Truncated
import Intake.Proofs.Column.Renamed
import Intake.Proofs.Sql.Embedded
import Intake.Proofs.Delimited.Reordered
