import StatementShell.Command.Basic
import StatementShell.Command.Grammar
import StatementShell.Command.Lexer
import StatementShell.Command.Parser
import StatementShell.Command.Token
import StatementShell.Failure
import StatementShell.Files.Body
import StatementShell.Files.Store
import StatementShell.Handler.Basic
import StatementShell.Handler.Builtin
import StatementShell.Handler.Clock
import StatementShell.Ini.Basic
import StatementShell.Ini.Reader
import StatementShell.InputBuffer
import StatementShell.Main
import StatementShell.Number.Binary64
import StatementShell.Number.Decimal
import StatementShell.Number.Integer
import StatementShell.Program.CommandLine
import StatementShell.Program.Run
import StatementShell.Program.Startup
import StatementShell.Property.ConfigFile
import StatementShell.Property.Fault
import StatementShell.Property.Registry
import StatementShell.Property.Validator
import StatementShell.Result
import StatementShell.Segment
import StatementShell.Session.Event
import StatementShell.Session.LineReader
import StatementShell.Session.LineSource
import StatementShell.Session.Loop
import StatementShell.Session.Reading
import StatementShell.Table
import StatementShell.Text.Basic
import StatementShell.Text.Blank
import StatementShell.Text.Decoder
import StatementShell.Text.Digit
import StatementShell.Text.LetterCase
import StatementShell.Text.Line
import StatementShell.Text.Printable
import StatementShell.Text.Quoted
import StatementShell.Text.Utf8
import StatementShell.Value
import StatementShell.Proofs.QuoteScan
import StatementShell.Proofs.QuoteGrammar
import StatementShell.Proofs.Segmentation
import StatementShell.Proofs.SessionHistory
import StatementShell.Proofs.StatementOrder
import StatementShell.Proofs.FailureIsolation
import StatementShell.Proofs.BeforeRead
import StatementShell.Proofs.NumberText
import StatementShell.Proofs.WrittenDocument
import StatementShell.Proofs.PropertyWrites
import StatementShell.Proofs.ReadonlyProperties
import StatementShell.Proofs.RegistryHistory
import StatementShell.Proofs.FileReplacement
import StatementShell.Proofs.SavedRegistry
import StatementShell.Proofs.SavedProperties
import StatementShell.Proofs.CommandSentences
import StatementShell.Proofs.CommandMachine
import StatementShell.Proofs.CommandReading
import StatementShell.Proofs.CommandRouting
import StatementShell.Proofs.LeadingBlanks
import StatementShell.Proofs.StatementEnds
import StatementShell.Proofs.StartingOver
import StatementShell.Proofs.KeptValues
import StatementShell.Proofs.DigitLimits
import StatementShell.Proofs.ShownResults
import StatementShell.Proofs.StatementReports
import StatementShell.Proofs.OneStatement
import StatementShell.Proofs.QuotedValues
import StatementShell.Proofs.SessionCourse
import StatementShell.Proofs.SessionProgress
import StatementShell.Proofs.LeadingTokens
import StatementShell.Proofs.StatementWrites
import StatementShell.Proofs.LoadedFiles
import StatementShell.Proofs.AddedProperties
import StatementShell.Proofs.FileFaults
import StatementShell.Proofs.SavedFiles
import StatementShell.Proofs.StartupStages
import StatementShell.Proofs.TableGrid
import StatementShell.Proofs.Gaps
import StatementShell.Proofs.TokenPlaces
import StatementShell.Proofs.LayoutAndCase
import StatementShell.Proofs.LineNumbers
