import VncAccess.Text.Basic
import VncAccess.Text.Printable
import VncAccess.Text.Quoted
import VncAccess.Text.Utf8
import VncAccess.Text.Width
import VncAccess.Des.Bits
import VncAccess.Des.Cipher
import VncAccess.Des.Tables
import VncAccess.Failure
import VncAccess.System.Errno
import VncAccess.System.FileSystem
import VncAccess.System.Input
import VncAccess.System.Path
import VncAccess.System.Tree
import VncAccess.Secret.Memory
import VncAccess.Console.Layout
import VncAccess.Console.Markup
import VncAccess.Console.Notice
import VncAccess.Random.Clock
import VncAccess.Random.Provider
import VncAccess.Random.Twister
import VncAccess.Display.Server
import VncAccess.Display.Session
import VncAccess.Host
import VncAccess.Password.Directory
import VncAccess.Password.File
import VncAccess.Password.Prompt
import VncAccess.Password.Slot
import VncAccess.OneTime
import VncAccess.AccessList
import VncAccess.Toml.Document
import VncAccess.Toml.Lexeme
import VncAccess.Toml.Number
import VncAccess.Toml.Value
import VncAccess.Settings
import VncAccess.Invocation
import VncAccess.CommandLine.Help
import VncAccess.CommandLine.Options
import VncAccess.Command
import VncAccess.Main
import VncAccess.Proofs.Lemmas.Ending
import VncAccess.Proofs.Lemmas.Memory
import VncAccess.Proofs.Lemmas.Utf8
import VncAccess.Proofs.Lemmas.Prompts
import VncAccess.Proofs.Lemmas.Dialogue
import VncAccess.Proofs.Lemmas.Frames
import VncAccess.Proofs.Lemmas.Tree
import VncAccess.Proofs.Lemmas.Ways
import VncAccess.Proofs.Lemmas.Calls
import VncAccess.Proofs.Lemmas.Replacing
import VncAccess.Proofs.Lemmas.Cipher
import VncAccess.Proofs.Lemmas.Slots
import VncAccess.Proofs.Lemmas.Directories
import VncAccess.Proofs.Lemmas.Looking
import VncAccess.Proofs.Lemmas.Writing
import VncAccess.Proofs.Wiping
import VncAccess.Proofs.RoundTrip
import VncAccess.Proofs.Outcome
import VncAccess.Proofs.AllOrNothing
import VncAccess.Proofs.Lemmas.Requests
import VncAccess.Proofs.Conversation
import VncAccess.Proofs.Lemmas.Lines
import VncAccess.Proofs.Stream
import VncAccess.Proofs.Lemmas.Together
import VncAccess.Proofs.Lemmas.Blindness
import VncAccess.Proofs.Agreement
import VncAccess.Proofs.Lemmas.Veiled
import VncAccess.Proofs.Lemmas.Mirrored
import VncAccess.Proofs.Secrecy
import VncAccess.Proofs.Lemmas.Tags
import VncAccess.Proofs.Lemmas.PlainText
import VncAccess.Proofs.Lemmas.Issuing
import VncAccess.Proofs.OneTimePasswords
import VncAccess.Proofs.Resources
import VncAccess.Proofs.Buffers
import VncAccess.Proofs.Lemmas.Safe
import VncAccess.Proofs.Failures
import VncAccess.Proofs.Provisioning
import VncAccess.Proofs.Asking
import VncAccess.Proofs.Rereading
import VncAccess.Proofs.Lemmas.Beside
import VncAccess.Proofs.OutputOptions
import VncAccess.Proofs.SuccessiveLines
import VncAccess.Proofs.Choosing
import VncAccess.Proofs.SettingsFile
import VncAccess.Proofs.UserNames
import VncAccess.Proofs.Entries
import VncAccess.Proofs.EightDigits
import VncAccess.Proofs.TemporaryPlace
import VncAccess.Proofs.Lemmas.Escaping
import VncAccess.Proofs.Messages
import VncAccess.Proofs.SinglePass
import VncAccess.Proofs.Lemmas.Unescaping
import VncAccess.Proofs.Verbatim
