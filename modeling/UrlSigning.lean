import UrlSigning.CommandLine.Arguments
import UrlSigning.CommandLine.Command
import UrlSigning.CommandLine.Flag
import UrlSigning.CommandLine.Plan
import UrlSigning.Console.Layout
import UrlSigning.Console.Markup
import UrlSigning.Console.Style
import UrlSigning.Console.Width
import UrlSigning.Decimal.Binary64
import UrlSigning.Decimal.Shortest
import UrlSigning.Entries
import UrlSigning.Event
import UrlSigning.Failure
import UrlSigning.Files.Path
import UrlSigning.Files.Tree
import UrlSigning.Hash.Hmac
import UrlSigning.Hash.Sha256
import UrlSigning.Http.Fault
import UrlSigning.Http.Headers
import UrlSigning.Http.Request
import UrlSigning.Http.Status
import UrlSigning.Json.Reader
import UrlSigning.Json.Value
import UrlSigning.Json.Writer
import UrlSigning.Main
import UrlSigning.Pipeline.Bag
import UrlSigning.Pipeline.Components
import UrlSigning.Pipeline.Interceptor
import UrlSigning.Pipeline.Orchestrator
import UrlSigning.Pipeline.Plugin
import UrlSigning.Pipeline.Presign
import UrlSigning.Pipeline.Serialize
import UrlSigning.Pipeline.Setting
import UrlSigning.Provider.Basic
import UrlSigning.Provider.Load
import UrlSigning.Report.Console
import UrlSigning.Report.Document
import UrlSigning.Retry
import UrlSigning.Run.Progress
import UrlSigning.Run.Result
import UrlSigning.Sending.Exchange
import UrlSigning.Sending.Outgoing
import UrlSigning.Signing.Canonical
import UrlSigning.Signing.Config
import UrlSigning.Signing.Payload
import UrlSigning.Signing.Signer
import UrlSigning.Signing.Window
import UrlSigning.Text.Base64
import UrlSigning.Text.Blank
import UrlSigning.Text.Case
import UrlSigning.Text.Cut
import UrlSigning.Text.Digit
import UrlSigning.Text.Hex
import UrlSigning.Text.Label
import UrlSigning.Text.Lines
import UrlSigning.Text.Percent
import UrlSigning.Text.Printable
import UrlSigning.Text.Punycode
import UrlSigning.Text.Quoted
import UrlSigning.Text.Span
import UrlSigning.Text.Utf8
import UrlSigning.Time.Calendar
import UrlSigning.Time.DateTime
import UrlSigning.Time.Duration
import UrlSigning.Time.Fault
import UrlSigning.Time.Iso
import UrlSigning.Time.Stamp
import UrlSigning.Url.Address
import UrlSigning.Url.Fault
import UrlSigning.Url.HostName
import UrlSigning.Url.Parts
import UrlSigning.Url.Path
import UrlSigning.Url.Query
import UrlSigning.Url.Target
import UrlSigning.Proofs.Pipeline.Agreement
import UrlSigning.Proofs.Entries
import UrlSigning.Proofs.Pipeline.Bag
import UrlSigning.Proofs.Pipeline.Components
import UrlSigning.Proofs.Pipeline.Steps
import UrlSigning.Proofs.Pipeline.Handover
import UrlSigning.Proofs.Event
import UrlSigning.Proofs.Pipeline.OneAttempt
import UrlSigning.Proofs.Pipeline.Disabling
import UrlSigning.Proofs.Text.Percent
import UrlSigning.Proofs.Text.Cut
import UrlSigning.Proofs.Url.Query
import UrlSigning.Proofs.Text.Case
import UrlSigning.Proofs.Url.Parts
import UrlSigning.Proofs.Verification.Headers
import UrlSigning.Proofs.Signing.Query
import UrlSigning.Proofs.Verification.Signature
import UrlSigning.Proofs.Pipeline.Alone
import UrlSigning.Proofs.Verification.Presigning
import UrlSigning.Proofs.Pipeline.Attempts
import UrlSigning.Proofs.Signing.Body
import UrlSigning.Proofs.Signing.Frame
import UrlSigning.Proofs.Pipeline.Body
import UrlSigning.Proofs.Url.Target
import UrlSigning.Proofs.Url.Placed
import UrlSigning.Proofs.Provider.ObjectUrl
import UrlSigning.Proofs.Run.Turns
import UrlSigning.Proofs.Text.Lower
import UrlSigning.Proofs.Url.Rejoined
import UrlSigning.Proofs.Url.Hosted
import UrlSigning.Proofs.Url.Kept
import UrlSigning.Proofs.Signing.Parameters
import UrlSigning.Proofs.Signing.Success
import UrlSigning.Proofs.Presigning.Signer
import UrlSigning.Proofs.Sending.Target
import UrlSigning.Proofs.Provider.Load
import UrlSigning.Proofs.CommandLine.Plan
import UrlSigning.Proofs.Run.Presigned
import UrlSigning.Proofs.Run.WellFormed
import UrlSigning.Proofs.Run.Expiry
import UrlSigning.Proofs.Run.Isolation
import UrlSigning.Proofs.Run.Returning
import UrlSigning.Proofs.Run.Headers
import UrlSigning.Proofs.Decimal.Nearest
import UrlSigning.Proofs.Time.Calendar
import UrlSigning.Proofs.Time.Stamp
import UrlSigning.Proofs.Presigning.Deadline
import UrlSigning.Proofs.Presigning.Query
import UrlSigning.Proofs.Presigning.Instant
import UrlSigning.Proofs.Presigning.Respelled
import UrlSigning.Proofs.Presigning.Path
import UrlSigning.Proofs.Pipeline.Order
import UrlSigning.Proofs.Http.Headers
import UrlSigning.Proofs.Signing.Names
import UrlSigning.Proofs.Pipeline.Edits
import UrlSigning.Proofs.Pipeline.Names
import UrlSigning.Proofs.Signing.Prepared
import UrlSigning.Proofs.Verification.Dictionary
import UrlSigning.Proofs.Pipeline.Returned
import UrlSigning.Proofs.Signing.Secret
import UrlSigning.Proofs.Report.Document
import UrlSigning.Proofs.CommandLine.Command
import UrlSigning.Proofs.Report.Console
import UrlSigning.Proofs.CommandLine.Exit
import UrlSigning.Proofs.CommandLine.Addressed
import UrlSigning.Proofs.Retry.Schedule
import UrlSigning.Proofs.Json.Characters
import UrlSigning.Proofs.Json.RoundTrip
import UrlSigning.Proofs.Json.Scalar
import UrlSigning.Proofs.Provider.Document
import UrlSigning.Proofs.Provider.Declaration
import UrlSigning.Proofs.Provider.Malformed
import UrlSigning.Proofs.Provider.Source
import UrlSigning.Proofs.Provider.Declared
import UrlSigning.Proofs.Text.Digit
import UrlSigning.Proofs.CommandLine.Configuration
import UrlSigning.Proofs.Signing.Repeated
import UrlSigning.Proofs.Pipeline.Flattening
import UrlSigning.Proofs.Pipeline.Copies
import UrlSigning.Proofs.Sending.Again
import UrlSigning.Proofs.Signing.Payload
import UrlSigning.Proofs.Signing.Token
import UrlSigning.Proofs.Time.Seconds
import UrlSigning.Proofs.Signing.Expiry
import UrlSigning.Proofs.Provider.ObjectName
import UrlSigning.Proofs.Url.Canonical
import UrlSigning.Proofs.Signing.Digest
import UrlSigning.Proofs.CommandLine.Uses
import UrlSigning.Proofs.CommandLine.Payload
import UrlSigning.Proofs.Time.Iso
import UrlSigning.Proofs.CommandLine.Malformed
import UrlSigning.Proofs.Time.Written
import UrlSigning.Proofs.CommandLine.StartTime
import UrlSigning.Proofs.Files.Written
import UrlSigning.Proofs.Report.RoundTrip
import UrlSigning.Proofs.Text.Spelling
import UrlSigning.Proofs.Decimal.Value
import UrlSigning.Proofs.Provider.Expiry
import UrlSigning.Proofs.Console.Markup
import UrlSigning.Proofs.Report.Shown
import UrlSigning.Proofs.Pipeline.Assembly
