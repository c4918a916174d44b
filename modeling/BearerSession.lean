import BearerSession.Text.Utf8
import BearerSession.Text.Printable
import BearerSession.Text.Literal
import BearerSession.Decimal.Shortest
import BearerSession.Json.Value
import BearerSession.Json.Print
import BearerSession.Json.Error
import BearerSession.Json.Cursor
import BearerSession.Json.Parse
import BearerSession.Json.Record
import BearerSession.Disk.Errno
import BearerSession.Failure
import BearerSession.Token
import BearerSession.Http.Method
import BearerSession.Http.Request
import BearerSession.Http.Status
import BearerSession.Http.Response
import BearerSession.Profile
import BearerSession.Url.Punycode
import BearerSession.Url.Host
import BearerSession.Url.Basic
import BearerSession.BaseUrl
import BearerSession.Digest.Sha1
import BearerSession.History.Repository
import BearerSession.History.Describe
import BearerSession.Build.Stamp
import BearerSession.Client.Transport
import BearerSession.Disk.Path
import BearerSession.Disk.Tree
import BearerSession.Disk.Call
import BearerSession.Clock.Instant
import BearerSession.Clock.Rfc3339
import BearerSession.Store.Saved
import BearerSession.Store.File
import BearerSession.Store.Basic
import BearerSession.Client.Basic
import BearerSession.Client.Renewal
import BearerSession.Client.Exchange
import BearerSession.CommandLine.Basic
import BearerSession.CommandLine.Help
import BearerSession.CommandLine.Error
import BearerSession.Text.Similarity
import BearerSession.CommandLine.Parse
import BearerSession.Console.Fault
import BearerSession.Console.Program
import BearerSession.Http.Agent
import BearerSession.Report
import BearerSession.Session
import BearerSession.Console.Run
import BearerSession.Main
import BearerSession.Simulation.Backend
import BearerSession.Simulation.StoreStep
import BearerSession.Simulation.Scenario
import BearerSession.Client.Pool
import BearerSession.Proofs.Coordinator
import BearerSession.Proofs.Move
import BearerSession.Proofs.SingleFlight
import BearerSession.Proofs.WaveOutcome
import BearerSession.Proofs.Traffic
import BearerSession.Proofs.RefreshToken
import BearerSession.Proofs.RequestPath
import BearerSession.Proofs.Interference
import BearerSession.Proofs.Progress
import BearerSession.Proofs.Wave
import BearerSession.Proofs.SharedRenewal
import BearerSession.Proofs.FailedRenewal
import BearerSession.Proofs.RenewalEnd
import BearerSession.Proofs.SessionControl
import BearerSession.Proofs.CommandGates
import BearerSession.Proofs.SharedFile
import BearerSession.Proofs.Utf8RoundTrip
import BearerSession.Proofs.StringReading
import BearerSession.Proofs.CredentialDocument
import BearerSession.Proofs.RequestHeaders
import BearerSession.Proofs.SequentialSend
import BearerSession.Proofs.FailedWrite
import BearerSession.Proofs.TimeText
import BearerSession.Proofs.StoreRoundTrip
import BearerSession.Proofs.Redaction
import BearerSession.Proofs.WireHeaders
import BearerSession.Proofs.BaseUrlReading
import BearerSession.Proofs.RequestCommand
import BearerSession.Proofs.EndpointJoin
import BearerSession.Proofs.PathParts
import BearerSession.Proofs.SiblingFiles
