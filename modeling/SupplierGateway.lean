import SupplierGateway.Attempt
import SupplierGateway.Audit.Ledger
import SupplierGateway.Audit.Record
import SupplierGateway.Audit.Sharers
import SupplierGateway.Cache.Backend
import SupplierGateway.Cache.Callers
import SupplierGateway.Cache.Credential
import SupplierGateway.Cache.Locks
import SupplierGateway.Cache.Lookup
import SupplierGateway.Cache.Trial
import SupplierGateway.Calendar.Date
import SupplierGateway.Calendar.Instant
import SupplierGateway.Call.Interceptor
import SupplierGateway.Call.Pending
import SupplierGateway.Call.Pipeline
import SupplierGateway.CommandLine.Arguments
import SupplierGateway.CommandLine.Program
import SupplierGateway.CommandLine.Words
import SupplierGateway.Compression.Bits
import SupplierGateway.Compression.Gzip
import SupplierGateway.Compression.Huffman
import SupplierGateway.Compression.Inflate
import SupplierGateway.Compression.Lemmas
import SupplierGateway.Config.Basic
import SupplierGateway.Config.Json
import SupplierGateway.Config.Load
import SupplierGateway.Credential
import SupplierGateway.Decimal.Shortest
import SupplierGateway.Digest.Sha256
import SupplierGateway.Endpoint
import SupplierGateway.Failure
import SupplierGateway.FanOut.Pool
import SupplierGateway.FanOut.Trial
import SupplierGateway.Gateway.Basic
import SupplierGateway.Gateway.Service
import SupplierGateway.Http.Classify
import SupplierGateway.Http.Headers
import SupplierGateway.Http.Message
import SupplierGateway.Http.Offline
import SupplierGateway.Http.Transport
import SupplierGateway.InputError
import SupplierGateway.Json.Decoder
import SupplierGateway.Json.Document
import SupplierGateway.Json.Number
import SupplierGateway.Json.Value
import SupplierGateway.Main
import SupplierGateway.Operation.Context
import SupplierGateway.Operation.Envelope
import SupplierGateway.Operation.Run
import SupplierGateway.Operation.Script
import SupplierGateway.Operation.Spread
import SupplierGateway.Operation.Task
import SupplierGateway.Operation.World
import SupplierGateway.Phase
import SupplierGateway.Proofs.Audit.SharedLedgers
import SupplierGateway.Proofs.Cache.CallCourse
import SupplierGateway.Proofs.Cache.CallEnds
import SupplierGateway.Proofs.Cache.CredentialText
import SupplierGateway.Proofs.Cache.ExpiringMap
import SupplierGateway.Proofs.Cache.FlightLocks
import SupplierGateway.Proofs.Cache.Keys
import SupplierGateway.Proofs.Cache.LockTable
import SupplierGateway.Proofs.Cache.Pairing
import SupplierGateway.Proofs.Cache.Progress
import SupplierGateway.Proofs.Cache.Queues
import SupplierGateway.Proofs.Cache.SingleFlight
import SupplierGateway.Proofs.Cache.Stored
import SupplierGateway.Proofs.Cache.Tidying
import SupplierGateway.Proofs.Calendar.BilledDays
import SupplierGateway.Proofs.Calendar.DayNumbers
import SupplierGateway.Proofs.Calendar.Limits
import SupplierGateway.Proofs.Calendar.RoundTrip
import SupplierGateway.Proofs.Calendar.Texts
import SupplierGateway.Proofs.Call.Concealment
import SupplierGateway.Proofs.Call.Exchange
import SupplierGateway.Proofs.Call.Transparency
import SupplierGateway.Proofs.Call.Verdicts
import SupplierGateway.Proofs.Compression.RoundTrip
import SupplierGateway.Proofs.Config.RoundTrip
import SupplierGateway.Proofs.Endpoint.Canonical
import SupplierGateway.Proofs.FanOut.Accounting
import SupplierGateway.Proofs.FanOut.BestEffort
import SupplierGateway.Proofs.FanOut.Conservation
import SupplierGateway.Proofs.FanOut.Discipline
import SupplierGateway.Proofs.FanOut.FailFast
import SupplierGateway.Proofs.FanOut.Frames
import SupplierGateway.Proofs.FanOut.Moves
import SupplierGateway.Proofs.FanOut.Obedience
import SupplierGateway.Proofs.FanOut.Progress
import SupplierGateway.Proofs.Gateway.Answers
import SupplierGateway.Proofs.Gateway.ApiKeys
import SupplierGateway.Proofs.Gateway.AuditTrail
import SupplierGateway.Proofs.Gateway.AuthenticationGate
import SupplierGateway.Proofs.Gateway.BearerTokens
import SupplierGateway.Proofs.Gateway.CacheTransparency
import SupplierGateway.Proofs.Gateway.Catalogue
import SupplierGateway.Proofs.Gateway.ClientCredentials
import SupplierGateway.Proofs.Gateway.LoneOperations
import SupplierGateway.Proofs.Gateway.Observations
import SupplierGateway.Proofs.Gateway.PhaseTimeouts
import SupplierGateway.Proofs.Gateway.Quotes
import SupplierGateway.Proofs.Gateway.Secrecy
import SupplierGateway.Proofs.Gateway.SingleCalls
import SupplierGateway.Proofs.Gateway.TokenReuse
import SupplierGateway.Proofs.Http.Dependence
import SupplierGateway.Proofs.Http.Paths
import SupplierGateway.Proofs.Json.Members
import SupplierGateway.Proofs.Json.Records
import SupplierGateway.Proofs.Json.RoundTrip
import SupplierGateway.Proofs.Json.SpreadText
import SupplierGateway.Proofs.Lists
import SupplierGateway.Proofs.Operation.Agreement
import SupplierGateway.Proofs.Operation.Allowances
import SupplierGateway.Proofs.Operation.Correspondence
import SupplierGateway.Proofs.Operation.Course
import SupplierGateway.Proofs.Operation.Crashes
import SupplierGateway.Proofs.Operation.Ends
import SupplierGateway.Proofs.Operation.Fairness
import SupplierGateway.Proofs.Operation.Genuine
import SupplierGateway.Proofs.Operation.Liveness
import SupplierGateway.Proofs.Operation.Lockstep
import SupplierGateway.Proofs.Operation.Lone
import SupplierGateway.Proofs.Operation.Lookups
import SupplierGateway.Proofs.Operation.Progress
import SupplierGateway.Proofs.Operation.Records
import SupplierGateway.Proofs.Operation.Reissue
import SupplierGateway.Proofs.Operation.Requests
import SupplierGateway.Proofs.Operation.SecretCorrespondences
import SupplierGateway.Proofs.Operation.Settled
import SupplierGateway.Proofs.Operation.SpreadUnits
import SupplierGateway.Proofs.Operation.Tokens
import SupplierGateway.Proofs.Operation.Trace
import SupplierGateway.Proofs.Operation.Waiting
import SupplierGateway.Proofs.Schedule.Agenda
import SupplierGateway.Proofs.Schedule.Fairness
import SupplierGateway.Proofs.Supplier.BookingAddresses
import SupplierGateway.Proofs.Supplier.ReplyFields
import SupplierGateway.Proofs.Supplier.RequestBodies
import SupplierGateway.Proofs.Text.Bytes
import SupplierGateway.Rental.Booking
import SupplierGateway.Rental.Location
import SupplierGateway.Rental.Search
import SupplierGateway.Rental.Vehicle
import SupplierGateway.Schedule.Agenda
import SupplierGateway.Supplier.Replies
import SupplierGateway.Supplier.Requests
import SupplierGateway.Text.Ascii
import SupplierGateway.Text.Blank
import SupplierGateway.Text.Invisible
import SupplierGateway.Text.Percent
import SupplierGateway.Text.Quoted
import SupplierGateway.Timeouts
