import Giro.Amount
import Giro.Backend
import Giro.Backend.Faults
import Giro.Codec.Base64
import Giro.Codec.Hex
import Giro.Config
import Giro.Currency
import Giro.Decimal.Shortest
import Giro.Digest.Blake2b
import Giro.Digest.Sha256
import Giro.Http.Extract
import Giro.Http.MediaType
import Giro.Http.Query
import Giro.Http.Request
import Giro.Http.Response
import Giro.Http.Route
import Giro.Http.Server
import Giro.Identity
import Giro.Invalid
import Giro.Json.Decode
import Giro.Json.Number
import Giro.Json.Outline
import Giro.Json.Syntax
import Giro.Json.Tree
import Giro.Json.Value
import Giro.Overflow
import Giro.Password.Argon2
import Giro.Password.Check
import Giro.Password.Record
import Giro.Payment
import Giro.Posting
import Giro.Program
import Giro.Proofs.Acceptance
import Giro.Proofs.Aftermath
import Giro.Proofs.Alone
import Giro.Proofs.Answers
import Giro.Proofs.Authority
import Giro.Proofs.Balance
import Giro.Proofs.Bank
import Giro.Proofs.Callers
import Giro.Proofs.Clients
import Giro.Proofs.Commuting
import Giro.Proofs.Conservation
import Giro.Proofs.Consistency
import Giro.Proofs.Contention
import Giro.Proofs.Credentials
import Giro.Proofs.Dates
import Giro.Proofs.Deadlock
import Giro.Proofs.Discard
import Giro.Proofs.Discretion
import Giro.Proofs.DoubleEntry
import Giro.Proofs.Endings
import Giro.Proofs.Environments
import Giro.Proofs.Errands
import Giro.Proofs.Gate
import Giro.Proofs.Isolation
import Giro.Proofs.Journal
import Giro.Proofs.Ledgers
import Giro.Proofs.Lifetimes
import Giro.Proofs.Numerals
import Giro.Proofs.Operations
import Giro.Proofs.Outage
import Giro.Proofs.Pages
import Giro.Proofs.Passwords
import Giro.Proofs.Payments
import Giro.Proofs.Permits
import Giro.Proofs.Pools
import Giro.Proofs.Privacy
import Giro.Proofs.Progress
import Giro.Proofs.ReadBack
import Giro.Proofs.References
import Giro.Proofs.Renewals
import Giro.Proofs.Reticence
import Giro.Proofs.RowLocks
import Giro.Proofs.Scripts
import Giro.Proofs.Serial
import Giro.Proofs.Sessions
import Giro.Proofs.Stages
import Giro.Proofs.Tokens
import Giro.Proofs.Traffic
import Giro.Proofs.Turns
import Giro.Proofs.Undone
import Giro.Refusal
import Giro.Service
import Giro.Store.Basic
import Giro.Store.Call
import Giro.Store.Database
import Giro.Store.Error
import Giro.Store.Lock
import Giro.Store.Row
import Giro.Store.Table
import Giro.Store.Transaction
import Giro.Text.Blank
import Giro.Text.Calendar
import Giro.Text.Fields
import Giro.Text.Integer
import Giro.Text.Invisible
import Giro.Text.Quoted
import Giro.Text.Utf8
import Giro.Time
import Giro.Token.Claims
import Giro.Token.Error
import Giro.Token.Header
import Giro.Token.Key
import Giro.Uuid
