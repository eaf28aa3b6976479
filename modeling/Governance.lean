import Governance.Account
import Governance.Action
import Governance.Amount
import Governance.Attempts
import Governance.Call
import Governance.Client
import Governance.Config
import Governance.Contract
import Governance.Correlation.Fields
import Governance.Correlation.Key
import Governance.Correlation.Polling
import Governance.Correlation.Scan
import Governance.Dao
import Governance.Double
import Governance.Double.Shortest
import Governance.Duration
import Governance.Error
import Governance.FileContent
import Governance.Json.Decoder
import Governance.Json.Document
import Governance.Json.Literal
import Governance.Json.Number
import Governance.Json.Numeral
import Governance.Json.Token
import Governance.Json.Value
import Governance.Proposal.Basic
import Governance.Proposal.Kind
import Governance.Proposal.Nft
import Governance.Proposal.Role
import Governance.Retry
import Governance.Revenue
import Governance.Rpc.Endpoint
import Governance.Rpc.Reply
import Governance.Rpc.Status
import Governance.Session.File
import Governance.Session.Pending
import Governance.Session.Store
import Governance.StringMap
import Governance.Text.Base64
import Governance.Text.Blank
import Governance.Text.Composition
import Governance.Text.Composition.Pairs
import Governance.Text.Decimal
import Governance.Text.Direction
import Governance.Text.Joining
import Governance.Text.Mark
import Governance.Text.Quoted
import Governance.Text.Ranges
import Governance.Text.Segments
import Governance.Text.Utf8
import Governance.Text.Visible
import Governance.Timestamp
import Governance.TokenMetadata
import Governance.Url
import Governance.Url.Domain
import Governance.Url.Host
import Governance.Url.Mapping
import Governance.Url.Mapping.Excluded
import Governance.Url.Mapping.Images
import Governance.Url.Mapping.Sequences
import Governance.Url.Mapping.Shifts
import Governance.Url.Punycode
import Governance.Uuid
import Governance.Workflow
import Governance.Proofs.Runs
import Governance.Proofs.Session.Entries
import Governance.Proofs.Correlation.Matching
import Governance.Proofs.Session.Refinement
import Governance.Proofs.Contract.Log
import Governance.Proofs.Correlation.Trace
import Governance.Proofs.Contract.Listing
import Governance.Proofs.Correlation.Search
import Governance.Proofs.Correlation.Persistence
import Governance.Proofs.Correlation.Kinds
import Governance.Proofs.Correlation.Growing
import Governance.Proofs.Workflow.Setting
import Governance.Proofs.Workflow.Submission
import Governance.Proofs.Json.Values
import Governance.Proofs.Proposal.Parts
import Governance.Proofs.Proposal.Listing
import Governance.Proofs.Contract.Register
import Governance.Proofs.Session.Survival
import Governance.Proofs.Correlation.Refusing
import Governance.Proofs.Workflow.Freshness
import Governance.Proofs.Workflow.Flow
import Governance.Proofs.Workflow.Interleaving
import Governance.Proofs.Workflow.Sequence
import Governance.Proofs.Workflow.SharedSession
import Governance.Proofs.Workflow.Ownership
import Governance.Proofs.Correlation.Reading
import Governance.Proofs.Session.Coherence
import Governance.Proofs.Session.Leftovers
import Governance.Proofs.Rpc.Exchanges
import Governance.Proofs.Workflow.Execution
import Governance.Proofs.Correlation.Identity
import Governance.Proofs.Correlation.Gaps
import Governance.Proofs.Json.Depth
import Governance.Proofs.Proposal.Unmodelled
import Governance.Proofs.Rpc.Traffic
import Governance.Proofs.Session.Failures
import Governance.Proofs.Rpc.Wording
import Governance.Proofs.Rpc.NodeErrors
import Governance.Proofs.Workflow.Exits
import Governance.Proofs.Workflow.Sending
import Governance.Proofs.Workflow.Consumption
import Governance.Proofs.Attempts
import Governance.Proofs.Correlation.Polling
import Governance.Proofs.Correlation.FirstPage
import Governance.Proofs.Workflow.Loss
import Governance.Proofs.Text.Digits
import Governance.Proofs.Amount.Reading
import Governance.Proofs.Amount.Showing
import Governance.Proofs.Amount.Rounding
import Governance.Proofs.Account
import Governance.Proofs.Revenue
import Governance.Proofs.Rpc.Repetition
import Governance.Proofs.Rpc.Failures
import Governance.Proofs.Rpc.Delivery
import Governance.Proofs.Income
import Governance.Proofs.Json.Growth
import Governance.Proofs.Proposal.Growth
import Governance.Proofs.Rpc.Plays
import Governance.Proofs.Purchase
import Governance.Proofs.Text.Order
import Governance.Proofs.StringMap
import Governance.Proofs.Correlation.Conjunction
