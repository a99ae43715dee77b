import UmaGrant.Authorizer
import UmaGrant.Authorizer.Policy
import UmaGrant.Authorizer.Vocabulary
import UmaGrant.Cipher.Aes
import UmaGrant.Cipher.Gcm
import UmaGrant.Claim
import UmaGrant.Config
import UmaGrant.Consultation
import UmaGrant.Contract
import UmaGrant.Contract.Drafting
import UmaGrant.Description
import UmaGrant.Dict
import UmaGrant.GrantError
import UmaGrant.Halt
import UmaGrant.Json.Double
import UmaGrant.Json.Parser
import UmaGrant.Json.Printer
import UmaGrant.Json.Shape
import UmaGrant.Json.Shortest
import UmaGrant.Json.Value
import UmaGrant.Namespace
import UmaGrant.Negotiation.Federation
import UmaGrant.Negotiation.Request
import UmaGrant.Negotiation.Response
import UmaGrant.Negotiation.Round
import UmaGrant.Negotiation.Server
import UmaGrant.Outcome
import UmaGrant.Permission
import UmaGrant.Requirements
import UmaGrant.Store.Contracts
import UmaGrant.Store.Tickets
import UmaGrant.Strategy
import UmaGrant.Strategy.Derivation
import UmaGrant.Strategy.Settlement
import UmaGrant.Supply
import UmaGrant.SyntheticId
import UmaGrant.Text.Base64Url
import UmaGrant.Text.CodeTable
import UmaGrant.Text.Composition
import UmaGrant.Text.Hex
import UmaGrant.Text.Marks
import UmaGrant.Text.Obscure
import UmaGrant.Text.Pieces
import UmaGrant.Text.Quoted
import UmaGrant.Text.Utf8
import UmaGrant.Ticket
import UmaGrant.Time.Instant
import UmaGrant.Time.Rfc3339
import UmaGrant.Time.Span
import UmaGrant.Token.AccessToken
import UmaGrant.Token.Factory
import UmaGrant.Token.JoseHeader
import UmaGrant.Token.KeyParameters
import UmaGrant.Token.KeyRing
import UmaGrant.Token.Reference
import UmaGrant.Token.Signed
import UmaGrant.Toml.Document
import UmaGrant.Toml.Scalar
import UmaGrant.Toml.Tables
import UmaGrant.Toml.Text
import UmaGrant.Toml.Value
import UmaGrant.Url
import UmaGrant.Url.Domain
import UmaGrant.Url.Domain.Direction
import UmaGrant.Url.Domain.Joining
import UmaGrant.Url.Domain.Mapping
import UmaGrant.Url.Domain.Punycode
import UmaGrant.Url.Host
import UmaGrant.Url.Path
import UmaGrant.Verifier
import UmaGrant.Proofs.Cipher.RoundTrip
import UmaGrant.Proofs.SyntheticId
import UmaGrant.Proofs.Authorizer.Restriction
import UmaGrant.Proofs.Authorizer.Sufficiency
import UmaGrant.Proofs.Dict
import UmaGrant.Proofs.Strategy.Settlement
import UmaGrant.Proofs.Strategy.Masking
import UmaGrant.Proofs.Strategy.Provenance
import UmaGrant.Proofs.Negotiation.Round
import UmaGrant.Proofs.Negotiation.Turn
import UmaGrant.Proofs.Negotiation.Run
import UmaGrant.Proofs.Negotiation.Issuing
import UmaGrant.Proofs.Recourse
import UmaGrant.Proofs.Supply
import UmaGrant.Proofs.Negotiation.Answers
import UmaGrant.Proofs.Negotiation.Ledger
import UmaGrant.Proofs.Strategy.Elimination
import UmaGrant.Proofs.Strategy.Restoring
import UmaGrant.Proofs.Negotiation.Forfeit
import UmaGrant.Proofs.Token.Standing
import UmaGrant.Proofs.Strategy.Independence
import UmaGrant.Proofs.Negotiation.Parallel
import UmaGrant.Proofs.Negotiation.Interleaving
import UmaGrant.Proofs.Strategy.Remainder
import UmaGrant.Proofs.Strategy.Lacking
import UmaGrant.Proofs.Negotiation.Pursuing
import UmaGrant.Proofs.Negotiation.Denial
import UmaGrant.Proofs.Negotiation.Recipe
import UmaGrant.Proofs.Negotiation.Relay
import UmaGrant.Proofs.Negotiation.Concealment
import UmaGrant.Proofs.Json.Reading
import UmaGrant.Proofs.Text.Base64Url
import UmaGrant.Proofs.Json.Shapes
import UmaGrant.Proofs.Token.Header
import UmaGrant.Proofs.Token.Signed
import UmaGrant.Proofs.Token.KeyUse
import UmaGrant.Proofs.Token.Rotation
import UmaGrant.Proofs.Token.Authenticity
import UmaGrant.Proofs.Negotiation.Voucher
import UmaGrant.Proofs.Negotiation.Exchange
import UmaGrant.Proofs.Text.Canonical
import UmaGrant.Proofs.SyntheticId.Forms
import UmaGrant.Proofs.Token.TableUse
import UmaGrant.Proofs.Token.Expiry
import UmaGrant.Proofs.Time.Calendar
import UmaGrant.Proofs.Time.Rfc3339
import UmaGrant.Proofs.Json.Sameness
import UmaGrant.Proofs.Contract
import UmaGrant.Proofs.Store.Contracts
import UmaGrant.Proofs.Negotiation.Engagement
import UmaGrant.Proofs.Negotiation.Renewal
import UmaGrant.Proofs.Authorizer.Vocabulary
import UmaGrant.Proofs.Contract.Conditions
import UmaGrant.Proofs.Negotiation.Unverified
import UmaGrant.Proofs.Config
import UmaGrant.Proofs.Negotiation.Challenge
import UmaGrant.Proofs.Json.Records
import UmaGrant.Proofs.Negotiation.Grammar
import UmaGrant.Proofs.Time.Written
import UmaGrant.Proofs.Json.Formats
import UmaGrant.Proofs.Strategy.Transparency
import UmaGrant.Proofs.Negotiation.Transparency
import UmaGrant.Proofs.Store.Lapse
import UmaGrant.Proofs.Store.Sweeping
import UmaGrant.Proofs.Authorizer.Policy
import UmaGrant.Proofs.Authorizer.Isolation
import UmaGrant.Proofs.Strategy.Issuers
import UmaGrant.Proofs.Negotiation.Issuers
import UmaGrant.Proofs.Coverage.Order
