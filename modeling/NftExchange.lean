import NftExchange.Bytes
import NftExchange.Word
import NftExchange.Text.Quoted
import NftExchange.Text.Blank
import NftExchange.Text.Punycode
import NftExchange.Hex
import NftExchange.Digest.Keccak
import NftExchange.Digest.Sha256
import NftExchange.Curve.Ecdsa
import NftExchange.Decimal.Shortest
import NftExchange.Json.Value
import NftExchange.Json.Error
import NftExchange.Json.Record
import NftExchange.Json.Quantity
import NftExchange.Chain.Receipt
import NftExchange.Chain.Account
import NftExchange.Chain.Mining
import NftExchange.Chain.OfficialBatch
import NftExchange.Transaction.Reported
import NftExchange.Authorization.Basic
import NftExchange.Payload
import NftExchange.Gateway.Ask
import NftExchange.Gateway.Script
import NftExchange.Toml.Read
import NftExchange.Client.Signing
import NftExchange.Node.Methods
import NftExchange.Telemetry.Config
import NftExchange.Proofs.Except
import NftExchange.Proofs.Utf8
import NftExchange.Proofs.Stretches
import NftExchange.Proofs.BigEndian
import NftExchange.Proofs.Hex
import NftExchange.Proofs.Rlp
import NftExchange.Proofs.Rlp.Canonical
import NftExchange.Proofs.Signature.Wire
import NftExchange.Proofs.Signature.Guarded
import NftExchange.Proofs.Json.Strings
import NftExchange.Proofs.Json.Numerals
import NftExchange.Proofs.Json.Members
import NftExchange.Proofs.Json.Objects
import NftExchange.Proofs.Json.Codecs
import NftExchange.Proofs.Json.Values
import NftExchange.Proofs.Json.Parsed
import NftExchange.Proofs.Json.Documents
import NftExchange.Proofs.Json.Canonical
import NftExchange.Proofs.Json.RoundTrip
import NftExchange.Proofs.Chain.Reports
import NftExchange.Proofs.Decimal.Rounding
import NftExchange.Proofs.Json.Floating
import NftExchange.Proofs.Transaction.RoundTrip
import NftExchange.Proofs.Transaction.Canonical
import NftExchange.Proofs.Transaction.Reported
import NftExchange.Proofs.Transaction.Signing
import NftExchange.Proofs.Transaction.Preimage
import NftExchange.Proofs.Authorization.Transport
import NftExchange.Proofs.Authorization.Schema
import NftExchange.Proofs.Payload.Transport
import NftExchange.Proofs.Authorization.Signer
import NftExchange.Proofs.Authorization.Fields
import NftExchange.Proofs.Authorization.Separation
import NftExchange.Proofs.Hex.Quantity
import NftExchange.Proofs.Hex.Joined
import NftExchange.Proofs.Gateway.Exchange
import NftExchange.Proofs.Gateway.Questions
import NftExchange.Proofs.Digits
import NftExchange.Proofs.Text.Trimmed
import NftExchange.Proofs.Hex.Spelling
import NftExchange.Proofs.Hex.Numbers
import NftExchange.Proofs.Signature.Reading
import NftExchange.Proofs.Signature.Key
import NftExchange.Proofs.Quantity.Text
import NftExchange.Proofs.Quantity.Number
import NftExchange.Proofs.Quantity.Forms
import NftExchange.Proofs.Toml.Values
import NftExchange.Proofs.Toml.Listing
import NftExchange.Proofs.Client.Loading
import NftExchange.Proofs.Client.Submission
import NftExchange.Proofs.Client.Operations
import NftExchange.Proofs.Node.Ledger
import NftExchange.Proofs.Node.Examination
import NftExchange.Proofs.Node.Execution
import NftExchange.Proofs.Node.Run
import NftExchange.Proofs.Node.Shared
import NftExchange.Proofs.Client.Deadline
import NftExchange.Proofs.Client.Stage
import NftExchange.Proofs.Node.Settlement
import NftExchange.Proofs.Node.Refusal
import NftExchange.Proofs.Node.Conservation
import NftExchange.Proofs.Node.History
import NftExchange.Proofs.Node.Lookup
import NftExchange.Proofs.Node.Interleaving
