import Sandwich.Abi
import Sandwich.Amount
import Sandwich.Bytes
import Sandwich.Chain
import Sandwich.Checksum
import Sandwich.Client
import Sandwich.Command.Basic
import Sandwich.Command.Error
import Sandwich.Command.Fees
import Sandwich.Command.Grammar
import Sandwich.Command.Input
import Sandwich.Command.Inspect
import Sandwich.Command.Job
import Sandwich.Command.Line
import Sandwich.Command.LogLine
import Sandwich.Command.Logging
import Sandwich.Command.Process
import Sandwich.Command.Run
import Sandwich.Command.Usage
import Sandwich.Command.Variables
import Sandwich.Command.Words
import Sandwich.Compact
import Sandwich.Compiler
import Sandwich.Curve.Secp256k1
import Sandwich.Curve.Signature
import Sandwich.Deployment
import Sandwich.Domain.Image
import Sandwich.Domain.Letter
import Sandwich.Domain.Name
import Sandwich.Domain.Punycode
import Sandwich.Domain.Shift
import Sandwich.Domain.Word
import Sandwich.Event
import Sandwich.Failure
import Sandwich.Fees
import Sandwich.Flow
import Sandwich.Folder
import Sandwich.Hash.Keccak
import Sandwich.Hash.Sha256
import Sandwich.Hex
import Sandwich.Json
import Sandwich.Json.Number
import Sandwich.Layout.Basic
import Sandwich.Layout.Error
import Sandwich.Layout.Field
import Sandwich.Layout.Table
import Sandwich.Main
import Sandwich.Operation
import Sandwich.Order
import Sandwich.Program
import Sandwich.Proofs.Abi
import Sandwich.Proofs.Amount.Numeral
import Sandwich.Proofs.Amount.Unit
import Sandwich.Proofs.Bytes
import Sandwich.Proofs.Chain.Account
import Sandwich.Proofs.Chain.Conservation
import Sandwich.Proofs.Chain.Errand
import Sandwich.Proofs.Chain.Execution
import Sandwich.Proofs.Chain.FailedTransaction
import Sandwich.Proofs.Chain.Funding
import Sandwich.Proofs.Chain.Interference
import Sandwich.Proofs.Chain.Interleaving
import Sandwich.Proofs.Chain.Metamorphosis
import Sandwich.Proofs.Chain.NonceSafety
import Sandwich.Proofs.Chain.Numbering
import Sandwich.Proofs.Chain.Orderly
import Sandwich.Proofs.Chain.Recovery
import Sandwich.Proofs.Chain.Solitary
import Sandwich.Proofs.Chain.Submission
import Sandwich.Proofs.Chain.Transfer
import Sandwich.Proofs.Command.Amount
import Sandwich.Proofs.Command.Deployment
import Sandwich.Proofs.Command.Fees
import Sandwich.Proofs.Command.Hexadecimal
import Sandwich.Proofs.Command.Job
import Sandwich.Proofs.Command.Payload
import Sandwich.Proofs.Command.PoolKey
import Sandwich.Proofs.Compact
import Sandwich.Proofs.Compact.Placement
import Sandwich.Proofs.Compact.Stability
import Sandwich.Proofs.Compact.Truncation
import Sandwich.Proofs.Compact.WireForm
import Sandwich.Proofs.Deployment
import Sandwich.Proofs.Except
import Sandwich.Proofs.Fees
import Sandwich.Proofs.Fees.Resolution
import Sandwich.Proofs.Flow
import Sandwich.Proofs.Hex
import Sandwich.Proofs.Layout.Entries
import Sandwich.Proofs.Layout.Field
import Sandwich.Proofs.Layout.Packing
import Sandwich.Proofs.Layout.RoundTrip
import Sandwich.Proofs.Layout.WireFormat
import Sandwich.Proofs.Operation
import Sandwich.Proofs.Order
import Sandwich.Proofs.Program
import Sandwich.Proofs.Rpc.Node
import Sandwich.Proofs.Rpc.Polling
import Sandwich.Proofs.Rpc.Rejection
import Sandwich.Proofs.Sequencer.Calls
import Sandwich.Proofs.Sequencer.Course
import Sandwich.Proofs.Sequencer.InTurn
import Sandwich.Proofs.Swap
import Sandwich.Proofs.Swap.Dust
import Sandwich.Proofs.Table
import Sandwich.Proofs.Text
import Sandwich.Rlp
import Sandwich.Rpc.Client
import Sandwich.Rpc.Mismatch
import Sandwich.Rpc.Node
import Sandwich.Rpc.Reading
import Sandwich.Rpc.Request
import Sandwich.Sequencer
import Sandwich.Signer
import Sandwich.Swap
import Sandwich.Table
import Sandwich.Text.Alphanumeric
import Sandwich.Text.Blank
import Sandwich.Text.Composition
import Sandwich.Text.Direction
import Sandwich.Text.Intervals
import Sandwich.Text.Joining
import Sandwich.Text.Mark
import Sandwich.Text.Printable
import Sandwich.Text.Quoted
import Sandwich.Text.Utf8
import Sandwich.Transaction.Basic
import Sandwich.Transaction.Wire
import Sandwich.Url
import Sandwich.Url.Host
