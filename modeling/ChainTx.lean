import ChainTx.LogFilter
import ChainTx.Main
import ChainTx.Session
import ChainTx.Proofs.Acceptance
import ChainTx.Proofs.Connecting
import ChainTx.Proofs.Cosmos.Building
import ChainTx.Proofs.Cosmos.Canonicity
import ChainTx.Proofs.Cosmos.MessageBody
import ChainTx.Proofs.Evm.Building
import ChainTx.Proofs.Precedence
import ChainTx.Proofs.Resigning
import ChainTx.Proofs.Bech32.HumanReadable
import ChainTx.Proofs.Usability
import ChainTx.Proofs.Bytes.Texts
import ChainTx.Proofs.Call.Exchange
import ChainTx.Proofs.Handover
import ChainTx.Proofs.Refusal
import ChainTx.Proofs.Cancellation
import ChainTx.Proofs.Evm.Lengths
import ChainTx.Proofs.SignedFor
import ChainTx.Proofs.Deadlines
import ChainTx.Proofs.Coin
import ChainTx.Proofs.Fee
import ChainTx.Proofs.Cosmos.NullMembers
import ChainTx.Proofs.Cosmos.Addresses
import ChainTx.Proofs.Cosmos.KeyType
import ChainTx.Proofs.Detection
import ChainTx.Proofs.Evm.Transfers
import ChainTx.Proofs.Coin.Text
import ChainTx.Proofs.Call.Guarding
import ChainTx.Proofs.Url.Below
import ChainTx.Proofs.Cosmos.RequestedKeys
