/-
  NodeClient.Client.Operation
  ───────────────────────────
  What a client can be asked for: which method of the node serves it, what it needs of the node,
  what it sends and what it returns.
-/
import NodeClient.Client.Tracker
import NodeClient.Reply.Block
import NodeClient.Reply.Basic
import NodeClient.Request.Basic

namespace NodeClient

open Json

/-- A call of the client. -/
inductive Operation where
  /-- A block with every transaction and its receipt. -/
  | block (r : GetBlock)
  | blockHashAndNumber
  | blockNumber
  /-- What a contract function returns, without a transaction. -/
  | call (r : Call)
  | chainId
  | estimateFee (r : EstimateFee)
  | events (r : GetEvents)
  | nonce (r : GetNonce)
  | protocolVersion
  | specVersion
  | submitTransaction (r : SubmitTransaction)
  | syncing
  deriving DecidableEq

namespace Operation

/-- The method that serves the call. -/
def method : Operation → Method
  | block _ => .getBlockWithReceipts
  | blockHashAndNumber => .blockHashAndNumber
  | blockNumber => .blockNumber
  | call _ => .call
  | chainId => .chainId
  | estimateFee _ => .estimateFee
  | events _ => .getEvents
  | nonce _ => .getNonce
  | protocolVersion => .protocolVersion
  | specVersion => .specVersion
  | submitTransaction _ => .addInvokeTransaction
  | syncing => .syncing

/-- What the call needs of the node.  What a node says about itself does not depend on the chain,
and how it is syncing can always be asked. -/
def gate : Operation → Gate
  | chainId | protocolVersion | specVersion => .active
  | syncing => .open
  | _ => .synced

/-- What is wrong with a request that is not worth sending. -/
def flaw? : Operation → Option String
  | events r => r.flaw?
  | submitTransaction r => r.flaw?
  | _ => none

/-- The parameters of the request. -/
def params : Operation → Value
  | block r => r.params
  | call r => r.params
  | estimateFee r => r.params
  | events r => r.params
  | nonce r => r.params
  | submitTransaction r => r.params
  | _ => .array []

/-- What the call returns. -/
abbrev Data : Operation → Type
  | block _ => Block
  | blockHashAndNumber => BlockHashAndNumber
  | blockNumber => UInt64
  | call _ => List FieldElement
  | chainId => NodeClient.Data
  | estimateFee _ => List FeeEstimate
  | events _ => List TransactionEvent
  | nonce _ => NodeClient.Number
  | protocolVersion => String
  | specVersion => String
  | submitTransaction _ => Submission
  | syncing => SyncState

/-- Reads the result of the method.  Of a page of events only the events are returned. -/
def read : (op : Operation) → Value → Except Mismatch op.Data
  | block _, v => Block.record.decode v
  | blockHashAndNumber, v => BlockHashAndNumber.record.decode v
  | blockNumber, v => Codec.u64.decode v
  | call _, v => callResultCodec.decode v
  | chainId, v => NodeClient.Data.codec.decode v
  | estimateFee _, v => FeeEstimate.record.codec.list.decode v
  | events _, v => (EventsChunk.record.decode v).map (·.events)
  | nonce _, v => Quantity.codec.decode v
  | protocolVersion, v => Codec.text.decode v
  | specVersion, v => Codec.text.decode v
  | submitTransaction _, v => Submission.record.decode v
  | syncing, v => SyncState.codec.decode v

/-- Writes what the call returns. -/
def write : (op : Operation) → op.Data → Value
  | block _, b => Block.record.encode b
  | blockHashAndNumber, b => BlockHashAndNumber.record.encode b
  | blockNumber, n => Codec.u64.encode n
  | call _, elements => callResultCodec.encode elements
  | chainId, d => NodeClient.Data.codec.encode d
  | estimateFee _, fees => FeeEstimate.record.codec.list.encode fees
  | events _, es => TransactionEvent.record.codec.list.encode es
  | nonce _, n => Quantity.codec.encode n
  | protocolVersion, s => .string s
  | specVersion, s => .string s
  | submitTransaction _, r => Submission.record.encode r
  | syncing, s => s.encode

end Operation

/-- What a call of a method returns for the outcome of its request. -/
def Method.receive {α : Type} (m : Method) (read : Value → Except Mismatch α) :
    Except TransportError Value → Except ClientError α
  | .error e => .error (.callFailed m e)
  | .ok v => (read v).mapError (.undecodable m)

end NodeClient
