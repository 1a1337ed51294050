/-
  NodeClient.Request.Basic
  ────────────────────────
  The requests that a node is sent, as the parameters of their methods.
-/
import NodeClient.Request.BlockId
import NodeClient.Transaction.Basic

namespace NodeClient

open Json

/-- Asks for a block with its transactions and receipts. -/
structure GetBlock where
  block : BlockId
  deriving DecidableEq

def GetBlock.params (r : GetBlock) : Value := .object [("block_id", r.block.encode)]

/-- Calls a contract function without a transaction. -/
structure Call where
  block : BlockId
  contract : Address
  entryPointSelector : FieldElement
  calldata : List FieldElement
  deriving DecidableEq

def Call.params (r : Call) : Value :=
  .object [
    ("request", .object [
      ("contract_address", Word.codec.encode r.contract),
      ("entry_point_selector", Word.codec.encode r.entryPointSelector),
      ("calldata", Word.codec.list.encode r.calldata)]),
    ("block_id", r.block.encode)]

/-- Asks what a transaction would cost.  It is sent as a query, so that it can never be
included, and without validating its signature. -/
structure EstimateFee where
  block : BlockId
  transaction : Transaction
  deriving DecidableEq

def EstimateFee.params (r : EstimateFee) : Value :=
  .array [
    .array [r.transaction.asQuery.encode],
    .array [.string "SKIP_VALIDATE"],
    r.block.encode]

/-- Asks for the events of a range of blocks. -/
structure GetEvents where
  fromBlock : BlockId
  toBlock : BlockId
  /-- Only events emitted by this contract. -/
  address : Option Address
  /-- For each key position the accepted values. -/
  keys : List (List FieldElement)
  /-- The greatest number of events in the answer. -/
  limit : UInt64
  deriving DecidableEq

/-- What is wrong with a request that is not worth sending. -/
def GetEvents.flaw? (r : GetEvents) : Option String :=
  if r.limit == 0 then some "limit must be specified" else none

def GetEvents.params (r : GetEvents) : Value :=
  let address := match r.address with
    | some a => [("address", Word.codec.encode a)]
    | none => []
  let keys := if r.keys.isEmpty then [] else [("keys", Word.codec.list.list.encode r.keys)]
  .object [("filter", .object ([
    ("from_block", r.fromBlock.encode),
    ("to_block", r.toBlock.encode),
    ("chunk_size", Codec.u64.encode r.limit)] ++ address ++ keys))]

/-- Asks for the nonce of a contract. -/
structure GetNonce where
  block : BlockId
  contract : Address
  deriving DecidableEq

def GetNonce.params (r : GetNonce) : Value :=
  .array [r.block.encode, Word.codec.encode r.contract]

/-- Submits a transaction. -/
structure SubmitTransaction where
  transaction : Transaction
  deriving DecidableEq

/-- Only invoke transactions of the versions 1 and 3 can be submitted. -/
def SubmitTransaction.flaw? (r : SubmitTransaction) : Option String :=
  match r.transaction.variant with
  | .invokeV1 | .invokeV3 => none
  | _ => some "unhandled transaction type"

def SubmitTransaction.params (r : SubmitTransaction) : Value :=
  .array [r.transaction.encode]

end NodeClient
