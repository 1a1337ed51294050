/-
  NodeClient.Reply.Receipt
  ────────────────────────
  What executing a transaction has led to: fee, messages, events, resources.
-/
import NodeClient.Codec.Record
import NodeClient.Scalar.BlockNumber
import NodeClient.Scalar.Data
import NodeClient.Scalar.Quantity
import NodeClient.Scalar.Word
import NodeClient.Token.Status
import NodeClient.Transaction.Version

namespace NodeClient

/-- A fee and its unit. -/
structure Fee where
  amount : Amount
  unit : FeeUnit
  deriving DecidableEq, Inhabited

def Fee.record : Record Fee where
  name := "Fee"
  make := Fee.mk
  fields :=
    .field (.required "amount" (·.amount) Quantity.codec) <|
    .field (.required "unit" (·.unit) FeeUnit.vocabulary.codec) .done

/-- A message from L2 to L1. -/
structure Message where
  fromAddress : Address
  toAddress : Address
  payload : Data
  deriving DecidableEq, Inhabited

def Message.record : Record Message where
  name := "Message"
  make := Message.mk
  fields :=
    .field (.required "from_address" (·.fromAddress) Word.codec) <|
    .field (.required "to_address" (·.toAddress) Word.codec) <|
    .field (.required "payload" (·.payload) Data.codec) .done

/-- An event emitted by a contract.  Only the events query tells block and transaction. -/
structure TransactionEvent where
  blockHash : Option Hash
  blockNumber : Option BlockNumber
  fromAddress : Address
  keys : List FieldElement
  data : List FieldElement
  transactionHash : Option Hash
  deriving DecidableEq, Inhabited

def TransactionEvent.record : Record TransactionEvent where
  name := "TransactionEvent"
  make := TransactionEvent.mk
  fields :=
    .field (.optional "block_hash" (·.blockHash) Word.codec) <|
    .field (.optional "block_number" (·.blockNumber) BlockNumber.codec) <|
    .field (.required "from_address" (·.fromAddress) Word.codec) <|
    .field (.list "keys" (·.keys) Word.codec) <|
    .field (.list "data" (·.data) Word.codec) <|
    .field (.optional "transaction_hash" (·.transactionHash) Word.codec) .done

/-- The data that a transaction has made available on L1. -/
structure DataAvailability where
  l1Gas : UInt64
  l1DataGas : UInt64
  deriving DecidableEq, Inhabited

def DataAvailability.record : Record DataAvailability where
  name := "DataAvailability"
  make := DataAvailability.mk
  fields :=
    .field (.required "l1_gas" (·.l1Gas) .u64) <|
    .field (.required "l1_data_gas" (·.l1DataGas) .u64) .done

/-- How much of each resource an execution took. -/
structure ExecutionResources where
  steps : UInt64
  memoryHoles : UInt64
  pedersen : UInt64
  rangeCheck : UInt64
  bitwise : UInt64
  ecOp : UInt64
  poseidon : UInt64
  ecdsa : UInt64
  keccak : UInt64
  segmentArena : UInt64
  dataAvailability : Option DataAvailability
  deriving DecidableEq, Inhabited

/-- A counter that nodes leave out when it is zero. -/
def counterField {ρ : Type} (name : String) (get : ρ → UInt64) : Field ρ UInt64 :=
  { name, get, codec := .u64, absent := some 0, omits := (· == 0) }

def ExecutionResources.record : Record ExecutionResources where
  name := "ExecutionResources"
  make := ExecutionResources.mk
  fields :=
    .field { name := "steps", get := (·.steps), codec := .u64, absent := some 0 } <|
    .field (counterField "memory_holes" (·.memoryHoles)) <|
    .field (counterField "pedersen_builtin_applications" (·.pedersen)) <|
    .field (counterField "range_check_builtin_applications" (·.rangeCheck)) <|
    .field (counterField "bitwise_builtin_applications" (·.bitwise)) <|
    .field (counterField "ec_op_builtin_applications" (·.ecOp)) <|
    .field (counterField "poseidon_builtin_applications" (·.poseidon)) <|
    .field (counterField "ecdsa_builtin_applications" (·.ecdsa)) <|
    .field (counterField "keccak_builtin_applications" (·.keccak)) <|
    .field (counterField "segment_arena_builtin" (·.segmentArena)) <|
    .field (.optional "data_availability" (·.dataAvailability) DataAvailability.record.codec) .done

/-- The receipt of a transaction. -/
structure TransactionReceipt where
  type : TransactionType
  transactionHash : Hash
  actualFee : Fee
  executionStatus : ExecutionStatus
  finalityStatus : FinalityStatus
  blockHash : Option Hash
  blockNumber : Option BlockNumber
  messagesSent : List Message
  /-- Only there when the execution was reverted. -/
  revertReason : Option String
  events : List TransactionEvent
  /-- Only there for deployed contracts. -/
  contractAddress : Option Address
  executionResources : ExecutionResources
  deriving DecidableEq, Inhabited

def TransactionReceipt.record : Record TransactionReceipt where
  name := "TransactionReceipt"
  make := TransactionReceipt.mk
  fields :=
    .field (.required "type" (·.type) TransactionType.vocabulary.codec) <|
    .field (.required "transaction_hash" (·.transactionHash) Word.codec) <|
    .field (.required "actual_fee" (·.actualFee) Fee.record.codec) <|
    .field (.required "execution_status" (·.executionStatus) ExecutionStatus.vocabulary.codec) <|
    .field (.required "finality_status" (·.finalityStatus) FinalityStatus.vocabulary.codec) <|
    .field (.optional "block_hash" (·.blockHash) Word.codec) <|
    .field (.optional "block_number" (·.blockNumber) BlockNumber.codec) <|
    .field (.list "messages_sent" (·.messagesSent) Message.record.codec) <|
    .field (.optional "revert_reason" (·.revertReason) .text) <|
    .field (.list "events" (·.events) TransactionEvent.record.codec) <|
    .field (.optional "contract_address" (·.contractAddress) Word.codec) <|
    .field
      (.required "execution_resources" (·.executionResources) ExecutionResources.record.codec)
      .done

/-- Whether the execution was reverted. -/
def TransactionReceipt.isReverted (r : TransactionReceipt) : Bool :=
  r.executionStatus == .reverted

end NodeClient
