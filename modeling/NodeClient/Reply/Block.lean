/-
  NodeClient.Reply.Block
  ──────────────────────
  Blocks, in which every transaction stands with its receipt.
-/
import NodeClient.Reply.Receipt
import NodeClient.Transaction.Basic

namespace NodeClient

/-- A gas price in both units. -/
structure Price where
  inFri : Number
  inWei : Number
  deriving DecidableEq, Inhabited

def Price.record : Record Price where
  name := "Price"
  make := Price.mk
  fields :=
    .field (.required "price_in_fri" (·.inFri) Quantity.codec) <|
    .field (.required "price_in_wei" (·.inWei) Quantity.codec) .done

/-- A transaction and its receipt. -/
structure BlockTransaction where
  transaction : Transaction
  receipt : TransactionReceipt
  deriving DecidableEq

def BlockTransaction.record : Record BlockTransaction where
  name := "BlockTransaction"
  make := BlockTransaction.mk
  fields :=
    .field (.required "transaction" (·.transaction) Transaction.codec) <|
    .field (.required "receipt" (·.receipt) TransactionReceipt.record.codec) .done

/-- A block.  Status, hash, number and root are not there while it is pending. -/
structure Block where
  status : Option FinalityStatus
  blockHash : Option Hash
  parentHash : Hash
  blockNumber : Option BlockNumber
  newRoot : Option Root
  timestamp : UInt64
  sequencerAddress : Address
  l1GasPrice : Price
  l1DataGasPrice : Price
  l1DaMode : BlockDaMode
  starknetVersion : String
  transactions : List BlockTransaction
  deriving DecidableEq, Inhabited

def Block.record : Record Block where
  name := "Block"
  make := Block.mk
  fields :=
    .field (.optional "status" (·.status) FinalityStatus.vocabulary.codec) <|
    .field (.optional "block_hash" (·.blockHash) Word.codec) <|
    .field (.required "parent_hash" (·.parentHash) Word.codec) <|
    .field (.optional "block_number" (·.blockNumber) BlockNumber.codec) <|
    .field (.optional "new_root" (·.newRoot) Word.codec) <|
    .field (.required "timestamp" (·.timestamp) .u64) <|
    .field (.required "sequencer_address" (·.sequencerAddress) Word.codec) <|
    .field (.required "l1_gas_price" (·.l1GasPrice) Price.record.codec) <|
    .field (.required "l1_data_gas_price" (·.l1DataGasPrice) Price.record.codec) <|
    .field (.required "l1_da_mode" (·.l1DaMode) BlockDaMode.vocabulary.codec) <|
    .field (.required "starknet_version" (·.starknetVersion) .text) <|
    .field (.list "transactions" (·.transactions) BlockTransaction.record.codec) .done

/-- A block without a hash is pending. -/
def Block.isPending (b : Block) : Bool := b.blockHash.isNone

end NodeClient
