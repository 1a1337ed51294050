/-
  NodeClient.Reply.Basic
  ──────────────────────
  The smaller replies of a node.
-/
import NodeClient.Reply.Receipt

namespace NodeClient

/-- The estimated fee of one simulated transaction. -/
structure FeeEstimate where
  gasConsumed : Number
  gasPrice : Number
  dataGasConsumed : Number
  dataGasPrice : Number
  overallFee : Number
  unit : FeeUnit
  deriving DecidableEq, Inhabited

def FeeEstimate.record : Record FeeEstimate where
  name := "FeeEstimate"
  make := FeeEstimate.mk
  fields :=
    .field (.required "gas_consumed" (·.gasConsumed) Quantity.codec) <|
    .field (.required "gas_price" (·.gasPrice) Quantity.codec) <|
    .field (.required "data_gas_consumed" (·.dataGasConsumed) Quantity.codec) <|
    .field (.required "data_gas_price" (·.dataGasPrice) Quantity.codec) <|
    .field (.required "overall_fee" (·.overallFee) Quantity.codec) <|
    .field (.required "unit" (·.unit) FeeUnit.vocabulary.codec) .done

/-- The reply to a submitted transaction. -/
structure Submission where
  transactionHash : Hash
  deriving DecidableEq, Inhabited

def Submission.record : Record Submission where
  name := "SubmitTransactionResponse"
  make := Submission.mk
  fields := .field (.required "transaction_hash" (·.transactionHash) Word.codec) .done

/-- The latest block of a node. -/
structure BlockHashAndNumber where
  blockHash : Hash
  blockNumber : BlockNumber
  deriving DecidableEq, Inhabited

def BlockHashAndNumber.record : Record BlockHashAndNumber where
  name := "BlockHashAndNumber"
  make := BlockHashAndNumber.mk
  fields :=
    .field (.required "block_hash" (·.blockHash) Word.codec) <|
    .field (.required "block_number" (·.blockNumber) BlockNumber.codec) .done

/-- A page of events. -/
structure EventsChunk where
  events : List TransactionEvent
  continuationToken : Option String
  deriving DecidableEq, Inhabited

def EventsChunk.record : Record EventsChunk where
  name := "EventsChunk"
  make := EventsChunk.mk
  fields :=
    .field (.list "events" (·.events) TransactionEvent.record.codec) <|
    .field (.optional "continuation_token" (·.continuationToken) .text) .done

/-- What a contract function has returned. -/
def callResultCodec : Codec (List FieldElement) := .list Word.codec

end NodeClient
