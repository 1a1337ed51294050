/-
  NodeClient.Reply.SyncState
  ──────────────────────────
  How far a node has come in catching up with the chain.

  A node answers either `false` or with an object of block hashes and numbers.  Whether it is
  still behind follows from the numbers alone; what it says about that itself does not count.
  A state that is not behind is written without any progress.
-/
import NodeClient.Codec.Basic
import NodeClient.Scalar.Word

namespace NodeClient

open Json

/-- The progress of a node. -/
structure SyncState where
  syncing : Bool
  startingHash : Hash
  startingNumber : UInt64
  currentHash : Hash
  currentNumber : UInt64
  highestHash : Hash
  highestNumber : UInt64
  deriving DecidableEq, Inhabited

/-- Why a value is no sync state.  `field` is the name of a field in words. -/
inductive SyncStateError where
  | missing (field : String)
  | invalidHash (field : String) (cause : HexError)
  | invalidNumber (field : String)
  /-- The value is neither `false` nor an object. -/
  | invalidJson (found : Value)
  deriving Repr

/-- The wording of each cause. -/
def SyncStateError.message : SyncStateError → String
  | .missing field => field ++ " missing"
  | .invalidHash field cause => field ++ " invalid: " ++ cause.message
  | .invalidNumber field => field ++ " invalid: expected an unsigned integer"
  | .invalidJson found => "invalid sync state JSON " ++ found.compact

namespace SyncState

/-- The state of a node that is not behind. -/
def idle : SyncState := ⟨false, .zero, 0, .zero, 0, .zero, 0⟩

/-- A block hash among the members. -/
def hashMember (members : Members) (key field : String) : Except SyncStateError Hash :=
  match members.get? key with
  | none | some .null => .error (.missing field)
  | some (.string s) => (Word.parse s).mapError (.invalidHash field)
  | some _ => .error (.invalidHash field .missing)

/-- A block number among the members; none is zero. -/
def numberMember (members : Members) (key field : String) : Except SyncStateError UInt64 :=
  match members.get? key with
  | none | some .null => .ok 0
  | some (.number (.integer n)) =>
      if 0 ≤ n ∧ n < UInt64.size then .ok (UInt64.ofNat n.toNat) else .error (.invalidNumber field)
  | some _ => .error (.invalidNumber field)

/-- An object that says it is not syncing, without the hash from which syncing would start. -/
def isIdleObject (members : Members) : Bool :=
  match members.get? "syncing" with
  | some (.bool false) => (members.get? "starting_block_hash").isNone
  | _ => false

/-- The progress told by the members of an object. -/
def ofProgress (members : Members) : Except SyncStateError SyncState := do
  let startingNumber ← numberMember members "starting_block_num" "starting block number"
  let startingHash ← hashMember members "starting_block_hash" "starting block hash"
  let currentNumber ← numberMember members "current_block_num" "current block number"
  let currentHash ← hashMember members "current_block_hash" "current block hash"
  let highestNumber ← numberMember members "highest_block_num" "highest block number"
  let highestHash ← hashMember members "highest_block_hash" "highest block hash"
  return {
    syncing := currentNumber < highestNumber
    startingHash, startingNumber, currentHash, currentNumber, highestHash, highestNumber }

/-- Decodes the answer of a node. -/
def ofValue : Value → Except SyncStateError SyncState
  | .bool false => .ok idle
  | .object members => if isIdleObject members then .ok idle else ofProgress members
  | v => .error (.invalidJson v)

/-- Writes a state; the progress only while syncing. -/
def encode (s : SyncState) : Value :=
  if s.syncing then
    .object [
      ("syncing", .bool true),
      ("starting_block_hash", Word.codec.encode s.startingHash),
      ("starting_block_num", Codec.u64.encode s.startingNumber),
      ("current_block_hash", Word.codec.encode s.currentHash),
      ("current_block_num", Codec.u64.encode s.currentNumber),
      ("highest_block_hash", Word.codec.encode s.highestHash),
      ("highest_block_num", Codec.u64.encode s.highestNumber)]
  else .object [("syncing", .bool false)]

/-- Sync states are read from whole values. -/
def codec : Codec SyncState := .ofValue (fun v => (ofValue v).mapError (·.message)) encode

end SyncState

end NodeClient
