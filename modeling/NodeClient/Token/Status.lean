/-
  NodeClient.Token.Status
  ───────────────────────
  The states and modes that a node reports about transactions, blocks and fees.  None of these
  enumerations accepts its unknown value.
-/
import NodeClient.Token.Vocabulary

namespace NodeClient

/-- How irreversibly a transaction or block has been committed. -/
inductive FinalityStatus where
  | unknown | pending | acceptedOnL2 | acceptedOnL1 | rejected
  deriving Repr, DecidableEq, Inhabited

def FinalityStatus.vocabulary : Vocabulary FinalityStatus where
  label := "finality status"
  unknown := .unknown
  known := [.pending, .acceptedOnL2, .acceptedOnL1, .rejected]
  token
    | .unknown => "UNKNOWN"
    | .pending => "PENDING"
    | .acceptedOnL2 => "ACCEPTED_ON_L2"
    | .acceptedOnL1 => "ACCEPTED_ON_L1"
    | .rejected => "REJECTED"
  readsUnknown := false

/-- Outcome of executing a transaction. -/
inductive ExecutionStatus where
  | unknown | succeeded | reverted
  deriving Repr, DecidableEq, Inhabited

def ExecutionStatus.vocabulary : Vocabulary ExecutionStatus where
  label := "execution status"
  unknown := .unknown
  known := [.succeeded, .reverted]
  token
    | .unknown => "UNKNOWN"
    | .succeeded => "SUCCEEDED"
    | .reverted => "REVERTED"
  readsUnknown := false

/-- Unit in which a fee is denominated. -/
inductive FeeUnit where
  | unknown | wei | fri
  deriving Repr, DecidableEq, Inhabited

def FeeUnit.vocabulary : Vocabulary FeeUnit where
  label := "fee unit"
  unknown := .unknown
  known := [.wei, .fri]
  token
    | .unknown => "unknown"
    | .wei => "WEI"
    | .fri => "FRI"
  readsUnknown := false

/-- Where the data of a block are available: on L1 as blobs, or on L1 as calldata. -/
inductive BlockDaMode where
  | unknown | l1 | l2
  deriving Repr, DecidableEq, Inhabited

def BlockDaMode.vocabulary : Vocabulary BlockDaMode where
  label := "block DA mode"
  unknown := .unknown
  known := [.l1, .l2]
  token
    | .unknown => "UNKNOWN"
    | .l1 => "BLOB"
    | .l2 => "CALLDATA"
  readsUnknown := false

/-- Where the data of a transaction are available. -/
inductive TxDaMode where
  | unknown | l1 | l2
  deriving Repr, DecidableEq, Inhabited

def TxDaMode.vocabulary : Vocabulary TxDaMode where
  label := "transaction DA mode"
  unknown := .unknown
  known := [.l1, .l2]
  token
    | .unknown => "UNKNOWN"
    | .l1 => "L1"
    | .l2 => "L2"
  readsUnknown := false

end NodeClient
