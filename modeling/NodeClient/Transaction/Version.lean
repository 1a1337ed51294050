/-
  NodeClient.Transaction.Version
  ──────────────────────────────
  The types and versions that transactions are told apart by.

  Each version has a query counterpart, whose token has a marker 128 bits up.  A transaction with
  a query version is only good for simulation.
-/
import NodeClient.Token.Vocabulary

namespace NodeClient

/-! ## §1. Types. -/

/-- What a transaction does. -/
inductive TransactionType where
  | unknown | deploy | invoke | declare | deployAccount | l1Handler
  deriving Repr, DecidableEq, Inhabited

namespace TransactionType

def vocabulary : Vocabulary TransactionType where
  label := "transaction type"
  unknown := .unknown
  known := [.deploy, .invoke, .declare, .deployAccount, .l1Handler]
  token
    | .unknown => "UNKNOWN"
    | .deploy => "DEPLOY"
    | .invoke => "INVOKE"
    | .declare => "DECLARE"
    | .deployAccount => "DEPLOY_ACCOUNT"
    | .l1Handler => "L1_HANDLER"
  readsUnknown := true

/-- What error messages call a transaction of the type. -/
def kind : TransactionType → String
  | .unknown => "unknown"
  | .deploy => "deploy"
  | .invoke => "invoke"
  | .declare => "declare"
  | .deployAccount => "deploy account"
  | .l1Handler => "L1 handler"

end TransactionType

/-! ## §2. Versions. -/

/-- A transaction version or its query counterpart. -/
inductive TransactionVersion where
  | unknown | v0 | v0Query | v1 | v1Query | v2 | v2Query | v3 | v3Query
  deriving Repr, DecidableEq, Inhabited

namespace TransactionVersion

def vocabulary : Vocabulary TransactionVersion where
  label := "transaction version"
  unknown := .unknown
  known := [.v0, .v0Query, .v1, .v1Query, .v2, .v2Query, .v3, .v3Query]
  token
    | .unknown => "UNKNOWN"
    | .v0 => "0x0"
    | .v0Query => "0x100000000000000000000000000000000"
    | .v1 => "0x1"
    | .v1Query => "0x100000000000000000000000000000001"
    | .v2 => "0x2"
    | .v2Query => "0x100000000000000000000000000000002"
    | .v3 => "0x3"
    | .v3Query => "0x100000000000000000000000000000003"
  readsUnknown := true

/-- The token of a version. -/
def token : TransactionVersion → String := vocabulary.token

/-- The query counterpart; query versions and the unknown one are their own. -/
def withQuery : TransactionVersion → TransactionVersion
  | .v0 | .v0Query => .v0Query
  | .v1 | .v1Query => .v1Query
  | .v2 | .v2Query => .v2Query
  | .v3 | .v3Query => .v3Query
  | .unknown => .unknown

/-- The version without its query marker. -/
def withoutQuery : TransactionVersion → TransactionVersion
  | .v0 | .v0Query => .v0
  | .v1 | .v1Query => .v1
  | .v2 | .v2Query => .v2
  | .v3 | .v3Query => .v3
  | .unknown => .unknown

/-- Whether a version has the query marker. -/
def isQuery : TransactionVersion → Bool
  | .v0Query | .v1Query | .v2Query | .v3Query => true
  | _ => false

end TransactionVersion

end NodeClient
