/-
  NodeClient.Client.Method
  ────────────────────────
  The methods of a node that the client calls.
-/
namespace NodeClient

/-- A method of a node. -/
inductive Method where
  | addInvokeTransaction
  | blockHashAndNumber
  | blockNumber
  | call
  | chainId
  | estimateFee
  | getBlockWithReceipts
  | getEvents
  | getNonce
  | protocolVersion
  | specVersion
  | syncing
  deriving Repr, DecidableEq

namespace Method

/-- Every method, in the order of the names. -/
def all : List Method :=
  [addInvokeTransaction, blockHashAndNumber, blockNumber, call, chainId, estimateFee,
    getBlockWithReceipts, getEvents, getNonce, protocolVersion, specVersion, syncing]

/-- The name by which a node knows the method. -/
def name : Method → String
  | addInvokeTransaction => "starknet_addInvokeTransaction"
  | blockHashAndNumber => "starknet_blockHashAndNumber"
  | blockNumber => "starknet_blockNumber"
  | call => "starknet_call"
  | chainId => "starknet_chainId"
  | estimateFee => "starknet_estimateFee"
  | getBlockWithReceipts => "starknet_getBlockWithReceipts"
  | getEvents => "starknet_getEvents"
  | getNonce => "starknet_getNonce"
  | protocolVersion => "starknet_protocolVersion"
  | specVersion => "starknet_specVersion"
  | syncing => "starknet_syncing"

end Method

end NodeClient
