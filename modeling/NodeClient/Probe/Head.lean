/-
  NodeClient.Probe.Head
  ─────────────────────
  How far a node lags behind the chain, poll by poll.

  A poll asks how the node is syncing, and, if it is not, for its latest block.  A poll that
  fails repeats the last head.
-/
import NodeClient.Client.Operation

namespace NodeClient.Probe

open Json

/-- What a poll finds. -/
structure Head where
  synced : Bool := false
  blockNumber : UInt64 := 0
  highestBlockNumber : UInt64 := 0
  deriving Repr, DecidableEq, Inhabited

/-- What a poll was fetching when it failed. -/
inductive Errand where
  | syncState
  | latestBlock
  deriving Repr, DecidableEq

/-- The name of an errand. -/
def Errand.title : Errand → String
  | syncState => "Fetching sync state"
  | latestBlock => "Fetching latest block"

/-- Why a poll has failed. -/
structure PollError where
  errand : Errand
  cause : ClientError
  deriving Repr

namespace Head

/-- The head of a node that is behind. -/
def behind (s : SyncState) : Head := ⟨false, s.currentNumber, s.highestNumber⟩

/-- The head of a node that has caught up. -/
def caughtUp (b : BlockHashAndNumber) : Head := ⟨true, b.blockNumber.value, b.blockNumber.value⟩

/-- Polls a node by calls of the client. -/
def poll {m : Type → Type} [Monad m]
    (call : (op : Operation) → m (Except ClientError op.Data)) : m (Except PollError Head) := do
  match ← call .syncing with
  | .error cause => return .error ⟨.syncState, cause⟩
  | .ok s =>
      if s.syncing then return .ok (behind s)
      else
        match ← call .blockHashAndNumber with
        | .error cause => return .error ⟨.latestBlock, cause⟩
        | .ok b => return .ok (caughtUp b)

/-- The head after a poll. -/
def after (last : Head) : Except PollError Head → Head
  | .ok head => head
  | .error _ => last

/-- The heads after each of several polls. -/
def series (last : Head) : List (Except PollError Head) → List Head
  | [] => []
  | poll :: rest => last.after poll :: series (last.after poll) rest

/-- How many blocks the node has still to catch up. -/
def missing (h : Head) : UInt64 :=
  if h.highestBlockNumber ≤ h.blockNumber then 0 else h.highestBlockNumber - h.blockNumber

/-- The head as it stands in logs. -/
def text (h : Head) : String :=
  "Head \x7b synced: " ++ toString h.synced ++ ", block_number: " ++
    toString h.blockNumber.toNat ++ ", highest_block_number: " ++
    toString h.highestBlockNumber.toNat ++ " \x7d"

end Head

end NodeClient.Probe
