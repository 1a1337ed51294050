/-
  NodeClient.Proofs.Probe.Reports
  ───────────────────────────────
  **What a probe reports of a node.**

  Every poll yields a head, and every head is reported: an entry in the log, and a gauge for the
  blocks that the node has still to catch up.  The gauge takes binary64 numbers, which tell whole
  numbers exactly up to `2^53`; beyond that what is reported is the nearest one.

  Main results: `heads_follow_polls`, and that the report is not always exact, `missing_rounded`.
-/
import NodeClient.Proofs.Probe.Played

namespace NodeClient

open Json

namespace Probe

/-- **Every poll of a probe yields one head, that of the latest poll up to it that has succeeded,**
whatever the tracker and the node come to meanwhile, and whatever other tasks do between the steps
of the polls.  The block of a head is never above the highest one and is the highest one if the
head is synced.  How many blocks are reported to be missing is the number between the two, as
nearly as a binary64 number can tell it, and exactly up to `2^53`: none, unless the head is that of
a poll which has found the node behind.  The same holds of the heads of a probe that is played. -/
theorem heads_follow_polls (visits : List Visit) :
    Head.Follows (visits.map Visit.poll) (heads visits) ∧
    ∀ {σ : Type} (url : String) (count : Nat) (scene : Rehearsal.Scene σ),
      (Rehearsal.found url count {} scene).length = count ∧
      Head.Follows (Rehearsal.found url count {} scene)
        ((Rehearsal.polls url count {} scene).1.map Prod.fst) := by
  refine ⟨follows_heads visits, ?_⟩
  intro σ url count scene
  exact ⟨Rehearsal.length_found url count {} scene, Rehearsal.follows_polls url count scene⟩

/-- What a call meets that finds its gate open, and whose request has this outcome. -/
def Meeting.ofOutcome (outcome : Except TransportError Value) : Meeting where
  moment _ := {
    found := {
      address := "", websocketAddress := ""
      tracker := { standing := { active := true, synced := true } } }
    outcome }

/-- What a node answers that is behind. -/
def behindValue (current highest : Nat) : Value :=
  .object [
    ("starting_block_hash", .string "0x1"), ("current_block_hash", .string "0x2"),
    ("current_block_num", .ofNat current), ("highest_block_hash", .string "0x3"),
    ("highest_block_num", .ofNat highest)]

/-- The node cannot be reached, then is four blocks behind, then cannot be reached again, and then
has caught up. -/
def sampleVisits : List Visit :=
  let lost := Meeting.ofOutcome (.error (.network .closed))
  let behind := Meeting.ofOutcome (.ok (behindValue 1 5))
  let idle := Meeting.ofOutcome (.ok (.bool false))
  let block := Meeting.ofOutcome <| .ok <| .object [
    ("block_hash", .string "0x3"), ("block_number", .ofNat 5)]
  [⟨lost, lost⟩, ⟨behind, lost⟩, ⟨lost, lost⟩, ⟨idle, block⟩]

/-- The third poll fails, and four blocks are still reported to be missing. -/
theorem heads_follow_polls_repeated :
    heads sampleVisits = [{}, ⟨false, 1, 5⟩, ⟨false, 1, 5⟩, ⟨true, 5, 5⟩] ∧
      (Head.mk false 1 5).report.missing = 4 := by
  have hheads : heads sampleVisits = [{}, ⟨false, 1, 5⟩, ⟨false, 1, 5⟩, ⟨true, 5, 5⟩] := rfl
  have hlag := (heads_follow_polls sampleVisits).1.lag 2 ⟨false, 1, 5⟩ rfl
  exact ⟨hheads, hlag.exact (by decide)⟩

/-- The node has the first block of a chain that has `2^53 + 1` more. -/
def distantVisits : List Visit :=
  let behind := Meeting.ofOutcome (.ok (behindValue 0 9007199254740993))
  [⟨behind, behind⟩]

/-- **What is reported is not always the exact number of missing blocks.** -/
theorem missing_rounded :
    ¬∀ (visits : List Visit) (head : Head), head ∈ heads visits →
      head.report.missing = head.highestBlockNumber.toNat - head.blockNumber.toNat := by
  intro h
  have hheads : heads distantVisits = [⟨false, 0, 9007199254740993⟩] := rfl
  have hexact := h distantVisits ⟨false, 0, 9007199254740993⟩ (by rw [hheads]; simp)
  have hreported : (Head.mk false 0 9007199254740993).report.missing = 9007199254740992 := by decide
  rw [hreported] at hexact
  exact absurd hexact (by decide)

end Probe

end NodeClient
