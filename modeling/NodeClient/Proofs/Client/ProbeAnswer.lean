/-
  NodeClient.Proofs.Client.ProbeAnswer
  ────────────────────────────────────
  What the answer to a probe makes of the tracker.

  A node whose current number is below the highest has not caught up, whatever else it says.  The
  tracker takes it for one that has in one case, and in that one only: the object says that the
  node is not syncing and has no starting hash.  Such an object is read as that of an idle node,
  without a look at its numbers.
-/
import NodeClient.Proofs.Client.Steps
import NodeClient.Proofs.Reply.SyncState

namespace NodeClient

open Json

/-- What a refresh stores for the value with which the node answers. -/
def standingOf (v : Value) : Standing :=
  .ofProbe (Method.syncing.receive Operation.syncing.read (.ok v))

theorem standingOf_of_ok {v : Value} {s : SyncState} (h : SyncState.ofValue v = .ok s) :
    standingOf v = { active := true, synced := !s.syncing } := by
  show Standing.ofProbe (((((SyncState.ofValue v).mapError _).mapError _).mapError _)) = _
  rw [h]
  rfl

theorem standingOf_of_error {v : Value} {e : SyncStateError} (h : SyncState.ofValue v = .error e) :
    standingOf v = {} := by
  show Standing.ofProbe (((((SyncState.ofValue v).mapError _).mapError _).mapError _)) = _
  rw [h]
  rfl

/-- **A node that lags behind is taken for one that has caught up exactly if it says that it is
not syncing and tells no starting hash.**  Otherwise what it says is an error or the progress of a
node that is behind, and the refresh whose probe it answers leaves the tracker not synced. -/
theorem lagging_node_synced_iff (members : Members) (current highest : Nat)
    (hcurrent : members.get? "current_block_num" = some (.ofNat current))
    (hhighest : members.get? "highest_block_num" = some (.ofNat highest))
    (hbehind : current < highest) (hwidth : highest < UInt64.size) (service : Service) (task : Task)
    (was : Standing) :
    (((∃ e, SyncState.ofValue (.object members) = .error e) ∨
        ∃ s, SyncState.ofValue (.object members) = .ok s ∧ s.syncing = true)
      ↔ ¬members.IsStale) ∧
    ((service.answer (.probing task was) (.ok (.object members))).service.tracker.standing.synced
        = true ↔ members.IsStale) := by
  have hstanding : (service.answer (.probing task was)
      (.ok (.object members))).service.tracker.standing = standingOf (.object members) := by
    rw [Service.answer_probing_tracker, Tracker.settle_standing]
    rfl
  rw [hstanding]
  by_cases hstale : members.IsStale
  · -- the numbers are not looked at
    have hidle := SyncState.ofValue_of_stale hstale
    rw [standingOf_of_ok hidle, hidle]
    refine ⟨⟨?_, fun h => absurd hstale h⟩, ⟨fun _ => hstale, fun _ => rfl⟩⟩
    rintro (⟨e, he⟩ | ⟨s, hs, hsyncing⟩)
    · cases he
    · cases hs
      exact absurd hsyncing Bool.false_ne_true
  · -- the numbers are looked at, if the rest can be read at all
    have hprogress := SyncState.ofValue_of_not_stale hstale
    cases hs : SyncState.ofProgress members with
    | error e =>
        rw [hs] at hprogress
        rw [standingOf_of_error hprogress]
        exact ⟨⟨fun _ => hstale, fun _ => .inl ⟨e, hprogress⟩⟩,
          ⟨fun h => absurd h Bool.false_ne_true, fun h => absurd h hstale⟩⟩
    | ok s =>
        have hsyncing := SyncState.syncing_of_ofProgress hcurrent hhighest hbehind hwidth hs
        rw [hs] at hprogress
        rw [standingOf_of_ok hprogress, hsyncing]
        exact ⟨⟨fun _ => hstale, fun _ => .inr ⟨s, hprogress, hsyncing⟩⟩,
          ⟨fun h => absurd h Bool.false_ne_true, fun h => absurd h hstale⟩⟩

/-- What a node says that is one block behind and reports a stale flag. -/
def staleReply : Members :=
  [("current_block_num", .ofNat 1), ("highest_block_num", .ofNat 2), ("syncing", .bool false)]

/-- The refresh whose probe is answered with the stale flag takes the node for synced. -/
theorem lagging_node_synced_staleReply :
    staleReply.IsStale ∧
      (({ address := "", websocketAddress := "", tracker := { busy := true } } : Service).answer
        (.probing .check {}) (.ok (.object staleReply))).service.tracker.standing.synced = true := by
  have hstale : staleReply.IsStale := ⟨rfl, rfl⟩
  have hsynced := (lagging_node_synced_iff staleReply 1 2 rfl rfl (by decide) (by decide)
    { address := "", websocketAddress := "", tracker := { busy := true } } .check {}).2
  exact ⟨hstale, hsynced.mpr hstale⟩

/-- **Not every node that lags behind is told apart from one that has caught up.** -/
theorem staleReply_taken_for_synced :
    ¬∀ (members : Members) (current highest : Nat),
      members.get? "current_block_num" = some (.ofNat current) →
      members.get? "highest_block_num" = some (.ofNat highest) →
      current < highest → highest < UInt64.size →
      (∃ e, SyncState.ofValue (.object members) = .error e) ∨
        ∃ s, SyncState.ofValue (.object members) = .ok s ∧ s.syncing = true := by
  intro h
  have hidle : SyncState.ofValue (.object staleReply) = .ok SyncState.idle := rfl
  rcases h staleReply 1 2 rfl rfl (by decide) (by decide) with ⟨e, he⟩ | ⟨s, hs, hsyncing⟩
  · rw [hidle] at he
    cases he
  · rw [hidle] at hs
    cases hs
    exact absurd hsyncing Bool.false_ne_true

end NodeClient
