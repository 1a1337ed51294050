/-
  NodeClient.Proofs.Reply.SyncState
  ─────────────────────────────────
  What it takes for members to tell the progress of a node.

  Each of the six members is read on its own, and whether the node is behind follows from two of
  them (`ofProgress_eq_ok_iff`).
-/
import NodeClient.Proofs.Json.Members
import NodeClient.Proofs.Result
import NodeClient.Reply.SyncState

namespace NodeClient

open Json

/-- The object of a node that is not syncing and tells no starting hash. -/
def Json.Members.IsStale (members : Members) : Prop :=
  members.get? "syncing" = some (.bool false) ∧ members.get? "starting_block_hash" = none

namespace SyncState

/-- The members tell a progress exactly if each of them reads as the part of it, and then the
node is behind exactly if its current number is below the highest. -/
theorem ofProgress_eq_ok_iff (members : Members) (s : SyncState) :
    ofProgress members = .ok s ↔
      numberMember members "starting_block_num" "starting block number" = .ok s.startingNumber ∧
      hashMember members "starting_block_hash" "starting block hash" = .ok s.startingHash ∧
      numberMember members "current_block_num" "current block number" = .ok s.currentNumber ∧
      hashMember members "current_block_hash" "current block hash" = .ok s.currentHash ∧
      numberMember members "highest_block_num" "highest block number" = .ok s.highestNumber ∧
      hashMember members "highest_block_hash" "highest block hash" = .ok s.highestHash ∧
      s.syncing = decide (s.currentNumber < s.highestNumber) := by
  unfold ofProgress
  simp only [bind_eq_ok_iff]
  constructor
  · rintro ⟨n₁, h₁, w₁, h₂, n₂, h₃, w₂, h₄, n₃, h₅, w₃, h₆, hs⟩
    cases hs
    exact ⟨h₁, h₂, h₃, h₄, h₅, h₆, rfl⟩
  · rintro ⟨h₁, h₂, h₃, h₄, h₅, h₆, hsyncing⟩
    refine ⟨_, h₁, _, h₂, _, h₃, _, h₄, _, h₅, _, h₆, ?_⟩
    rw [← hsyncing]
    rfl

theorem numberMember_ofNat {members : Members} {key : String} {n : Nat} (field : String)
    (h : members.get? key = some (.ofNat n)) (hn : n < UInt64.size) :
    numberMember members key field = .ok (UInt64.ofNat n) := by
  unfold numberMember
  rw [h]
  show (if (0 : Int) ≤ n ∧ (n : Int) < UInt64.size then _ else _) = _
  rw [if_pos (by omega), Int.toNat_natCast]

/-- An object is taken for that of an idle node exactly if it says that the node is not syncing
and has no starting hash. -/
theorem isIdleObject_iff (members : Members) :
    isIdleObject members = true ↔
      members.get? "syncing" = some (.bool false) ∧
        members.get? "starting_block_hash" = none := by
  unfold isIdleObject
  split
  · next h => simp [h]
  · next h =>
      constructor
      · intro hfalse
        exact absurd hfalse Bool.false_ne_true
      · rintro ⟨hsyncing, _⟩
        exact absurd hsyncing h

theorem ofValue_of_stale {members : Members} (h : members.IsStale) :
    ofValue (.object members) = .ok idle := by
  show (if isIdleObject members then _ else _) = _
  rw [if_pos ((isIdleObject_iff members).mpr h)]

theorem ofValue_of_not_stale {members : Members} (h : ¬members.IsStale) :
    ofValue (.object members) = ofProgress members := by
  show (if isIdleObject members then _ else _) = _
  rw [if_neg (fun hidle => h ((isIdleObject_iff members).mp hidle))]

/-- A node whose current number is below the highest is behind, as far as its members tell a
progress at all. -/
theorem syncing_of_ofProgress {members : Members} {current highest : Nat} {s : SyncState}
    (hcurrent : members.get? "current_block_num" = some (.ofNat current))
    (hhighest : members.get? "highest_block_num" = some (.ofNat highest))
    (hbehind : current < highest) (hwidth : highest < UInt64.size)
    (h : ofProgress members = .ok s) : s.syncing = true := by
  obtain ⟨_, _, hc, _, hh, _, hsyncing⟩ := (ofProgress_eq_ok_iff members s).mp h
  rw [numberMember_ofNat _ hcurrent (by omega)] at hc
  rw [numberMember_ofNat _ hhighest hwidth] at hh
  injection hc with hc
  injection hh with hh
  rw [hsyncing, decide_eq_true_eq, ← hc, ← hh, UInt64.lt_iff_toNat_lt,
      UInt64.toNat_ofNat_of_lt' (by show _ < UInt64.size; omega),
      UInt64.toNat_ofNat_of_lt' (by show _ < UInt64.size; omega)]
  exact hbehind

end SyncState

end NodeClient
