/-
  NodeClient.Proofs.Reply.Passes
  ──────────────────────────────
  **Sync states that are written and read again.**

  The two directions do not mirror each other.  A state that is not syncing is written without its
  progress, and whether a progress is that of a node that is behind is told by its numbers alone.
  So a state comes back as itself only if it is syncing and its numbers say so too
  (`ofValue_encode`).  A state that has been read is consistent in this respect: it is syncing
  only if its numbers say so.  From then on nothing changes but the progress of an idle state,
  which is lost in the first pass (`passes_of_consistent`).

  Main result: `sync_state_settles`.
-/
import NodeClient.Proofs.Reply.SyncState
import NodeClient.Proofs.Scalar.RoundTrip

namespace NodeClient

open Json

namespace SyncState

/-! ## §1. What is written for a progress. -/

/-- The members of a state that is syncing. -/
def progress (s : SyncState) : Members :=
  [("syncing", .bool true),
    ("starting_block_hash", Word.codec.encode s.startingHash),
    ("starting_block_num", Codec.u64.encode s.startingNumber),
    ("current_block_hash", Word.codec.encode s.currentHash),
    ("current_block_num", Codec.u64.encode s.currentNumber),
    ("highest_block_hash", Word.codec.encode s.highestHash),
    ("highest_block_num", Codec.u64.encode s.highestNumber)]

theorem encode_of_syncing {s : SyncState} (h : s.syncing = true) :
    s.encode = .object s.progress := by
  unfold encode
  rw [if_pos h]
  rfl

/-- Without its progress every state that is not syncing looks the same. -/
theorem encode_of_idle {s : SyncState} (h : s.syncing = false) : s.encode = idle.encode := by
  unfold encode
  rw [h]
  rfl

theorem distinct_progress (s : SyncState) : s.progress.Distinct := by
  show ["syncing", "starting_block_hash", "starting_block_num", "current_block_hash",
    "current_block_num", "highest_block_hash", "highest_block_num"].Nodup
  decide

/-- A number that has been written is read. -/
theorem numberMember_encode {members : Members} {key : String} {n : UInt64} (field : String)
    (h : members.get? key = some (Codec.u64.encode n).normal) :
    numberMember members key field = .ok n := by
  rw [numberMember_ofNat field h n.toNat_lt, UInt64.ofNat_toNat]

/-- A hash that has been written is read. -/
theorem hashMember_encode {members : Members} {key : String} {w : Hash} (field : String)
    (h : members.get? key = some (Word.codec.encode w).normal) :
    hashMember members key field = .ok w := by
  unfold hashMember
  rw [h]
  show (Word.parse w.text).mapError _ = _
  rw [Word.parse_text]
  rfl

/-- A progress comes back member by member; its flag is told by its numbers. -/
theorem ofProgress_progress (s : SyncState) :
    ofProgress (normalObject s.progress)
      = .ok { s with syncing := decide (s.currentNumber < s.highestNumber) } := by
  -- sorting moves the members and leaves what each key stands for
  have hlook : ∀ key v, s.progress.get? key = some v →
      (normalObject s.progress).get? key = some v.normal := by
    intro key v hv
    have hnormal := lookup_normalObject s.distinct_progress key
    rw [show s.progress.lookup key = some v from hv] at hnormal
    exact hnormal
  refine (ofProgress_eq_ok_iff _ _).mpr ⟨?_, ?_, ?_, ?_, ?_, ?_, rfl⟩
  · exact numberMember_encode _ (hlook "starting_block_num" _ rfl)
  · exact hashMember_encode _ (hlook "starting_block_hash" _ rfl)
  · exact numberMember_encode _ (hlook "current_block_num" _ rfl)
  · exact hashMember_encode _ (hlook "current_block_hash" _ rfl)
  · exact numberMember_encode _ (hlook "highest_block_num" _ rfl)
  · exact hashMember_encode _ (hlook "highest_block_hash" _ rfl)

/-! ## §2. One pass. -/

/-- What becomes of a state that is written and read. -/
def reread (s : SyncState) : SyncState :=
  if s.syncing then
    if s.currentNumber < s.highestNumber then s else { s with syncing := false }
  else idle

/-- **Whatever is written for a state is read, as the state itself if it is syncing and its numbers
say so.** -/
theorem ofValue_encode (s : SyncState) : ofValue s.encode.normal = .ok s.reread := by
  unfold reread
  by_cases hsyncing : s.syncing = true
  · have hflag : (normalObject s.progress).get? "syncing" = some (.bool true) :=
      lookup_normalObject s.distinct_progress "syncing"
    -- an object that says it is syncing is not taken for that of an idle node
    have hfresh : ¬(normalObject s.progress).IsStale := by
      rintro ⟨hfalse, _⟩
      rw [hflag] at hfalse
      cases hfalse
    rw [encode_of_syncing hsyncing, normal_object, ofValue_of_not_stale hfresh,
      ofProgress_progress, if_pos hsyncing]
    by_cases hbehind : s.currentNumber < s.highestNumber
    · rw [if_pos hbehind, decide_eq_true hbehind, ← hsyncing]
    · rw [if_neg hbehind, decide_eq_false hbehind]
  · rw [if_neg hsyncing, encode_of_idle (Bool.not_eq_true _ ▸ hsyncing)]
    rfl

/-! ## §3. Any number of passes. -/

/-- A state that is syncing has numbers that say so. -/
def Consistent (s : SyncState) : Prop :=
  s.syncing = true → s.currentNumber < s.highestNumber

/-- **What has been read is consistent.** -/
theorem consistent_of_ofValue {v : Value} {s : SyncState} (h : ofValue v = .ok s) :
    s.Consistent := by
  intro hsyncing
  cases v with
  | object members =>
      by_cases hstale : Members.IsStale members
      · rw [ofValue_of_stale hstale] at h
        cases h
        cases hsyncing
      · -- only here the flag can be set, and it is by the numbers
        rw [ofValue_of_not_stale hstale] at h
        obtain ⟨_, _, _, _, _, _, hflag⟩ := (ofProgress_eq_ok_iff members s).mp h
        rw [hsyncing] at hflag
        exact of_decide_eq_true hflag.symm
  | bool b =>
      cases b with
      | false =>
          cases h
          cases hsyncing
      | true => cases h
  | null => cases h
  | number n => cases h
  | string t => cases h
  | array items => cases h

namespace Consistent

variable {s : SyncState}

theorem reread_of_syncing (h : s.Consistent) (hsyncing : s.syncing = true) : s.reread = s := by
  unfold reread
  rw [if_pos hsyncing, if_pos (h hsyncing)]

theorem reread_of_idle (hsyncing : s.syncing = false) : s.reread = idle := by
  unfold reread
  rw [hsyncing, if_neg Bool.false_ne_true]

theorem syncing_reread (h : s.Consistent) : s.reread.syncing = s.syncing := by
  cases hsyncing : s.syncing with
  | true => rw [h.reread_of_syncing hsyncing, hsyncing]
  | false =>
      rw [reread_of_idle hsyncing]
      rfl

theorem encode_reread (h : s.Consistent) : s.reread.encode = s.encode := by
  cases hsyncing : s.syncing with
  | true => rw [h.reread_of_syncing hsyncing]
  | false => rw [reread_of_idle hsyncing, encode_of_idle hsyncing]

end Consistent

/-- The state after any number of passes, each of which writes it and reads it again. -/
def passes : Nat → SyncState → Except SyncStateError SyncState
  | 0, s => .ok s
  | n + 1, s => do
      let s' ← passes n s
      ofValue s'.encode.normal

/-- **No pass fails, and none changes whether a state is syncing, anything about a state that is,
or what is written.** -/
theorem passes_of_consistent {s : SyncState} (h : s.Consistent) (n : Nat) :
    ∃ s', passes n s = .ok s' ∧ s'.syncing = s.syncing ∧ (s.syncing = true → s' = s) ∧
      s'.encode = s.encode := by
  induction n with
  | zero => exact ⟨s, rfl, rfl, fun _ => rfl, rfl⟩
  | succ n ih =>
      obtain ⟨s', hpasses, _, _, hencode⟩ := ih
      -- the next pass reads what the first one has read, since the same is written
      have hnext : passes (n + 1) s = .ok s.reread := by
        show (passes n s >>= fun s' => ofValue s'.encode.normal) = _
        rw [hpasses]
        show ofValue s'.encode.normal = _
        rw [hencode, ofValue_encode]
      exact ⟨s.reread, hnext, h.syncing_reread, h.reread_of_syncing, h.encode_reread⟩

/-! ## §4. The flag of what is read. -/

end SyncState

/-- A key counts this much: a number stands there, or nothing or null, which is zero. -/
def Json.Members.Counts (members : Members) (key : String) (n : Nat) : Prop :=
  members.get? key = some (.ofNat n) ∨
    n = 0 ∧ (members.get? key = none ∨ members.get? key = some .null)

namespace SyncState

theorem counts_of_numberMember {members : Members} {key field : String} {n : UInt64}
    (h : numberMember members key field = .ok n) : members.Counts key n.toNat := by
  unfold numberMember at h
  cases hget : members.get? key with
  | none =>
      rw [hget] at h
      cases h
      exact .inr ⟨rfl, .inl hget⟩
  | some v =>
      rw [hget] at h
      split at h
      · next hnone => cases hnone
      · next hnull =>
          cases hnull
          cases h
          exact .inr ⟨rfl, .inr hget⟩
      · next m hm =>
          cases hm
          by_cases hbounds : 0 ≤ m ∧ m < UInt64.size
          · rw [if_pos hbounds] at h
            cases h
            refine .inl ?_
            have hwidth : m.toNat < UInt64.size := by omega
            rw [hget, UInt64.toNat_ofNat_of_lt' hwidth, Value.ofNat, Int.toNat_of_nonneg hbounds.1]
          · rw [if_neg hbounds] at h
            cases h
      · cases h

/-- **An object with a starting hash is that of a node that is behind exactly if its current number
is below the highest.** -/
theorem syncing_of_startingHash {members : Members} {s : SyncState}
    (h : ofValue (.object members) = .ok s)
    (hhash : members.get? "starting_block_hash" ≠ none) :
    ∃ current highest, members.Counts "current_block_num" current ∧
      members.Counts "highest_block_num" highest ∧ s.syncing = decide (current < highest) := by
  -- an object that is taken for that of an idle node has no starting hash
  rw [ofValue_of_not_stale fun hstale => hhash hstale.2] at h
  obtain ⟨_, _, hcurrent, _, hhighest, _, hflag⟩ := (ofProgress_eq_ok_iff members s).mp h
  refine ⟨_, _, counts_of_numberMember hcurrent, counts_of_numberMember hhighest, ?_⟩
  rw [hflag]
  exact decide_eq_decide.mpr UInt64.lt_iff_toNat_lt

end SyncState

/-! ## §5. All states and all values. -/

/-- **Every state comes back: as itself if it is syncing and its numbers say so, with its flag
cleared if only the flag does, and as the idle state if it is not syncing.  What has been read
never changes its flag however often it is written and read again, nor anything else while it is
syncing, and it is always written in the same way; and its flag is told by the two numbers where
there is a starting hash.** -/
theorem sync_state_settles :
    (∀ s : SyncState, SyncState.ofValue s.encode.normal
      = .ok (if s.syncing then
          if s.currentNumber < s.highestNumber then s else { s with syncing := false }
        else SyncState.idle)) ∧
    (∀ (v : Value) (s : SyncState), SyncState.ofValue v = .ok s → ∀ n, ∃ s',
      SyncState.passes n s = .ok s' ∧ s'.syncing = s.syncing ∧ (s.syncing = true → s' = s) ∧
        s'.encode = s.encode) ∧
    ∀ (members : Members) (s : SyncState), SyncState.ofValue (.object members) = .ok s →
      members.get? "starting_block_hash" ≠ none →
      ∃ current highest, members.Counts "current_block_num" current ∧
        members.Counts "highest_block_num" highest ∧ s.syncing = decide (current < highest) := by
  refine ⟨SyncState.ofValue_encode, ?_, ?_⟩
  · intro v s h n
    exact SyncState.passes_of_consistent (SyncState.consistent_of_ofValue h) n
  · intro members s h hhash
    exact SyncState.syncing_of_startingHash h hhash

/-- What a node tells that has just begun: no current number yet, and a stale flag. -/
def firstReply : Members :=
  [("current_block_hash", .string "0x0"), ("highest_block_hash", .string "0x2"),
    ("highest_block_num", .ofNat 2), ("starting_block_hash", .string "0x1"),
    ("starting_block_num", .null), ("syncing", .bool false)]

/-- By its numbers the node is behind, and it stays so through three passes. -/
theorem sync_state_settles_firstReply :
    firstReply.get? "starting_block_hash" ≠ none ∧
      ∃ s, SyncState.ofValue (.object firstReply) = .ok s ∧ s.syncing = true ∧
        SyncState.passes 3 s = .ok s ∧
        ∃ current highest, firstReply.Counts "current_block_num" current ∧
          firstReply.Counts "highest_block_num" highest ∧ s.syncing = decide (current < highest) := by
  have hhash : firstReply.get? "starting_block_hash" ≠ none := Option.some_ne_none _
  obtain ⟨_, hpasses, htold⟩ := sync_state_settles
  refine ⟨hhash, _, rfl, rfl, ?_, htold firstReply _ rfl hhash⟩
  obtain ⟨s', hs', _, hsame, _⟩ := hpasses (.object firstReply) _ rfl 3
  rw [hs', hsame rfl]

end NodeClient
