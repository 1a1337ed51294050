/-
  NodeClient.Proofs.Probe.Heads
  ─────────────────────────────
  How far a node lags behind, by the heads of a series of polls.

  A poll takes one or two calls, and each of them may be refused by its gate, be cancelled, or
  fail on the way.  Whatever happens to them, and whatever other tasks do between their steps, a
  call ends and returns only what an answer reads as (`Meeting.ending_eq`), since every step brings
  it nearer to its end (`Point.Of.step`).  What a poll finds is no number that the node has told
  about its lag, but follows from the numbers of two blocks (`Head.Sound`).

  Main results: `Head.follows_series`, `follows_heads`.
-/
import NodeClient.Probe.Report
import NodeClient.Proofs.Client.CallProtocol
import NodeClient.Proofs.Decimal.Nearest
import NodeClient.Proofs.Reply.SyncState

namespace NodeClient

open Json

/-! ## §1. How a task ends. -/

/-- What a call returns has been read from an answer. -/
def Operation.Read (op : Operation) (result : Except ClientError op.Data) : Prop :=
  ∀ d, result = .ok d → ∃ v, op.read v = .ok d

theorem Operation.read_error (op : Operation) (e : ClientError) : op.Read (.error e) := by
  intro d h
  cases h

theorem Operation.read_receive (op : Operation) (outcome : Except TransportError Value) :
    op.Read (op.method.receive op.read outcome) := by
  cases outcome with
  | error e => exact op.read_error _
  | ok v =>
      intro d hd
      exact ⟨v, (mapError_eq_ok_iff _ _ _).mp hd⟩

/-- How a task may end. -/
inductive Task.Ends : Task → Ending → Prop where
  | checked : Ends .check .checked
  | called {op : Operation} {result : Except ClientError op.Data} :
      op.Read result → Ends (.call op) (.called op result)

/-- The task gets to the point, and has so many steps to take from there at most. -/
inductive Point.Of : Task → Nat → Point → Prop where
  | entering (op : Operation) : Of (.call op) 13 (.entering op)
  | noting (task : Task) : Of task 12 (.noting task)
  | claiming (task : Task) (was : Standing) : Of task 11 (.claiming task was)
  | asking (task : Task) (was : Standing) : Of task 10 (.asking task was)
  | probing (task : Task) (was : Standing) : Of task 9 (.waiting (.probing task was))
  | storing (task : Task) (was : Standing) (outcome : Except ClientError SyncState) :
      Of task 8 (.storing task was outcome)
  | publishing (task : Task) (now : Standing) (left : List Connection) :
      Of task (left.length + 4) (.publishing task now left)
  | looking (task : Task) : Of task 3 (.looking task)
  | sending (op : Operation) : Of (.call op) 2 (.sending op)
  | calling (op : Operation) : Of (.call op) 1 (.waiting (.calling op))
  | ended {task : Task} {e : Ending} : task.Ends e → Of task 0 (.ended e)

namespace Point

variable {task : Task} {n : Nat} {point : Point}

/-- A call that fails has ended. -/
theorem Of.failed (op : Operation) (e : ClientError) :
    Of (.call op) 0 (.ended (.called op (.error e))) := .ended (.called (op.read_error e))

/-- **Every step brings a task nearer to its end, unless it waits for longer.** -/
theorem Of.step (h : point.Of task n) (s : Service)
    (outcome : Option (Except TransportError Value)) :
    ∃ m, (s.step outcome point).point.Of task m ∧ (outcome ≠ none → m ≤ n - 1) := by
  cases h with
  | entering op =>
      cases hflaw : op.flaw? with
      | some reason =>
          rw [Service.step_entering_of_flaw hflaw]
          exact ⟨0, .failed op _, by omega⟩
      | none =>
          cases hadmits : op.gate.admits s.tracker.standing with
          | true =>
              rw [Service.step_entering_of_admits hflaw hadmits]
              exact ⟨2, .sending op, by omega⟩
          | false =>
              rw [Service.step_entering_of_refuses hflaw hadmits]
              exact ⟨12, .noting _, by omega⟩
  | noting task => exact ⟨11, .claiming task _, by omega⟩
  | claiming task was =>
      cases hbusy : s.tracker.busy with
      | true =>
          rw [Service.step_claiming_of_busy hbusy]
          exact ⟨3, .looking task, by omega⟩
      | false =>
          rw [Service.step_claiming_of_free hbusy]
          exact ⟨10, .asking task was, by omega⟩
  | asking task was =>
      cases hcancelled : s.cancelled with
      | true =>
          rw [Service.step_asking_of_cancelled hcancelled]
          exact ⟨8, .storing task was _, by omega⟩
      | false =>
          rw [Service.step_asking_of_running hcancelled]
          exact ⟨9, .probing task was, by omega⟩
  | probing task was =>
      cases hcancelled : s.cancelled with
      | true =>
          rw [Service.step_waiting_of_cancelled hcancelled]
          exact ⟨8, .storing task was _, by omega⟩
      | false =>
          cases outcome with
          | none =>
              rw [Service.step_waiting_none hcancelled]
              exact ⟨9, .probing task was, by simp⟩
          | some outcome =>
              rw [Service.step_waiting_of_running hcancelled]
              exact ⟨8, .storing task was _, by omega⟩
  | storing task was result => exact ⟨7, .publishing task _ Connection.all, by omega⟩
  | publishing task now left =>
      cases left with
      | nil => exact ⟨3, .looking task, by simp⟩
      | cons c left => exact ⟨left.length + 4, .publishing task now left, by simp⟩
  | looking task =>
      cases task with
      | check => exact ⟨0, .ended .checked, by omega⟩
      | call op =>
          cases hrefusal : op.gate.refusal? s.tracker.standing with
          | some e =>
              rw [Service.step_looking_of_refusal hrefusal]
              exact ⟨0, .failed op _, by omega⟩
          | none =>
              rw [Service.step_looking_of_admits hrefusal]
              exact ⟨2, .sending op, by omega⟩
  | sending op =>
      cases hcancelled : s.cancelled with
      | true =>
          rw [Service.step_sending_of_cancelled hcancelled]
          exact ⟨0, .failed op _, by omega⟩
      | false =>
          rw [Service.step_sending_of_running hcancelled]
          exact ⟨1, .calling op, by omega⟩
  | calling op =>
      cases hcancelled : s.cancelled with
      | true =>
          rw [Service.step_waiting_of_cancelled hcancelled]
          exact ⟨0, .failed op _, by omega⟩
      | false =>
          cases outcome with
          | none =>
              rw [Service.step_waiting_none hcancelled]
              exact ⟨1, .calling op, by simp⟩
          | some outcome =>
              rw [Service.step_waiting_of_running hcancelled]
              exact ⟨0, .ended (.called (op.read_receive outcome)), by omega⟩
  | ended hends => exact ⟨0, .ended hends, by omega⟩

/-- A task that has enough steps to take ends, whatever the others do between them. -/
theorem Of.walk (h : point.Of task n) {moments : List Moment} (hlength : n ≤ moments.length) :
    ∃ e, (NodeClient.walk moments point).ending = some e ∧ task.Ends e := by
  induction moments generalizing n point with
  | nil =>
      cases h with
      | ended hends => exact ⟨_, rfl, hends⟩
      | _ => simp at hlength
  | cons m moments ih =>
      obtain ⟨k, hnext, hk⟩ := h.step m.found (some m.outcome)
      have hle : k ≤ n - 1 := hk (by simp)
      have hlength : n ≤ moments.length + 1 := hlength
      exact ih hnext (by omega)

end Point

/-- A call with what it meets at each of its steps. -/
structure Meeting where
  moment : Nat → Moment

namespace Meeting

/-- The moments of a call, which takes thirteen steps at most. -/
def moments (m : Meeting) : List Moment := (List.range 13).map m.moment

/-- What a call returns. -/
def answer (m : Meeting) (op : Operation) : Except ClientError op.Data :=
  match (walk m.moments (.entering op)).ending with
  | some (.called other result) =>
      if h : other = op then h ▸ result else .error .cancelled
  | _ => .error .cancelled

/-- A call always ends, and returns only what an answer reads as. -/
theorem ending_eq (m : Meeting) (op : Operation) :
    (walk m.moments (.entering op)).ending = some (.called op (m.answer op)) ∧
      op.Read (m.answer op) := by
  have hlength : 13 ≤ m.moments.length := by simp [moments]
  obtain ⟨e, hending, hends⟩ := (Point.Of.entering op).walk hlength
  cases hends with
  | @called _ result hread =>
      have hanswer : m.answer op = result := by
        unfold answer
        rw [hending]
        exact dif_pos rfl
      rw [hanswer]
      exact ⟨hending, hread⟩

end Meeting

/-! ## §2. What a poll finds. -/

/-- A sync state that has been read says by its numbers whether the node is behind. -/
theorem SyncState.syncing_of_read {v : Value} {s : SyncState}
    (h : Operation.syncing.read v = .ok s) :
    s.syncing = decide (s.currentNumber < s.highestNumber) := by
  have hvalue : SyncState.ofValue v = .ok s := by
    have hmapped : (((SyncState.ofValue v).mapError _).mapError _) = .ok s := h
    exact (mapError_eq_ok_iff _ _ _).mp ((mapError_eq_ok_iff _ _ _).mp hmapped)
  have hidle : SyncState.idle.syncing
      = decide (SyncState.idle.currentNumber < SyncState.idle.highestNumber) := rfl
  unfold SyncState.ofValue at hvalue
  split at hvalue
  · cases hvalue
    exact hidle
  · split at hvalue
    · cases hvalue
      exact hidle
    · exact ((SyncState.ofProgress_eq_ok_iff _ s).mp hvalue).2.2.2.2.2.2
  · cases hvalue

namespace Probe

namespace Head

/-- The head is synced exactly if its block is the highest one, and is never above it. -/
structure Sound (h : Head) : Prop where
  synced : h.synced = true → h.blockNumber = h.highestBlockNumber
  behind : h.synced = false → h.blockNumber < h.highestBlockNumber

theorem sound_caughtUp (b : BlockHashAndNumber) : (caughtUp b).Sound where
  synced _ := rfl
  behind h := absurd h.symm Bool.false_ne_true

theorem sound_behind {s : SyncState} (h : s.currentNumber < s.highestNumber) :
    (Head.behind s).Sound where
  synced hsynced := absurd hsynced Bool.false_ne_true
  behind _ := h

/-- A poll succeeds with the state of a node that is behind, or with the latest block of a node that
is not. -/
theorem poll_eq_ok {call : (op : Operation) → Except ClientError op.Data} {h : Head}
    (hpoll : Head.poll (m := Id) call = .ok h) :
    (∃ s, call .syncing = .ok s ∧ s.syncing = true ∧ h = Head.behind s) ∨
    ∃ b, call .blockHashAndNumber = .ok b ∧ h = caughtUp b := by
  unfold poll at hpoll
  dsimp only [Id, bind, pure] at hpoll
  split at hpoll
  · cases hpoll
  · next s hs =>
      split at hpoll
      · next hsyncing => exact .inl ⟨s, hs, hsyncing, (Except.ok.inj hpoll).symm⟩
      · split at hpoll
        · cases hpoll
        · next b hb => exact .inr ⟨b, hb, (Except.ok.inj hpoll).symm⟩

end Head

/-- What the calls of a poll meet.  The second one counts only if there is one. -/
structure Visit where
  syncing : Meeting
  latest : Meeting

namespace Visit

/-- What a call of the poll meets. -/
def meeting (v : Visit) : Operation → Meeting
  | .syncing => v.syncing
  | _ => v.latest

/-- The poll of a node. -/
def poll (v : Visit) : Except PollError Head :=
  Head.poll (m := Id) fun op => (v.meeting op).answer op

/-- What a poll finds of a node follows from the numbers of blocks. -/
theorem sound_of_poll {v : Visit} {h : Head} (hpoll : v.poll = .ok h) : h.Sound := by
  rcases Head.poll_eq_ok hpoll with ⟨s, hs, hsyncing, rfl⟩ | ⟨b, _, rfl⟩
  · obtain ⟨value, hread⟩ := (v.syncing.ending_eq .syncing).2 s hs
    rw [SyncState.syncing_of_read hread] at hsyncing
    exact Head.sound_behind (of_decide_eq_true hsyncing)
  · exact Head.sound_caughtUp b

end Visit

/-! ## §3. The heads of a series of polls. -/

namespace Head

/-- The head of the latest poll that has succeeded, if one has. -/
def latest (last : Head) (polls : List (Except PollError Head)) : Head :=
  (polls.filterMap Except.toOption).getLast?.getD last

theorem latest_cons (last : Head) (poll : Except PollError Head)
    (polls : List (Except PollError Head)) :
    latest last (poll :: polls) = latest (last.after poll) polls := by
  cases poll with
  | error e => rfl
  | ok head =>
      show ((head :: polls.filterMap Except.toOption).getLast?).getD last = _
      rw [List.getLast?_cons]
      rfl

theorem latest_cases (last : Head) (polls : List (Except PollError Head)) :
    latest last polls = last ∨ .ok (latest last polls) ∈ polls := by
  unfold latest
  cases hlast : (polls.filterMap Except.toOption).getLast? with
  | none => exact .inl rfl
  | some head =>
      obtain ⟨poll, hpoll, hhead⟩ := List.mem_filterMap.mp (List.mem_of_getLast? hlast)
      rw [(toOption_eq_some_iff poll head).mp hhead] at hpoll
      exact .inr hpoll

theorem length_series (last : Head) (polls : List (Except PollError Head)) :
    (series last polls).length = polls.length := by
  induction polls generalizing last with
  | nil => rfl
  | cons poll polls ih => exact congrArg Nat.succ (ih (last.after poll))

/-- **Every poll yields a head, that of the latest one up to it that has succeeded.** -/
theorem getElem?_series (last : Head) (polls : List (Except PollError Head)) {n : Nat}
    (hn : n < polls.length) :
    (series last polls)[n]? = some (latest last (polls.take (n + 1))) := by
  induction polls generalizing last n with
  | nil => exact absurd hn (Nat.not_lt_zero n)
  | cons poll polls ih =>
      rw [List.take_succ_cons, latest_cons]
      cases n with
      | zero => rfl
      | succ n => exact ih (last.after poll) (Nat.lt_of_succ_lt_succ hn)

theorem missing_toNat (h : Head) :
    h.missing.toNat = h.highestBlockNumber.toNat - h.blockNumber.toNat := by
  unfold missing
  split
  · next hle =>
      have hle := UInt64.le_iff_toNat_le.mp hle
      rw [Nat.sub_eq_zero_of_le hle]
      rfl
  · next hlt =>
      have hlt := UInt64.not_le.mp hlt
      exact UInt64.toNat_sub_of_le _ _ (UInt64.le_of_lt hlt)

/-- What is reported is positive exactly if the highest block is above that of the head. -/
theorem report_pos_iff (h : Head) :
    0 < h.report.missing ↔ h.blockNumber < h.highestBlockNumber := by
  show 0 < Decimal.nearestBinary h.missing.toNat ↔ _
  rw [Decimal.nearestBinary_pos_iff, missing_toNat, UInt64.lt_iff_toNat_lt]
  omega

/-- What a head says about the lag of the node, behind these polls. -/
structure Lag (polls : List (Except PollError Head)) (h : Head) : Prop where
  le : h.blockNumber ≤ h.highestBlockNumber
  synced : h.synced = true → h.blockNumber = h.highestBlockNumber
  /-- A head that is not synced is behind, if it is that of a poll. -/
  behind : h.synced = false → .ok h ∈ polls → h.blockNumber < h.highestBlockNumber
  /-- The missing blocks are those between the block of the head and the highest one. -/
  missing : h.blockNumber.toNat + h.missing.toNat = h.highestBlockNumber.toNat
  /-- What is reported is their number, as nearly as a binary64 number can tell it. -/
  reported : Decimal.IsNearest (h.highestBlockNumber.toNat - h.blockNumber.toNat) h.report.missing
  /-- It tells every number up to `2^53` exactly. -/
  exact : h.highestBlockNumber.toNat - h.blockNumber.toNat ≤ 2 ^ 53 →
    h.report.missing = h.highestBlockNumber.toNat - h.blockNumber.toNat
  /-- Some are reported exactly if the head is that of a poll which has found the node behind. -/
  reported_pos : 0 < h.report.missing ↔ h.synced = false ∧ .ok h ∈ polls

/-- What is reported follows from the numbers of the two blocks. -/
theorem lag_of_le {polls : List (Except PollError Head)} {h : Head}
    (hle : h.blockNumber ≤ h.highestBlockNumber)
    (hsynced : h.synced = true → h.blockNumber = h.highestBlockNumber)
    (hbehind : h.blockNumber < h.highestBlockNumber ↔ h.synced = false ∧ .ok h ∈ polls) :
    Lag polls h := by
  have hmissing := h.missing_toNat
  have hreport : h.report.missing = Decimal.nearestBinary h.missing.toNat := rfl
  refine ⟨hle, hsynced, ?_, ?_, ?_, ?_, ?_⟩
  · intro hunsynced hpoll
    exact hbehind.mpr ⟨hunsynced, hpoll⟩
  · have hle := UInt64.le_iff_toNat_le.mp hle
    omega
  · rw [hreport, hmissing]
    exact Decimal.isNearest_nearestBinary _
  · intro hsmall
    rw [hreport, hmissing, Decimal.nearestBinary_of_le hsmall]
  · rw [report_pos_iff, hbehind]

theorem lag_default {polls : List (Except PollError Head)}
    (hsound : ∀ h, .ok h ∈ polls → h.Sound) : Lag polls {} := by
  refine lag_of_le (UInt64.le_refl 0) (fun _ => rfl) ?_
  constructor
  · intro hlt
    exact absurd hlt (UInt64.lt_irrefl 0)
  · rintro ⟨hunsynced, hpoll⟩
    exact (hsound _ hpoll).behind hunsynced

theorem Sound.lag {polls : List (Except PollError Head)} {h : Head} (hsound : h.Sound)
    (hpoll : .ok h ∈ polls) : Lag polls h := by
  cases hsynced : h.synced with
  | true =>
      have heq := hsound.synced hsynced
      exact lag_of_le (UInt64.le_of_eq heq) hsound.synced (by simp [heq, hsynced])
  | false =>
      have hlt := hsound.behind hsynced
      exact lag_of_le (UInt64.le_of_lt hlt) hsound.synced (by simp [hlt, hsynced, hpoll])

/-- Heads are those of these polls. -/
structure Follows (polls : List (Except PollError Head)) (heads : List Head) : Prop where
  /-- Every poll yields one head. -/
  length : heads.length = polls.length
  /-- It is that of the latest poll up to it that has succeeded. -/
  latest : ∀ n < polls.length, heads[n]? = some (Head.latest {} (polls.take (n + 1)))
  lag : ∀ n head, heads[n]? = some head → Lag (polls.take (n + 1)) head

/-- **Every head of a series says how far the node lags behind, as far as the polls do.** -/
theorem follows_series {polls : List (Except PollError Head)}
    (hsound : ∀ h, .ok h ∈ polls → h.Sound) : Follows polls (series {} polls) := by
  refine ⟨length_series _ _, fun n hn => getElem?_series _ _ hn, ?_⟩
  intro n h hhead
  obtain ⟨hn, _⟩ := List.getElem?_eq_some_iff.mp hhead
  rw [length_series] at hn
  rw [getElem?_series _ _ hn] at hhead
  rw [← Option.some.inj hhead]
  have htake : ∀ h, .ok h ∈ polls.take (n + 1) → h.Sound :=
    fun h hpoll => hsound h (List.mem_of_mem_take hpoll)
  rcases latest_cases {} (polls.take (n + 1)) with hnone | hpoll
  · rw [hnone]
    exact lag_default htake
  · exact (htake _ hpoll).lag hpoll

end Head

/-- The heads of a probe by what its polls meet. -/
def heads (visits : List Visit) : List Head := Head.series {} (visits.map Visit.poll)

theorem follows_heads (visits : List Visit) :
    Head.Follows (visits.map Visit.poll) (heads visits) := by
  refine Head.follows_series ?_
  intro h hmem
  obtain ⟨v, _, hpoll⟩ := List.mem_map.mp hmem
  exact Visit.sound_of_poll hpoll

end Probe

end NodeClient
