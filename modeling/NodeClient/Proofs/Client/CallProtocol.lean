/-
  NodeClient.Proofs.Client.CallProtocol
  ─────────────────────────────────────
  **What a call hands to the transport, and how it ends.**

  What is to be said of each of the twelve calls stands in one table (`Operation.row`): its method,
  what it needs of the node, what makes its request not worth sending, its parameters, and how its
  result is read.  The rules of a call are then the same for all of them (`Row.Calls`).

  A call is followed step by step, and between any two steps the other tasks may do with the
  service what they like.  All that is assumed of what it finds is that nobody has cancelled the
  client, and that a node which has caught up can be reached, as every step leaves it
  (`Service.Live.step`).

  Main result: `call_protocol`.  It rests on one lemma for each part of a call, in the order in
  which they end: `sends_walk`, `looks_walk`, `refreshes_walk`.
-/
import NodeClient.Proofs.Client.Points

namespace NodeClient

open Json

/-! ## §1. The twelve calls. -/

/-- What is to be said of a call. -/
structure Row (op : Operation) where
  /-- The name of its method. -/
  method : String
  /-- What it needs of the node. -/
  needs : Standing → Prop
  /-- Why its request is not worth sending. -/
  flaw : Option String
  params : Value
  read : Value → Except Mismatch op.Data

/-- The table of the calls. -/
def Operation.row : (op : Operation) → Row op
  | .block r => {
      method := "starknet_getBlockWithReceipts"
      needs := fun s => s.synced = true
      flaw := none
      params := .object [("block_id", r.block.encode)]
      read := Block.record.decode }
  | .blockHashAndNumber => {
      method := "starknet_blockHashAndNumber"
      needs := fun s => s.synced = true
      flaw := none
      params := .array []
      read := BlockHashAndNumber.record.decode }
  | .blockNumber => {
      method := "starknet_blockNumber"
      needs := fun s => s.synced = true
      flaw := none
      params := .array []
      read := Codec.u64.decode }
  | .call r => {
      method := "starknet_call"
      needs := fun s => s.synced = true
      flaw := none
      params := .object [
        ("request", .object [
          ("contract_address", Word.codec.encode r.contract),
          ("entry_point_selector", Word.codec.encode r.entryPointSelector),
          ("calldata", .array (r.calldata.map Word.codec.encode))]),
        ("block_id", r.block.encode)]
      read := callResultCodec.decode }
  | .chainId => {
      method := "starknet_chainId"
      needs := fun s => s.active = true
      flaw := none
      params := .array []
      read := NodeClient.Data.codec.decode }
  | .estimateFee r => {
      method := "starknet_estimateFee"
      needs := fun s => s.synced = true
      flaw := none
      params := .array [
        .array [r.transaction.asQuery.encode], .array [.string "SKIP_VALIDATE"], r.block.encode]
      read := FeeEstimate.record.codec.list.decode }
  | .events r => {
      method := "starknet_getEvents"
      needs := fun s => s.synced = true
      flaw := if r.limit = 0 then some "limit must be specified" else none
      params := .object [("filter", .object (
        [("from_block", r.fromBlock.encode), ("to_block", r.toBlock.encode),
          ("chunk_size", .ofNat r.limit.toNat)]
        ++ (r.address.map fun a => ("address", Word.codec.encode a)).toList
        ++ if r.keys = [] then []
           else [("keys", .array (r.keys.map fun ks => .array (ks.map Word.codec.encode)))]))]
      read := fun v => (EventsChunk.record.decode v).map (·.events) }
  | .nonce r => {
      method := "starknet_getNonce"
      needs := fun s => s.synced = true
      flaw := none
      params := .array [r.block.encode, Word.codec.encode r.contract]
      read := Quantity.codec.decode }
  | .protocolVersion => {
      method := "starknet_protocolVersion"
      needs := fun s => s.active = true
      flaw := none
      params := .array []
      read := Codec.text.decode }
  | .specVersion => {
      method := "starknet_specVersion"
      needs := fun s => s.active = true
      flaw := none
      params := .array []
      read := Codec.text.decode }
  | .submitTransaction r => {
      method := "starknet_addInvokeTransaction"
      needs := fun s => s.synced = true
      flaw :=
        if r.transaction.variant = .invokeV1 ∨ r.transaction.variant = .invokeV3 then none
        else some "unhandled transaction type"
      params := .array [r.transaction.encode]
      read := Submission.record.decode }
  | .syncing => {
      method := "starknet_syncing"
      needs := fun _ => True
      flaw := none
      params := .array []
      read := SyncState.codec.decode }

/-! ## §2. The rules. -/

namespace Row

variable {op : Operation}

/-- What a call returns for the outcome of its request: what the answer reads as, or an error that
names the method of the call. -/
inductive Returns (row : Row op) :
    Except TransportError Value → Except ClientError op.Data → Prop where
  | read {v : Value} {d : op.Data} : row.read v = .ok d → Returns row (.ok v) (.ok d)
  | undecodable {v : Value} {m : Method} {e : Mismatch} :
      m.name = row.method → row.read v = .error e → Returns row (.ok v) (.error (.undecodable m e))
  | failed {m : Method} {e : TransportError} :
      m.name = row.method → Returns row (.error e) (.error (.callFailed m e))

/-- The call makes its request, once, and then returns what its outcome comes to. -/
inductive Sends (row : Row op) : List Moment → Course → Prop where
  | soon : Sends row [] ⟨[], none⟩
  | waiting (send : Moment) : Sends row [send] ⟨[(row.method, row.params)], none⟩
  | returned (send reply : Moment) (rest : List Moment) {result : Except ClientError op.Data} :
      row.Returns reply.outcome result →
      Sends row (send :: reply :: rest)
        ⟨[(row.method, row.params)], some (.called op result)⟩

/-- The call looks how the node stands, and makes its request or fails. -/
inductive Looks (row : Row op) : List Moment → Course → Prop where
  | soon : Looks row [] ⟨[], none⟩
  | admitted (look : Moment) (rest : List Moment) {c : Course} :
      row.needs look.found.tracker.standing → row.Sends rest c → Looks row (look :: rest) c
  | inactive (look : Moment) (rest : List Moment) :
      ¬row.needs look.found.tracker.standing → look.found.tracker.standing.active = false →
      Looks row (look :: rest) ⟨[], some (.called op (.error .notActive))⟩
  | unsynced (look : Moment) (rest : List Moment) :
      ¬row.needs look.found.tracker.standing → look.found.tracker.standing.active = true →
      look.found.tracker.standing.synced = false →
      Looks row (look :: rest) ⟨[], some (.called op (.error .notSynced))⟩

/-- The call notes how the node stands and tries the slot.  If another refresh holds it, the call
looks at once.  If not, it asks the node how it is syncing, once; the answer, five writes, and the
call looks. -/
inductive Refreshes (row : Row op) : List Moment → Course → Prop where
  | soon (moments : List Moment) : moments.length < 2 → Refreshes row moments ⟨[], none⟩
  | lost (note claim : Moment) (rest : List Moment) {c : Course} :
      claim.found.tracker.busy = true → row.Looks rest c → Refreshes row (note :: claim :: rest) c
  | claimed (note claim : Moment) :
      claim.found.tracker.busy = false → Refreshes row [note, claim] ⟨[], none⟩
  | asked (note claim ask : Moment) (settle : List Moment) :
      claim.found.tracker.busy = false → settle.length < 6 →
      Refreshes row (note :: claim :: ask :: settle) ⟨[("starknet_syncing", .array [])], none⟩
  | settled (note claim ask : Moment) (settle rest : List Moment) {c : Course} :
      claim.found.tracker.busy = false → settle.length = 6 → row.Looks rest c →
      Refreshes row (note :: claim :: ask :: (settle ++ rest))
        ⟨("starknet_syncing", .array []) :: c.requests, c.ending⟩

/-- The call fails if its request is not worth sending, makes its request if the node stands well
enough, and else refreshes first. -/
inductive Calls (row : Row op) : List Moment → Course → Prop where
  | soon : Calls row [] ⟨[], none⟩
  | flawed (entry : Moment) (rest : List Moment) {reason : String} :
      row.flaw = some reason →
      Calls row (entry :: rest) ⟨[], some (.called op (.error (.invalidOptions reason)))⟩
  | admitted (entry : Moment) (rest : List Moment) {c : Course} :
      row.flaw = none → row.needs entry.found.tracker.standing → row.Sends rest c →
      Calls row (entry :: rest) c
  | refused (entry : Moment) (rest : List Moment) {c : Course} :
      row.flaw = none → ¬row.needs entry.found.tracker.standing → row.Refreshes rest c →
      Calls row (entry :: rest) c

end Row

/-! ## §3. The client keeps to the table. -/

namespace Operation

theorem row_method (op : Operation) : op.row.method = op.method.name := by cases op <;> rfl

theorem row_needs_iff (op : Operation) (s : Standing) :
    op.row.needs s ↔ op.gate.admits s = true := by
  cases op <;> simp [row, gate, Gate.admits]

theorem row_flaw (op : Operation) : op.row.flaw = op.flaw? := by
  cases op with
  | events r => simp [row, flaw?, GetEvents.flaw?]
  | submitTransaction r =>
      show (if _ then none else some _) = SubmitTransaction.flaw? r
      unfold SubmitTransaction.flaw?
      cases r.transaction.variant <;> rfl
  | _ => rfl

theorem row_params (op : Operation) : op.row.params = op.params := by
  cases op with
  | events r =>
      obtain ⟨fromBlock, toBlock, address, keys, limit⟩ := r
      cases address <;> cases keys <;> rfl
  | _ => rfl

theorem row_read (op : Operation) : op.row.read = op.read := by cases op <;> rfl

section Receive

variable {op : Operation} {v : Value}

theorem receive_of_read {d : op.Data} (h : op.read v = .ok d) :
    op.method.receive op.read (.ok v) = .ok d := by
  show Except.mapError _ (op.read v) = _
  rw [h]
  rfl

theorem receive_of_mismatch {e : Mismatch} (h : op.read v = .error e) :
    op.method.receive op.read (.ok v) = .error (.undecodable op.method e) := by
  show Except.mapError _ (op.read v) = _
  rw [h]
  rfl

end Receive

/-- What a call makes of the outcome of its request. -/
theorem row_returns (op : Operation) (outcome : Except TransportError Value) :
    op.row.Returns outcome (op.method.receive op.read outcome) := by
  have hmethod : op.method.name = op.row.method := op.row_method.symm
  cases outcome with
  | error e => exact .failed hmethod
  | ok v =>
      cases hread : op.read v with
      | ok d =>
          rw [receive_of_read hread]
          exact .read (by rw [row_read, hread])
      | error e =>
          rw [receive_of_mismatch hread]
          exact .undecodable hmethod (by rw [row_read, hread])

end Operation

/-! ## §4. The parts of a call. -/

/-- A service that nobody has cancelled, and whose node can be reached if it has caught up. -/
structure Service.Live (s : Service) : Prop where
  running : s.cancelled = false
  coherent : s.tracker.standing.synced = true → s.tracker.standing.active = true

/-- Every step leaves such a service. -/
theorem Service.Live.step {s : Service} (h : s.Live)
    (outcome : Option (Except TransportError Value)) (point : Point) :
    (s.step outcome point).service.Live := by
  cases point with
  | entering op =>
      show (s.enter op).service.Live
      unfold enter
      repeat' split
      all_goals exact h
  | noting task => exact h
  | claiming task was =>
      show (s.tryClaim task was).service.Live
      unfold tryClaim Tracker.claim
      cases s.tracker.busy <;> exact ⟨h.running, h.coherent⟩
  | asking task was =>
      show (s.ask task was).service.Live
      unfold ask
      split <;> exact h
  | waiting p =>
      show (s.await p outcome).service.Live
      unfold await
      rw [if_neg (by simp [h.running])]
      split <;> exact h
  | storing task was outcome => exact ⟨h.running, Standing.active_of_synced_ofProbe⟩
  | publishing task now left => cases left <;> exact ⟨h.running, h.coherent⟩
  | looking task =>
      cases task with
      | check => exact h
      | call op =>
          show (s.look (.call op)).service.Live
          unfold look
          dsimp only
          split <;> exact h
  | sending op =>
      show (s.send op).service.Live
      unfold send
      split <;> exact h
  | ended e => exact h

/-- A task that is given up leaves such a service, too. -/
theorem Service.Live.abandon {s : Service} (h : s.Live) (p : Pending) : (s.abandon p).Live := by
  cases p <;> exact ⟨h.running, h.coherent⟩

section Parts

variable {op : Operation} {moments : List Moment}

theorem sends_walk (hlive : ∀ m ∈ moments, m.found.Live) :
    op.row.Sends moments (walk moments (.sending op)) := by
  cases moments with
  | nil => exact .soon
  | cons send moments =>
      have hsend : send.found.Live := hlive send List.mem_cons_self
      rw [walk_of_step (Service.step_sending_of_running hsend.running op)]
      -- what is handed over is what the table says
      have hrequest : ∀ c : Course, c.after (some (.calling op))
          = ⟨(op.row.method, op.row.params) :: c.requests, c.ending⟩ := by
        intro c
        rw [op.row_method, op.row_params]
        rfl
      rw [hrequest]
      cases moments with
      | nil => exact .waiting send
      | cons reply rest =>
          have hreply : reply.found.Live := hlive reply (by simp)
          rw [walk_of_step (Service.step_waiting_of_running hreply.running (.calling op) _)]
          show op.row.Sends _ ⟨_ :: (walk rest (.ended _)).requests, (walk rest (.ended _)).ending⟩
          rw [walk_ended]
          exact .returned send reply rest (op.row_returns reply.outcome)

theorem looks_walk (hlive : ∀ m ∈ moments, m.found.Live) :
    op.row.Looks moments (walk moments (.looking (.call op))) := by
  cases moments with
  | nil => exact .soon
  | cons look rest =>
      have hlook : look.found.Live := hlive look List.mem_cons_self
      have hrest : ∀ m ∈ rest, m.found.Live := fun m hm => hlive m (List.mem_cons_of_mem look hm)
      have hneeds := op.row_needs_iff look.found.tracker.standing
      cases hadmits : op.gate.admits look.found.tracker.standing with
      | true =>
          have hrefusal := Gate.refusal?_of_admits hadmits hlook.coherent
          rw [walk_of_step (Service.step_looking_of_admits hrefusal)]
          exact .admitted look rest (hneeds.mpr hadmits) (sends_walk hrest)
      | false =>
          have hrefused : ¬op.row.needs look.found.tracker.standing := by simp [hneeds, hadmits]
          rw [walk_of_step (Service.step_looking_of_refusal (Gate.refusal?_of_refuses hadmits)),
            walk_ended]
          cases hactive : look.found.tracker.standing.active with
          | false => exact .inactive look rest hrefused hactive
          | true =>
              -- whoever needs no more than an active node has not been refused
              have hsynced : look.found.tracker.standing.synced = false := by
                cases hgate : op.gate <;> simp_all [Gate.admits]
              exact .unsynced look rest hrefused hactive hsynced

theorem refreshes_walk (hlive : ∀ m ∈ moments, m.found.Live) :
    op.row.Refreshes moments (walk moments (.noting (.call op))) := by
  match moments with
  | [] => exact .soon [] (by decide)
  | [note] => exact .soon [note] (by simp)
  | note :: claim :: rest =>
      have hrest : ∀ m ∈ rest, m.found.Live := fun m hm => hlive m (by simp [hm])
      let was := note.found.tracker.standing
      have hnoted : walk (note :: claim :: rest) (.noting (.call op))
          = walk (claim :: rest) (.claiming (.call op) was) := rfl
      rw [hnoted]
      cases hbusy : claim.found.tracker.busy with
      | true =>
          rw [walk_of_step (Service.step_claiming_of_busy hbusy (.call op) was)]
          exact .lost note claim rest hbusy (looks_walk hrest)
      | false =>
          rw [walk_of_step (Service.step_claiming_of_free hbusy (.call op) was)]
          cases rest with
          | nil => exact .claimed note claim hbusy
          | cons ask more =>
              have hask : ask.found.Live := hrest ask List.mem_cons_self
              dsimp only
              rw [Course.after_none,
                walk_of_step (Service.step_asking_of_running hask.running (.call op) was)]
              by_cases hshort : more.length < 6
              · rw [walk_settling_of_lt (.waiting was) hshort]
                exact .asked note claim ask more hbusy hshort
              · have hsix : (more.take 6).length = 6 := by simp; omega
                have hlast : ∀ m ∈ more.drop 6, m.found.Live :=
                  fun m hm => hrest m (by simp [List.mem_of_mem_drop hm])
                rw [← List.take_append_drop 6 more, walk_settling (.waiting was) hsix]
                exact .settled note claim ask _ _ hbusy hsix (looks_walk hlast)

/-- **A call keeps to its rules, whatever the others do between its steps.** -/
theorem calls_walk (hlive : ∀ m ∈ moments, m.found.Live) :
    op.row.Calls moments (walk moments (.entering op)) := by
  cases moments with
  | nil => exact .soon
  | cons entry rest =>
      have hrest : ∀ m ∈ rest, m.found.Live := fun m hm => hlive m (List.mem_cons_of_mem entry hm)
      have hneeds := op.row_needs_iff entry.found.tracker.standing
      cases hflaw : op.flaw? with
      | some reason =>
          rw [walk_of_step (Service.step_entering_of_flaw hflaw), walk_ended]
          exact .flawed entry rest (op.row_flaw.trans hflaw)
      | none =>
          cases hadmits : op.gate.admits entry.found.tracker.standing with
          | true =>
              rw [walk_of_step (Service.step_entering_of_admits hflaw hadmits)]
              exact .admitted entry rest (op.row_flaw.trans hflaw) (hneeds.mpr hadmits)
                (sends_walk hrest)
          | false =>
              have hrefused : ¬op.row.needs entry.found.tracker.standing := by
                simp [hneeds, hadmits]
              rw [walk_of_step (Service.step_entering_of_refuses hflaw hadmits)]
              exact .refused entry rest (op.row_flaw.trans hflaw) hrefused (refreshes_walk hrest)

end Parts

/-- What a probe returns says how the node stands, if nobody comes in between. -/
theorem standing_wake_probing {s : Service} (hrunning : s.cancelled = false) (task : Task)
    (was : Standing) {outcome : Except TransportError Value}
    {result : Except ClientError (Operation.Data .syncing)}
    (h : Operation.syncing.row.Returns outcome result) :
    (∀ d, result = .ok d → (s.wake (.probing task was) (some outcome)).service.tracker.standing
      = ⟨true, !d.syncing⟩) ∧
    ∀ e, result = .error e → (s.wake (.probing task was) (some outcome)).service.tracker.standing
      = ⟨false, false⟩ := by
  rw [Service.wake_of_running hrunning, Service.answer_probing_tracker, Tracker.settle_standing]
  cases h with
  | @read v d hread =>
      have hreceived : Method.syncing.receive Operation.syncing.read (.ok v) = .ok d :=
        Operation.receive_of_read hread
      rw [hreceived]
      simp [Standing.ofProbe]
  | @undecodable v _ e _ hread =>
      have hreceived : Method.syncing.receive Operation.syncing.read (.ok v)
          = .error (.undecodable .syncing e) := Operation.receive_of_mismatch hread
      rw [hreceived]
      simp [Standing.ofProbe]
  | failed _ => simp [Method.receive, Standing.ofProbe]

/-! ## §5. The call. -/

/-- **A call keeps to its rules, whatever the others do between its steps.**  A request that is not
worth sending is not worth a probe either.  A call whose needs the tracker admits makes its own
request, once, and returns what the outcome comes to.  Another one asks the node how it is syncing,
once, unless another refresh holds the slot, and goes by what it finds when it looks again: it makes
its request, or it fails with what is wrong with the node.

What is assumed of the service that a call finds holds of every service that steps lead to.  With
nobody in between, the steps are the turns of the client, and what the call finds when it looks
again is what the node has answered. -/
theorem call_protocol (op : Operation) (moments : List Moment)
    (hlive : ∀ m ∈ moments, m.found.Live) :
    op.row.Calls moments (walk moments (.entering op)) ∧
    ((∀ c, (Service.ofConfig c).Live) ∧
      (∀ (s : Service) outcome point, s.Live → (s.step outcome point).service.Live) ∧
      ∀ (s : Service) p, s.Live → (s.abandon p).Live) ∧
    ((∀ s : Service, s.rush 11 (.entering op) = (s.start (.call op)).pace) ∧
      ∀ (s : Service) p outcome,
        (s.step (some outcome) (.waiting p)).onward 7 = (s.wake p (some outcome)).pace) ∧
    ∀ (s : Service) was outcome, s.Live →
      let now := (s.wake (.probing (.call op) was) (some outcome)).service.tracker.standing
      (∀ d, Operation.syncing.row.Returns outcome (.ok d) → now = ⟨true, !d.syncing⟩) ∧
      ∀ e, Operation.syncing.row.Returns outcome (.error e) → now = ⟨false, false⟩ := by
  refine ⟨calls_walk hlive, ⟨?_, ?_, ?_⟩, ⟨?_, ?_⟩, ?_⟩
  · intro c
    exact ⟨rfl, fun hsynced => hsynced⟩
  · intro s outcome point hs
    exact hs.step outcome point
  · intro s p hs
    exact hs.abandon p
  · intro s
    exact Service.rush_entrance 0 s (.call op)
  · intro s p outcome
    exact Service.onward_step_waiting 0 s p outcome
  · intro s was outcome hs
    exact ⟨fun d hd => (standing_wake_probing hs.running (.call op) was hd).1 d rfl,
      fun e he => (standing_wake_probing hs.running (.call op) was he).2 e rfl⟩

/-- A call for events. -/
def latestEvents : Operation :=
  .events { fromBlock := .latest, toBlock := .latest, address := none, keys := [], limit := 10 }

/-- Another refresh holds the slot when the call tries it.  By the time the call looks again, that
refresh has found that the node has caught up. -/
def lostRace : List Moment :=
  let unknown : Service := { address := "", websocketAddress := "", tracker := { busy := true } }
  let found : Service := {
    address := "", websocketAddress := ""
    tracker := { standing := { active := true, synced := true } } }
  let page : Value := .object [("events", .array [])]
  [unknown, unknown, unknown, found, found, found].map (⟨·, .ok page⟩)

/-- The call sends its request without a probe of its own. -/
theorem call_protocol_lostRace :
    (∀ m ∈ lostRace, m.found.Live) ∧
      walk lostRace (.entering latestEvents)
        = ⟨[("starknet_getEvents", .object [("filter", .object [
              ("from_block", .string "latest"), ("to_block", .string "latest"),
              ("chunk_size", .ofNat 10)])])],
           some (.called latestEvents (.ok []))⟩ ∧
      latestEvents.row.Calls lostRace (walk lostRace (.entering latestEvents)) := by
  have hlive : ∀ m ∈ lostRace, m.found.Live := by
    intro m hm
    simp only [lostRace, List.map_cons, List.map_nil, List.mem_cons, List.not_mem_nil,
      or_false] at hm
    rcases hm with rfl | rfl | rfl | rfl | rfl | rfl <;> exact ⟨rfl, fun h => h⟩
  exact ⟨hlive, rfl, (call_protocol latestEvents lostRace hlive).1⟩

end NodeClient
