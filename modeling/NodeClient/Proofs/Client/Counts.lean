/-
  NodeClient.Proofs.Client.Counts
  ───────────────────────────────
  **What is counted about requests adds up.**

  Any number of requests are made, polled and given up in any order.  A request that has been made
  does nothing until it is polled for the first time; from then on it is pending until it has an
  outcome or is given up.  After every step each series of the metrics has counted exactly the
  requests that belong to it: every request that has been polled is counted once as such, every
  failure once on its own and once under its reason.

  Main result: `requests_add_up`.  The invariant is `Traffic.Counted`, one equation for all series,
  which a poll keeps because it counts its request where it then belongs (`Inquiry.count_poll`).
-/
import Mathlib
import NodeClient.Client.Service

namespace NodeClient

open Json

/-! ## §1. What series count. -/

namespace Fate

@[simp] def isPending : Fate → Bool
  | pending => true
  | _ => false

@[simp] def isDropped : Fate → Bool
  | dropped => true
  | _ => false

@[simp] def hasSucceeded : Fate → Bool
  | ended (.ok _) => true
  | _ => false

@[simp] def hasFailed : Fate → Bool
  | ended (.error _) => true
  | _ => false

/-- The request has failed for a reason. -/
@[simp] def hasFailedFor (r : FailureReason) : Fate → Bool
  | ended (.error e) => e.reason = r
  | _ => false

/-- The request has come to an end of its own. -/
@[simp] def hasEnded : Fate → Bool
  | ended _ => true
  | _ => false

/-- The request has been polled. -/
@[simp] def isPolled : Fate → Bool
  | made | unused => false
  | pending | ended _ | dropped => true

end Fate

namespace Inquiry

/-- The request can be polled. -/
def Open (e : Inquiry) : Prop := e.fate = .made ∨ e.fate = .pending

/-- The request is one of those that a series counts. -/
def belongs (e : Inquiry) : Series → Bool
  | .requests m => e.method = m && e.fate.isPolled
  | .failures m => e.method = m && e.fate.hasFailed
  | .failuresFor m r => e.method = m && e.fate.hasFailedFor r
  | .durations m => e.method = m && e.fate.hasEnded
  | .connection _ => false

/-- How often a series counts the request. -/
def share (s : Series) (e : Inquiry) : Nat := if e.belongs s then 1 else 0

end Inquiry

/-! ## §2. One request. -/

namespace Metrics

theorem count_bump (s x : Series) (t : Metrics) :
    (t.bump s).count x = t.count x + if s = x then 1 else 0 := by
  by_cases h : s = x
  · subst h
    simp [bump]
  · simp [bump, h, Ne.symm h]

/-- Opening counts a request that has not been polled before. -/
theorem count_opened (m : String) (t : Metrics) (s : Series) :
    (t.opened m).count s + Inquiry.share s ⟨m, .made⟩
      = t.count s + Inquiry.share s ⟨m, .pending⟩ := by
  rw [opened, count_bump]
  cases s <;> simp [Inquiry.share, Inquiry.belongs]

/-- Settling counts the end of a request that has been pending. -/
theorem count_settled (m : String) (outcome : Except TransportError Value) (t : Metrics)
    (s : Series) :
    (t.settled m outcome).count s + Inquiry.share s ⟨m, .pending⟩
      = t.count s + Inquiry.share s ⟨m, .ended outcome⟩ := by
  cases outcome with
  | ok v =>
      show (t.bump (.durations m)).count s + _ = _
      rw [count_bump]
      cases s <;> simp [Inquiry.share, Inquiry.belongs]
  | error e =>
      show (((t.bump (.durations m)).bump (.failures m)).bump (.failuresFor m e.reason)).count s
        + _ = _
      rw [count_bump, count_bump, count_bump]
      cases s <;> simp [Inquiry.share, Inquiry.belongs]

end Metrics

namespace Inquiry

/-- **A poll counts a request in the series to which it belongs from then on.** -/
theorem count_poll {e : Inquiry} (h : e.Open) (outcome : Option (Except TransportError Value))
    (t : Metrics) (s : Series) :
    (e.poll outcome t).2.count s + e.share s = t.count s + (e.poll outcome t).1.share s := by
  obtain ⟨m, fate⟩ := e
  have hopened := t.count_opened m s
  rcases h with rfl | rfl
  · cases outcome with
    | none => exact hopened
    | some outcome =>
        -- a request can end with its first poll, which then counts it as opened and as settled
        have hsettled := (t.opened m).count_settled m outcome s
        show ((t.opened m).settled m outcome).count s + _ = _ + share s ⟨m, .ended outcome⟩
        omega
  · cases outcome with
    | none => rfl
    | some outcome => exact t.count_settled m outcome s

/-- The series take no notice of a request that is given up. -/
theorem share_drop (e : Inquiry) (s : Series) : e.drop.share s = e.share s := by
  obtain ⟨m, fate⟩ := e
  cases fate <;> cases s <;> rfl

end Inquiry

/-! ## §3. Any number of requests. -/

/-- Requests with what has been counted. -/
structure Traffic where
  metrics : Metrics := {}
  requests : List Inquiry := []

namespace Traffic

/-- One step of a request. -/
inductive Step (t : Traffic) : Traffic → Prop where
  | make (m : String) : Step t { t with requests := ⟨m, .made⟩ :: t.requests }
  | poll (before after : List Inquiry) (e : Inquiry)
      (outcome : Option (Except TransportError Value)) :
      t.requests = before ++ e :: after → e.Open →
      Step t ⟨(e.poll outcome t.metrics).2, before ++ (e.poll outcome t.metrics).1 :: after⟩
  | drop (before after : List Inquiry) (e : Inquiry) :
      t.requests = before ++ e :: after →
      Step t { t with requests := before ++ e.drop :: after }

/-- What requests can lead to. -/
inductive Reached : Traffic → Prop where
  | start : Reached {}
  | step {t t' : Traffic} : Reached t → Step t t' → Reached t'

/-- Every series has counted the requests that belong to it. -/
def Counted (t : Traffic) : Prop :=
  ∀ s, t.metrics.count s = t.requests.countP (·.belongs s)

variable {t t' : Traffic}

theorem Counted.step (h : t.Counted) (hstep : Step t t') : t'.Counted := by
  have hsplit : ∀ (s : Series) (before after : List Inquiry) (e : Inquiry),
      (before ++ e :: after).countP (·.belongs s)
        = before.countP (·.belongs s) + after.countP (·.belongs s) + e.share s := by
    intro s before after e
    rw [List.countP_append, List.countP_cons, Nat.add_assoc]
    rfl
  intro s
  have hs := h s
  cases hstep with
  | make m =>
      -- no series counts a request that has not been polled
      have hshare : Inquiry.share s ⟨m, .made⟩ = 0 := by
        cases s <;> simp [Inquiry.share, Inquiry.belongs]
      have hcons := hsplit s [] t.requests ⟨m, .made⟩
      rw [hshare] at hcons
      exact hs.trans (by simpa using hcons.symm)
  | poll before after e outcome hmem hopen =>
      have hpoll := Inquiry.count_poll hopen outcome t.metrics s
      rw [hmem, hsplit] at hs
      show (e.poll outcome t.metrics).2.count s = _
      rw [hsplit]
      omega
  | drop before after e hmem =>
      rw [hmem, hsplit] at hs
      show t.metrics.count s = _
      rw [hsplit, Inquiry.share_drop]
      exact hs

theorem Reached.counted (h : Reached t) : t.Counted := by
  induction h with
  | start => exact fun _ => rfl
  | step _ hstep ih => exact ih.step hstep

/-- How many requests for a method have such a fate. -/
def number (t : Traffic) (m : String) (p : Fate → Bool) : Nat :=
  t.requests.countP fun e => e.method = m && p e.fate

/-- If each fate with `p` has exactly one of several properties, and no other fate has any, then the
requests with `p` are counted by the properties. -/
theorem number_eq_sum (t : Traffic) (m : String) (p : Fate → Bool) (qs : List (Fate → Bool))
    (h : ∀ f, (p f).toNat = (qs.map fun q => (q f).toNat).sum) :
    t.number m p = (qs.map (t.number m)).sum := by
  unfold number
  induction t.requests with
  | nil => simp
  | cons e l ih =>
      have hcons : ∀ q : Fate → Bool,
          (e :: l).countP (fun e => e.method = m && q e.fate)
            = l.countP (fun e => e.method = m && q e.fate)
              + if e.method = m then (q e.fate).toNat else 0 := by
        intro q
        rw [List.countP_cons]
        cases q e.fate <;> simp
      -- a request for another method adds nothing to either side
      rw [hcons, ih, h e.fate, funext hcons, List.sum_map_add]
      split <;> simp

theorem number_isPolled (t : Traffic) (m : String) :
    t.number m Fate.isPolled
      = t.number m Fate.hasSucceeded + t.number m Fate.hasFailed + t.number m Fate.isDropped
        + t.number m Fate.isPending := by
  have hsum := t.number_eq_sum m Fate.isPolled
    [Fate.hasSucceeded, Fate.hasFailed, Fate.isDropped, Fate.isPending] ?_
  · simpa [Nat.add_assoc] using hsum
  · intro f
    rcases f with _ | _ | (e | v) | _ | _ <;> rfl

/-- Every failure has exactly one reason. -/
theorem number_hasFailed (t : Traffic) (m : String) :
    t.number m Fate.hasFailed
      = (FailureReason.all.map fun r => t.number m (Fate.hasFailedFor r)).sum := by
  have hsum := t.number_eq_sum m Fate.hasFailed (FailureReason.all.map Fate.hasFailedFor) ?_
  · rwa [List.map_map] at hsum
  · intro f
    rcases f with _ | _ | (e | v) | _ | _
    case ended.error => cases h : e.reason <;> simp [FailureReason.all, h]
    all_goals rfl

end Traffic

/-! ## §4. Reasons and names. -/

/-- Which failures count under which reason. -/
theorem TransportError.reason_iff (e : TransportError) :
    (e.reason = .rpc ↔ ∃ n, e = .node n) ∧
    (e.reason = .decode ↔ (∃ flaw, e = .undecodable flaw) ∨ (∃ why, e = .invalid why) ∨
      ∃ fault, e = .network fault ∧ fault.isBodyFault = true) ∧
    (e.reason = .timeout ↔
      ∃ fault, e = .network fault ∧ fault.isBodyFault = false ∧ fault.isTimeout = true) ∧
    (e.reason = .transport ↔
      ∃ fault, e = .network fault ∧ fault.isBodyFault = false ∧ fault.isTimeout = false) := by
  cases e with
  | network fault => cases hbody : fault.isBodyFault <;> cases htime : fault.isTimeout <;>
      simp [reason, hbody, htime]
  | node n => simp [reason]
  | undecodable flaw => simp [reason]
  | invalid why => simp [reason]

namespace Series

/-- The method whose requests a series is about. -/
def method? : Series → Option String
  | requests m | failures m | failuresFor m _ | durations m => some m
  | connection _ => none

/-- The list of names has every method that the client calls. -/
theorem name_mem_methods (m : Method) : m.name ∈ methods := by cases m <;> decide

/-- A series is published from the start unless it is about a method that is not on the list. -/
theorem mem_registered {s : Series} :
    s ∈ registered ↔ ∀ name, s.method? = some name → name ∈ methods := by
  cases s <;> simp [registered, method?, FailureReason.mem_all, Connection.mem_all]

end Series

theorem Inquiry.method?_of_belongs {e : Inquiry} {s : Series} (h : e.belongs s = true) :
    s.method? = some e.method := by
  cases s <;> simp_all [belongs, Series.method?]

/-! ## §5. The metrics of a client. -/

/-- **The metrics of requests add up after every step,** whatever the requests are, in whatever
order they are polled and whichever are given up: those that have been polled are counted as such,
whether they have succeeded or failed, have been given up while they were pending, or are pending.
Those that have failed are counted as such, and each once more under its reason.  And if they are
requests of the client, then all that is counted is published from the start, as is how the node
stands. -/
theorem requests_add_up {t : Traffic} (ht : t.Reached) :
    (∀ m,
      t.metrics.count (.requests m)
        = t.number m Fate.hasSucceeded + t.number m Fate.hasFailed + t.number m Fate.isDropped
          + t.number m Fate.isPending ∧
      t.metrics.count (.failures m) = t.number m Fate.hasFailed ∧
      t.metrics.count (.failures m)
        = (FailureReason.all.map fun r => t.metrics.count (.failuresFor m r)).sum ∧
      ∀ r, t.metrics.count (.failuresFor m r) = t.number m (Fate.hasFailedFor r)) ∧
    (∀ e : TransportError,
      (e.reason = .rpc ↔ ∃ n, e = .node n) ∧
      (e.reason = .decode ↔ (∃ flaw, e = .undecodable flaw) ∨ (∃ why, e = .invalid why) ∨
        ∃ fault, e = .network fault ∧ fault.isBodyFault = true) ∧
      (e.reason = .timeout ↔
        ∃ fault, e = .network fault ∧ fault.isBodyFault = false ∧ fault.isTimeout = true) ∧
      (e.reason = .transport ↔
        ∃ fault, e = .network fault ∧ fault.isBodyFault = false ∧ fault.isTimeout = false)) ∧
    ((∀ e ∈ t.requests, ∃ p : Pending, e.method = p.method.name) →
      ∀ s, t.metrics.count s ≠ 0 → s ∈ Series.registered) ∧
    ∀ c, Series.connection c ∈ Series.registered := by
  have hcount := ht.counted
  have hreasons : ∀ m r, t.metrics.count (.failuresFor m r) = t.number m (Fate.hasFailedFor r) :=
    fun m r => hcount (.failuresFor m r)
  refine ⟨?_, TransportError.reason_iff, ?_, ?_⟩
  · intro m
    refine ⟨(hcount (.requests m)).trans (t.number_isPolled m), hcount (.failures m), ?_,
      hreasons m⟩
    rw [funext (hreasons m), ← t.number_hasFailed m]
    exact hcount (.failures m)
  · intro hservice s hs
    -- what is counted is a request, and its method is one of the client
    rw [hcount s] at hs
    obtain ⟨e, he, hbelongs⟩ := List.countP_pos_iff.mp (Nat.pos_of_ne_zero hs)
    obtain ⟨p, hp⟩ := hservice e he
    refine Series.mem_registered.mpr ?_
    intro name hname
    rw [Inquiry.method?_of_belongs hbelongs, hp] at hname
    rw [← Option.some.inj hname]
    exact Series.name_mem_methods p.method
  · intro c
    refine Series.mem_registered.mpr ?_
    intro name hname
    cases hname

/-- A request whose reply has ended neither whole nor in time, and one that was given up while it
was pending. -/
def sampleTraffic : Traffic where
  metrics := ((({} : Metrics).opened "starknet_chainId").opened "starknet_syncing").settled
    "starknet_syncing" (.error (.network .stalled))
  requests := [⟨"starknet_syncing", .ended (.error (.network .stalled))⟩,
    ⟨"starknet_chainId", .dropped⟩]

theorem sampleTraffic_reached : sampleTraffic.Reached := by
  have hpending : Traffic.Reached ⟨({} : Metrics).opened "starknet_chainId",
      [⟨"starknet_chainId", .pending⟩]⟩ := by
    refine (Traffic.Reached.start.step (.make "starknet_chainId")).step ?_
    exact .poll [] [] ⟨"starknet_chainId", .made⟩ none rfl (.inl rfl)
  have hended : Traffic.Reached ⟨sampleTraffic.metrics,
      [⟨"starknet_syncing", .ended (.error (.network .stalled))⟩,
        ⟨"starknet_chainId", .pending⟩]⟩ := by
    refine (hpending.step (.make "starknet_syncing")).step ?_
    exact .poll [] [⟨"starknet_chainId", .pending⟩] ⟨"starknet_syncing", .made⟩
      (some (.error (.network .stalled))) rfl (.inl rfl)
  refine hended.step ?_
  exact .drop [⟨"starknet_syncing", .ended (.error (.network .stalled))⟩] []
    ⟨"starknet_chainId", .pending⟩ rfl

/-- The body that has not ended in time counts as one that cannot be read. -/
theorem requests_add_up_sample :
    sampleTraffic.Reached ∧
      sampleTraffic.metrics.count (.requests "starknet_chainId") = 1 ∧
      sampleTraffic.metrics.count (.failures "starknet_chainId") = 0 ∧
      sampleTraffic.metrics.count (.failuresFor "starknet_syncing" .decode) = 1 ∧
      sampleTraffic.metrics.count (.failuresFor "starknet_syncing" .timeout) = 0 ∧
      ∀ s, sampleTraffic.metrics.count s ≠ 0 → s ∈ Series.registered := by
  obtain ⟨hcounts, _, hregistered, _⟩ := requests_add_up sampleTraffic_reached
  obtain ⟨hrequests, hfailures, _, _⟩ := hcounts "starknet_chainId"
  obtain ⟨_, _, _, hreasons⟩ := hcounts "starknet_syncing"
  refine ⟨sampleTraffic_reached, hrequests, hfailures, hreasons .decode, hreasons .timeout,
    hregistered ?_⟩
  intro e he
  rcases List.mem_cons.mp he with rfl | he
  · exact ⟨.probing .check {}, rfl⟩
  · obtain rfl := List.mem_singleton.mp he
    exact ⟨.calling .chainId, rfl⟩

end NodeClient
