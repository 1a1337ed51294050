/-
  NodeClient.Proofs.Client.Gauges
  ───────────────────────────────
  **The gauges tell the standing that is cached.**

  A refresh stores a standing and then publishes it, one connection after the other, while any
  number of other refreshes start, find the slot taken or are given up.  In between the gauges
  tell a mixture of two standings.  What holds between any two steps is `Watch.Told`: whoever
  publishes, publishes the standing that is stored, and each connection that nobody has still to
  publish tells this standing.  It rests on `Watch.Sound`, as a second refresh that publishes
  would owe connections of its own.

  Main result: `gauges_tell_standing`.
-/
import NodeClient.Proofs.Client.Crowd

namespace NodeClient

/-! ## §1. What is owed. -/

namespace Watch

/-- Some refresh has stored its standing and has still to publish it for this connection. -/
def Owes (w : Watch) (c : Connection) : Prop :=
  ∃ i s left, w.stage i = some (.publishing s left) ∧ c ∈ left

/-- No refresh is between storing its standing and publishing it for the last connection. -/
def Quiet (w : Watch) : Prop := ∀ c, ¬w.Owes c

variable {w : Watch}

theorem quiet_of_none (h : w.stage = fun _ => none) : w.Quiet := by
  rintro c ⟨i, s, left, hi, _⟩
  rw [h] at hi
  cases hi

/-- A refresh that waits for the node owes nothing. -/
theorem quiet_of_probing {i : Nat} (h : w.stage = only i .probing) : w.Quiet := by
  rintro c ⟨j, s, left, hj, _⟩
  rw [h] at hj
  cases ((only_eq_some_iff i j _ _).mp hj).2

/-- What is owed is what the only refresh under way has left. -/
theorem owes_iff {i : Nat} {s : Standing} {left : List Connection}
    (h : w.stage = only i (.publishing s left)) (c : Connection) : w.Owes c ↔ c ∈ left := by
  constructor
  · rintro ⟨j, s', left', hj, hc⟩
    rw [h] at hj
    obtain ⟨_, hsame⟩ := (only_eq_some_iff i j _ _).mp hj
    cases hsame
    exact hc
  · intro hc
    exact ⟨i, s, left, by rw [h, only_self], hc⟩

/-- A refresh that goes on is still the only one under way. -/
theorem Sound.update_stage (h : w.Sound) {i : Nat} {g : Stage} (hi : w.stage i = some g)
    (g' : Stage) : Function.update w.stage i (some g') = only i g' := by
  rw [(h.stage_eq_only hi).2.1, update_only]

/-! ## §2. The invariant. -/

/-- What a gauge shows for a connection while the node stands so. -/
def shown (s : Standing) (c : Connection) : Nat := if c = s.connection then 1 else 0

/-- What holds of the gauges between any two steps. -/
structure Told (w : Watch) : Prop where
  /-- Whoever publishes, publishes what is stored. -/
  current : ∀ i s left, w.stage i = some (.publishing s left) →
    w.answers ≠ [] ∧ s = w.tracker.standing
  /-- Before the first probe has an outcome nothing is published. -/
  silent : w.answers = [] → ∀ c, w.tracker.gauges c = none
  /-- From then on each connection tells what is stored, unless it is still owed. -/
  told : w.answers ≠ [] → ∀ c, ¬w.Owes c → w.tracker.gauges c = some (shown w.tracker.standing c)

namespace Told

theorem start : Told {} where
  current := by
    intro i s left hi
    cases hi
  silent := fun _ _ => rfl
  told := fun h => absurd rfl h

/-- A refresh that starts, or finds the slot taken, publishes nothing. -/
theorem refresh (h : w.Told) (hsound : w.Sound) : w.refresh.Told := by
  rcases hsound.slot with ⟨hfree, hnone⟩ | ⟨hbusy, _⟩
  · have hquiet : w.Quiet := quiet_of_none hnone
    rw [refresh_of_free hfree, hnone]
    refine ⟨?_, h.silent, fun hanswered c _ => h.told hanswered c (hquiet c)⟩
    intro i s left hi
    cases ((only_eq_some_iff w.started i _ _).mp hi).2
  · rw [refresh_of_busy hbusy]
    exact h

/-- As soon as a standing is stored every connection is owed. -/
theorem answer (hsound : w.Sound) {i : Nat} (hi : w.stage i = some .probing)
    (outcome : Except ClientError SyncState) : (w.answer i outcome).Told := by
  have hstage : (w.answer i outcome).stage
      = only i (.publishing (.ofProbe outcome) Connection.all) := hsound.update_stage hi _
  refine ⟨?_, fun hnone => absurd hnone (List.cons_ne_nil _ _), ?_⟩
  · intro j s left hj
    rw [hstage] at hj
    obtain ⟨_, hsame⟩ := (only_eq_some_iff i j _ _).mp hj
    cases hsame
    exact ⟨List.cons_ne_nil _ _, rfl⟩
  · -- the gauges still tell the standing before, and nothing is claimed of them
    intro _ c howed
    exact absurd ((owes_iff hstage c).mpr (Connection.mem_all c)) howed

/-- A write to a gauge pays for its connection and leaves the others as they are. -/
theorem publish (h : w.Told) (hsound : w.Sound) {i : Nat} {s : Standing} {c : Connection}
    {left : List Connection} (hi : w.stage i = some (.publishing s (c :: left))) :
    (w.publish i s c left).Told := by
  obtain ⟨hanswered, rfl⟩ := h.current i s (c :: left) hi
  have hbefore := (hsound.stage_eq_only hi).2.1
  have hstage : (w.publish i w.tracker.standing c left).stage
      = only i (.publishing w.tracker.standing left) := hsound.update_stage hi _
  refine ⟨?_, fun hnone => absurd hnone hanswered, ?_⟩
  · intro j s left' hj
    rw [hstage] at hj
    obtain ⟨_, hsame⟩ := (only_eq_some_iff i j _ _).mp hj
    cases hsame
    exact ⟨hanswered, rfl⟩
  · intro _ x howed
    have hx : x ∉ left := fun hmem => howed ((owes_iff hstage x).mpr hmem)
    show (if x = c then some (shown w.tracker.standing c) else w.tracker.gauges x) = _
    by_cases hxc : x = c
    · rw [if_pos hxc, hxc]
      rfl
    · -- what is not published now has been paid for before
      rw [if_neg hxc]
      refine h.told hanswered x fun hbefore' => ?_
      rcases List.mem_cons.mp ((owes_iff hbefore x).mp hbefore') with hmem | hmem
      · exact hxc hmem
      · exact hx hmem

/-- A refresh leaves when it owes nothing: it has published everything, or nothing was stored. -/
theorem leave (h : w.Told) (hsound : w.Sound) {i : Nat} {g : Stage} (hi : w.stage i = some g)
    (hquiet : w.Quiet) : (w.leave i).Told := by
  refine ⟨?_, h.silent, fun hanswered c _ => h.told hanswered c (hquiet c)⟩
  intro j s left hj
  rw [hsound.stage_leave hi] at hj
  cases hj

/-- Every step keeps the invariant. -/
theorem step (h : w.Told) (hsound : w.Sound) {w' : Watch} (hstep : Step w w') : w'.Told := by
  cases hstep with
  | refresh => exact h.refresh hsound
  | answer i outcome hi => exact answer hsound hi outcome
  | publish i s c left hi => exact h.publish hsound hi
  | finish i s hi =>
      -- no connection is left
      refine h.leave hsound hi fun c howed => ?_
      exact absurd ((owes_iff (hsound.stage_eq_only hi).2.1 c).mp howed) List.not_mem_nil
  | giveUp i hi => exact h.leave hsound hi (quiet_of_probing (hsound.stage_eq_only hi).2.1)

end Told

theorem Reached.told {w : Watch} (h : Reached w) : w.Told := by
  induction h with
  | start => exact Told.start
  | step hw hstep ih => exact ih.step hw.sound hstep

end Watch

/-! ## §3. What the gauges tell. -/

/-- The gauge with this label is one, and the others are zero. -/
def Tracker.Shows (t : Tracker) (label : String) : Prop :=
  ∃ c : Connection, c.name = label ∧ t.gauges c = some 1 ∧ ∀ c', c' ≠ c → t.gauges c' = some 0

/-- The gauges show the cached standing. -/
structure Tracker.Tells (t : Tracker) : Prop where
  /-- The node has caught up with the chain. -/
  synced : t.standing.synced = true → t.Shows "synced"
  /-- The node can be reached, but has not caught up. -/
  behind : t.standing.active = true → t.standing.synced = false → t.Shows "active"
  /-- The node cannot be reached. -/
  unreached : t.standing.active = false → t.standing.synced = false → t.Shows "inactive"

section Labels

variable {s : Standing}

theorem Standing.label_of_synced (h : s.synced = true) : s.connection.name = "synced" := by
  obtain ⟨active, synced⟩ := s
  subst h
  rfl

theorem Standing.label_of_behind (hactive : s.active = true) (hsynced : s.synced = false) :
    s.connection.name = "active" := by
  obtain ⟨active, synced⟩ := s
  subst hactive hsynced
  rfl

theorem Standing.label_of_unreached (hactive : s.active = false) (hsynced : s.synced = false) :
    s.connection.name = "inactive" := by
  obtain ⟨active, synced⟩ := s
  subst hactive hsynced
  rfl

end Labels

/-- Where nothing is owed one gauge is one, that of the connection under which the cached standing
is published. -/
theorem Watch.Told.shows {w : Watch} (h : w.Told) (hquiet : w.Quiet) (hanswered : w.answers ≠ []) :
    w.tracker.Shows w.tracker.standing.connection.name := by
  have htold := fun c => h.told hanswered c (hquiet c)
  refine ⟨w.tracker.standing.connection, rfl, ?_, fun c hc => ?_⟩
  · rw [htold, shown, if_pos rfl]
  · rw [htold, shown, if_neg hc]

/-- Where nothing is owed the gauges tell the cached standing, if they tell anything. -/
theorem Watch.Told.tells {w : Watch} (h : w.Told) (hquiet : w.Quiet) (hanswered : w.answers ≠ []) :
    w.tracker.Tells where
  synced hsynced := by
    rw [← Standing.label_of_synced hsynced]
    exact h.shows hquiet hanswered
  behind hactive hsynced := by
    rw [← Standing.label_of_behind hactive hsynced]
    exact h.shows hquiet hanswered
  unreached hactive hsynced := by
    rw [← Standing.label_of_unreached hactive hsynced]
    exact h.shows hquiet hanswered

/-! ## §4. The gauges of a client. -/

theorem Point.eq_publishing_of_stage? {point : Point} {now : Standing} {left : List Connection}
    (h : point.stage? = some (.publishing now left)) : ∃ task, point = .publishing task now left := by
  cases point with
  | publishing task now' left' =>
      cases h
      exact ⟨task, rfl⟩
  | waiting p => cases p <;> cases h
  | _ => cases h

/-- No task is between storing a standing and publishing it for the last connection. -/
def Throng.Quiet (t : Throng) : Prop :=
  ∀ n task now c left, t.points n ≠ .publishing task now (c :: left)

theorem Throng.Agrees.quiet {t : Throng} {w : Watch} (h : t.Agrees w) (hquiet : t.Quiet) :
    w.Quiet := by
  rintro c ⟨j, now, left, hj, hc⟩
  obtain ⟨i, n, hstage, hwatched, _⟩ := h.slot
  by_cases hji : j = i
  · rw [hji, hstage] at hj
    obtain ⟨task, hpoint⟩ := Point.eq_publishing_of_stage? hj
    cases left with
    | nil => exact List.not_mem_nil hc
    | cons c' left => exact hquiet n task now c' left hpoint
  · rw [hwatched j hji] at hj
    cases hj

/-- Between two turns nobody publishes. -/
theorem Throng.Rests.quiet {t : Throng} {c : Crowd} (h : t.Rests c) : t.Quiet := by
  intro n task now connection left hn
  cases htask : c.tasks n with
  | some p =>
      rw [h.waiting n p htask] at hn
      cases hn
  | none =>
      obtain ⟨e, he⟩ := h.ended n htask
      rw [he] at hn
      cases hn

/-- As long as no probe has an outcome nothing is published, and from then on the gauges tell the
cached standing, whenever nobody publishes. -/
theorem Throng.Reached.tells {config : Config} {t : Throng} (h : t.Reached config)
    (hquiet : t.Quiet) :
    (t.outcomes = [] → ∀ c, t.service.tracker.gauges c = none) ∧
      (t.outcomes ≠ [] → t.service.tracker.Tells) := by
  obtain ⟨w, hw, hagrees⟩ := h.exists_watch
  rw [← hagrees.tracker, ← hagrees.outcomes]
  constructor
  · intro hnone
    exact hw.told.silent (List.map_eq_nil_iff.mp hnone)
  · intro hsome
    refine hw.told.tells (hagrees.quiet hquiet) fun hnone => hsome ?_
    rw [hnone]
    rfl

/-- **Once a refresh has come to an outcome, the gauges tell the cached standing whenever no
refresh is between storing its standing and publishing the last connection.**  Whatever else is
under way: a refresh that waits for the node, finds the slot taken or is given up leaves the
gauges alone.  So it is with the refreshes of a client whose tasks take their steps one by one; and
if they take turns the gauges tell it between any two, from the first outcome on. -/
theorem gauges_tell_standing :
    (∀ w : Watch, w.Reached → w.Quiet → w.answers ≠ [] → w.tracker.Tells) ∧
    (∀ (config : Config) (t : Throng), t.Reached config → t.Quiet → t.outcomes ≠ [] →
      t.service.tracker.Tells) ∧
    ∀ (config : Config) (c : Crowd), c.Reached config →
      (∀ x, c.service.tracker.gauges x = none) ∨ c.service.tracker.Tells := by
  refine ⟨?_, ?_, ?_⟩
  · intro w h hquiet hanswered
    exact h.told.tells hquiet hanswered
  · intro config t h hquiet hsome
    exact (h.tells hquiet).2 hsome
  · intro config c h
    obtain ⟨t, ht, hrests⟩ := h.exists_throng
    rw [← hrests.service]
    obtain ⟨hsilent, htells⟩ := ht.tells hrests.quiet
    by_cases houtcomes : t.outcomes = []
    · exact .inl (hsilent houtcomes)
    · exact .inr (htells houtcomes)

/-- A node that is a block behind. -/
def SyncState.blockBehind : SyncState :=
  { SyncState.idle with syncing := true, currentNumber := 1, highestNumber := 2 }

/-- The first refresh finds the node a block behind and publishes that.  Then a second one waits
for the node and a third finds the slot taken. -/
def Watch.behindOnce : Watch :=
  let behind : Standing := { active := true, synced := false }
  let stored := ({} : Watch).refresh.answer 0 (.ok .blockBehind)
  let published := ((stored.publish 0 behind .inactive [.active, .synced]).publish
    0 behind .active [.synced]).publish 0 behind .synced []
  (published.leave 0).refresh.refresh

/-- The gauges tell that the node can be reached while the second refresh waits. -/
theorem gauges_tell_standing_behindOnce :
    let w := Watch.behindOnce
    w.Reached ∧ w.Quiet ∧ w.answers ≠ [] ∧ w.tracker.standing = ⟨true, false⟩ ∧
      w.tracker.Shows "active" := by
  intro w
  have hstored : Watch.Reached (({} : Watch).refresh.answer 0 (.ok .blockBehind)) :=
    (Watch.Reached.start.step .refresh).step (.answer 0 _ rfl)
  have hpublished := ((hstored.step (.publish 0 _ .inactive _ rfl)).step
    (.publish 0 _ .active _ rfl)).step (.publish 0 _ .synced _ rfl)
  have hwaiting := (hpublished.step (.finish 0 _ rfl)).step .refresh
  have hw : w.Reached := hwaiting.step .refresh
  have hquiet : w.Quiet := Watch.quiet_of_probing (hw.sound.stage_eq_only (i := 1) rfl).2.1
  have hanswered : w.answers ≠ [] := List.cons_ne_nil _ _
  have htells := gauges_tell_standing.1 w hw hquiet hanswered
  exact ⟨hw, hquiet, hanswered, rfl, htells.behind rfl rfl⟩

end NodeClient
