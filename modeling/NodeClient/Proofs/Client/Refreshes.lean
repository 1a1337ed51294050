/-
  NodeClient.Proofs.Client.Refreshes
  ──────────────────────────────────
  **The refreshes of one tracker, in any order of their steps.**

  Any number of refreshes may be started at any time.  One that takes the slot asks the node; it
  may be given up until the answer comes, and from then on it stores what follows from the answer,
  publishes it connection by connection and gives the slot back.  Every write is a step of its
  own, so that what matters is the order in which a refresh writes and releases.

  The invariant is `Watch.Sound`: whoever holds the slot is alone, and has been started after
  every probe that has an answer.  What follows from it is `Watch.Exclusive`.
-/
import Mathlib.Logic.Function.Basic
import NodeClient.Proofs.Client.Steps

namespace NodeClient

/-! ## §1. Steps. -/

/-- How far a refresh has got that holds the slot. -/
inductive Stage where
  /-- It waits for the node. -/
  | probing
  /-- It has stored this standing and has still to publish it for these connections. -/
  | publishing (s : Standing) (left : List Connection)

/-- A tracker with the refreshes that are under way. -/
structure Watch where
  tracker : Tracker := {}
  /-- How many probes have been started.  They are numbered in this order. -/
  started : Nat := 0
  /-- How far the refresh has got whose probe has the number. -/
  stage : Nat → Option Stage := fun _ => none
  /-- The outcomes of the probes, the latest first. -/
  answers : List (Nat × Except ClientError SyncState) := []

namespace Watch

/-- Starts a refresh.  It begins a probe if it gets the slot, and else it has ended. -/
def refresh (w : Watch) : Watch :=
  match w.tracker.claim with
  | none => w
  | some tracker =>
      { w with tracker, started := w.started + 1,
               stage := Function.update w.stage w.started (some .probing) }

/-- The probe of a refresh has this outcome, and the refresh stores what follows from it. -/
def answer (i : Nat) (outcome : Except ClientError SyncState) (w : Watch) : Watch :=
  { w with tracker := w.tracker.store (.ofProbe outcome),
           stage := Function.update w.stage i
             (some (.publishing (.ofProbe outcome) Connection.all)),
           answers := (i, outcome) :: w.answers }

/-- A refresh publishes its standing for one connection. -/
def publish (i : Nat) (s : Standing) (c : Connection) (left : List Connection) (w : Watch) :
    Watch :=
  { w with tracker := w.tracker.publish s c,
           stage := Function.update w.stage i (some (.publishing s left)) }

/-- A refresh gives the slot back, since it has ended or has been given up. -/
def leave (i : Nat) (w : Watch) : Watch :=
  { w with tracker := w.tracker.release, stage := Function.update w.stage i none }

/-- One step of some refresh. -/
inductive Step (w : Watch) : Watch → Prop where
  | refresh : Step w w.refresh
  | answer (i : Nat) (outcome : Except ClientError SyncState) :
      w.stage i = some .probing → Step w (w.answer i outcome)
  | publish (i : Nat) (s : Standing) (c : Connection) (left : List Connection) :
      w.stage i = some (.publishing s (c :: left)) → Step w (w.publish i s c left)
  | finish (i : Nat) (s : Standing) :
      w.stage i = some (.publishing s []) → Step w (w.leave i)
  | giveUp (i : Nat) : w.stage i = some .probing → Step w (w.leave i)

/-- What the steps of any number of refreshes can lead to. -/
inductive Reached : Watch → Prop where
  | start : Reached {}
  | step {w w' : Watch} : Reached w → Step w w' → Reached w'

/-- How the node stands by the latest outcome. -/
def known (w : Watch) : Standing :=
  match w.answers with
  | [] => {}
  | (_, outcome) :: _ => .ofProbe outcome

/-! ## §2. One refresh under way. -/

/-- The refresh with this number has got so far, and no other is under way. -/
def only (i : Nat) (g : Stage) : Nat → Option Stage := Function.update (fun _ => none) i (some g)

theorem only_self (i : Nat) (g : Stage) : only i g i = some g := Function.update_self i _ _

theorem only_eq_some_iff (i j : Nat) (g g' : Stage) :
    only i g j = some g' ↔ j = i ∧ g = g' := by
  by_cases hj : j = i
  · rw [hj, only_self]
    simp
  · unfold only
    rw [Function.update_of_ne hj]
    simp [hj]

theorem update_only (i : Nat) (g g' : Stage) :
    Function.update (only i g) i (some g') = only i g' := Function.update_idem ..

theorem update_only_none (i : Nat) (g : Stage) :
    Function.update (only i g) i none = fun _ => none := by
  unfold only
  rw [Function.update_idem, Function.update_eq_self_iff]

theorem refresh_of_free {w : Watch} (h : w.tracker.busy = false) :
    w.refresh = { w with tracker := { w.tracker with busy := true }, started := w.started + 1,
                         stage := Function.update w.stage w.started (some .probing) } := by
  unfold refresh
  rw [(Tracker.claim_eq_some_iff _ _).mpr ⟨h, rfl⟩]

theorem refresh_of_busy {w : Watch} (h : w.tracker.busy = true) : w.refresh = w := by
  unfold refresh
  rw [(Tracker.claim_eq_none_iff _).mpr h]

/-! ## §3. The invariant. -/

/-- What holds between any two steps. -/
structure Sound (w : Watch) : Prop where
  /-- The slot is free and nobody is under way, or it is taken by the only refresh that is.  The
  probe under way is later than every probe that has an outcome. -/
  slot : (w.tracker.busy = false ∧ w.stage = fun _ => none) ∨
    (w.tracker.busy = true ∧ ∃ i g, w.stage = only i g ∧ i < w.started ∧
      (g = .probing → ∀ a ∈ w.answers, a.1 < i))
  answered : ∀ a ∈ w.answers, a.1 < w.started
  ordered : w.answers.Pairwise (fun a b => b.1 < a.1)
  standing : w.tracker.standing = w.known

namespace Sound

variable {w : Watch}

/-- A refresh under way is the only one, and it holds the slot. -/
theorem stage_eq_only (h : w.Sound) {i : Nat} {g : Stage} (hi : w.stage i = some g) :
    w.tracker.busy = true ∧ w.stage = only i g ∧ i < w.started ∧
      (g = .probing → ∀ a ∈ w.answers, a.1 < i) := by
  rcases h.slot with ⟨_, hnone⟩ | ⟨hbusy, j, g', hstage, hj, hlater⟩
  · rw [hnone] at hi
    cases hi
  · rw [hstage] at hi
    obtain ⟨rfl, rfl⟩ := (only_eq_some_iff j i g' g).mp hi
    exact ⟨hbusy, hstage, hj, hlater⟩

theorem busy_of_stage (h : w.Sound) {i : Nat} (hi : w.stage i ≠ none) :
    w.tracker.busy = true := by
  obtain ⟨g, hg⟩ := Option.ne_none_iff_exists'.mp hi
  exact (h.stage_eq_only hg).1

theorem free_of_stage (h : w.Sound) (hnone : ∀ i, w.stage i = none) :
    w.tracker.busy = false := by
  rcases h.slot with ⟨hfree, _⟩ | ⟨_, i, g, hstage, _⟩
  · exact hfree
  · have hi := hnone i
    rw [hstage, only_self] at hi
    cases hi

theorem start : Sound {} where
  slot := .inl ⟨rfl, rfl⟩
  answered := fun _ h => absurd h List.not_mem_nil
  ordered := List.Pairwise.nil
  standing := rfl

theorem refresh (h : w.Sound) : w.refresh.Sound := by
  rcases h.slot with ⟨hfree, hnone⟩ | ⟨hbusy, _⟩
  · -- the new probe is alone, and later than whatever has an outcome
    rw [refresh_of_free hfree, hnone]
    exact {
      slot := .inr ⟨rfl, w.started, .probing, rfl, Nat.lt_succ_self _, fun _ => h.answered⟩
      answered := fun a ha => Nat.lt_succ_of_lt (h.answered a ha)
      ordered := h.ordered
      standing := h.standing }
  · -- the slot is taken, and nothing changes
    rw [refresh_of_busy hbusy]
    exact h

theorem answer (h : w.Sound) {i : Nat} (hi : w.stage i = some .probing)
    (outcome : Except ClientError SyncState) : (w.answer i outcome).Sound := by
  obtain ⟨hbusy, hstage, hlt, hlater⟩ := h.stage_eq_only hi
  refine ⟨.inr ⟨hbusy, i, .publishing (.ofProbe outcome) Connection.all, ?_, hlt, ?_⟩, ?_, ?_,
    rfl⟩
  · show Function.update w.stage i _ = _
    rw [hstage, update_only]
  · intro hprobing
    cases hprobing
  · intro a ha
    rcases List.mem_cons.mp ha with rfl | ha
    · exact hlt
    · exact h.answered a ha
  · -- the probe that is answered has been started after all that have an outcome
    exact List.pairwise_cons.mpr ⟨fun a ha => hlater rfl a ha, h.ordered⟩

theorem publish (h : w.Sound) {i : Nat} {s : Standing} {c : Connection} {left : List Connection}
    (hi : w.stage i = some (.publishing s (c :: left))) : (w.publish i s c left).Sound := by
  obtain ⟨hbusy, hstage, hlt, _⟩ := h.stage_eq_only hi
  refine ⟨.inr ⟨hbusy, i, .publishing s left, ?_, hlt, ?_⟩, h.answered, h.ordered, h.standing⟩
  · show Function.update w.stage i _ = _
    rw [hstage, update_only]
  · intro hprobing
    cases hprobing

/-- After the slot is given back nobody is under way. -/
theorem stage_leave (h : w.Sound) {i : Nat} {g : Stage} (hi : w.stage i = some g) :
    (w.leave i).stage = fun _ => none := by
  obtain ⟨_, hstage, _⟩ := h.stage_eq_only hi
  show Function.update w.stage i none = _
  rw [hstage, update_only_none]

theorem leave (h : w.Sound) {i : Nat} {g : Stage} (hi : w.stage i = some g) :
    (w.leave i).Sound :=
  ⟨.inl ⟨rfl, h.stage_leave hi⟩, h.answered, h.ordered, h.standing⟩

/-- Every step keeps the invariant. -/
theorem step (h : w.Sound) {w' : Watch} (hstep : Step w w') : w'.Sound := by
  cases hstep with
  | refresh => exact h.refresh
  | answer i outcome hi => exact h.answer hi outcome
  | publish i s c left hi => exact h.publish hi
  | finish i s hi => exact h.leave hi
  | giveUp i hi => exact h.leave hi

end Sound

theorem Reached.sound {w : Watch} (h : Reached w) : w.Sound := by
  induction h with
  | start => exact Sound.start
  | step _ hstep ih => exact ih.step hstep

/-! ## §4. What a tracker knows. -/

/-- The standing is that of the latest of the probes that have an outcome. -/
theorem Sound.standing_latest {w : Watch} (h : w.Sound) :
    (w.answers = [] ∧ w.tracker.standing = {}) ∨
      ∃ i outcome, (i, outcome) ∈ w.answers ∧ w.tracker.standing = .ofProbe outcome ∧
        ∀ a ∈ w.answers, a = (i, outcome) ∨ a.1 < i := by
  have hstanding := h.standing
  have hordered := h.ordered
  unfold known at hstanding
  cases hanswers : w.answers with
  | nil =>
      rw [hanswers] at hstanding
      exact .inl ⟨rfl, hstanding⟩
  | cons a earlier =>
      rw [hanswers] at hstanding hordered
      refine .inr ⟨a.1, a.2, List.mem_cons_self, hstanding, ?_⟩
      intro b hb
      rcases List.mem_cons.mp hb with rfl | hb
      · exact .inl rfl
      · exact .inr ((List.pairwise_cons.mp hordered).1 b hb)

theorem Sound.active_of_synced {w : Watch} (h : w.Sound)
    (hsynced : w.tracker.standing.synced = true) : w.tracker.standing.active = true := by
  rcases h.standing_latest with ⟨_, hstanding⟩ | ⟨i, outcome, _, hstanding, _⟩
  · rw [hstanding] at hsynced
    exact absurd hsynced Bool.false_ne_true
  · rw [hstanding] at hsynced ⊢
    exact Standing.active_of_synced_ofProbe hsynced

/-! ## §5. What a refresh finds. -/

namespace Sound

variable {w : Watch}

theorem one_probe (h : w.Sound) {i j : Nat} (hi : w.stage i = some .probing)
    (hj : w.stage j = some .probing) : i = j := by
  rw [(h.stage_eq_only hj).2.1] at hi
  exact ((only_eq_some_iff j i _ _).mp hi).1

/-- A refresh that finds nobody under way takes the slot and probes. -/
theorem refresh_of_none (h : w.Sound) (hnone : ∀ i, w.stage i = none) :
    w.refresh = { w with tracker := { w.tracker with busy := true }, started := w.started + 1,
                         stage := only w.started .probing } := by
  rw [refresh_of_free (h.free_of_stage hnone), funext hnone]
  rfl

/-- All that is left of a refresh that has been given up is a free slot. -/
theorem leave_eq (h : w.Sound) {i : Nat} {g : Stage} (hi : w.stage i = some g) :
    w.leave i
      = { w with tracker := { w.tracker with busy := false }, stage := fun _ => none } := by
  show { w with tracker := w.tracker.release, stage := (w.leave i).stage } = _
  rw [h.stage_leave hi]
  rfl

end Sound

/-- Refreshes do not get into each other's way. -/
structure Exclusive (w : Watch) : Prop where
  /-- One probe at most is under way. -/
  one_probe : ∀ i j, w.stage i = some .probing → w.stage j = some .probing → i = j
  /-- The tracker knows nothing, or what the latest of the probes says that have an outcome: the
  node cannot be reached, or it can and has caught up unless it is syncing. -/
  latest : (w.answers = [] ∧ w.tracker.standing = { active := false, synced := false }) ∨
    ∃ i outcome, (i, outcome) ∈ w.answers ∧
      (w.tracker.standing = match outcome with
        | .error _ => { active := false, synced := false }
        | .ok s => { active := true, synced := !s.syncing }) ∧
      ∀ a ∈ w.answers, a = (i, outcome) ∨ a.1 < i
  active_of_synced : w.tracker.standing.synced = true → w.tracker.standing.active = true
  /-- A refresh that finds another one under way changes nothing. -/
  lose : ∀ i, w.stage i ≠ none → w.refresh = w
  /-- A refresh that finds nobody under way takes the slot and probes, and no more. -/
  begin_probe : (∀ i, w.stage i = none) →
    w.refresh = { w with tracker := { w.tracker with busy := true }, started := w.started + 1,
                         stage := only w.started .probing }
  /-- A refresh that is given up while it probes leaves a free slot, and no other trace: the next
  refresh probes. -/
  give_up : ∀ i, w.stage i = some .probing →
    w.leave i
      = { w with tracker := { w.tracker with busy := false }, stage := fun _ => none } ∧
    (w.leave i).refresh.stage w.started = some .probing

theorem Sound.exclusive {w : Watch} (h : w.Sound) : w.Exclusive where
  one_probe _ _ hi hj := h.one_probe hi hj
  latest := by
    rcases h.standing_latest with hnothing | ⟨i, outcome, hmem, hstanding, hlatest⟩
    · exact .inl hnothing
    · refine .inr ⟨i, outcome, hmem, hstanding.trans ?_, hlatest⟩
      cases outcome <;> rfl
  active_of_synced := h.active_of_synced
  lose _ hi := refresh_of_busy (h.busy_of_stage hi)
  begin_probe := h.refresh_of_none
  give_up i hi := by
    refine ⟨h.leave_eq hi, ?_⟩
    rw [(h.leave hi).refresh_of_none (fun j => congrFun (h.stage_leave hi) j)]
    exact only_self w.started .probing

end Watch

end NodeClient
