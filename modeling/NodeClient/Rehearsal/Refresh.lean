/-
  NodeClient.Rehearsal.Refresh
  ────────────────────────────
  What is played with a tracker alone.  While a refresh asks the node, further steps are taken
  on the same tracker.
-/
import NodeClient.Client.Tracker

namespace NodeClient.Rehearsal

/-- A step on a tracker: a refresh, or a gate that refreshes if need be.  The outcome of the
probe and the steps that are taken meanwhile count only if there is a probe. -/
inductive TrackerStep where
  | mk (gate : Option Gate) (probe : Except ClientError SyncState) (during : List TrackerStep)

/-- What a step on a tracker has come to. -/
inductive TrackerReport where
  | mk (refusal : Option ClientError) (probed : Bool) (standing : Standing)
      (during : List TrackerReport)

/-- Why a step fails with the node standing like this. -/
def refusalOf (gate : Option Gate) (s : Standing) : Option ClientError :=
  gate.bind (·.refusal? s)

mutual

/-- Takes a step. -/
def takeStep (t : Tracker) : TrackerStep → TrackerReport × List LogEntry × Tracker
  | .mk gate probe during =>
      let was := t.standing
      if gate.any (·.admits was) then (.mk none false was [], [], t)
      else
        match t.claim with
        | none => (.mk (refusalOf gate was) false was [], [], t)
        | some claimed =>
            let (reports, entries, held) := takeSteps claimed during
            let after := held.settle (.ofProbe probe)
            (.mk (refusalOf gate after.standing) true after.standing reports,
              entries ++ refreshEntries was probe, after)

/-- Takes steps one after the other. -/
def takeSteps (t : Tracker) : List TrackerStep → List TrackerReport × List LogEntry × Tracker
  | [] => ([], [], t)
  | step :: rest =>
      let (report, entries, t) := takeStep t step
      let (reports, more, t) := takeSteps t rest
      (report :: reports, entries ++ more, t)

end

end NodeClient.Rehearsal
