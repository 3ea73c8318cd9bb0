import LspHost.Rehearsal.World

/-!
# Stopping the client

Each stage of stopping waits for something or for the stop timeout, and the stages that need no
waiting follow one another in one turn.
-/

namespace LspHost.Rehearsal.World

/-- What has become of the thing that stopping waits for, and the warning that comes with it. -/
def stopWait? (w : World) (stage : StopStage) (deadline : Nat) : Option (Wait × Option Warning) :=
  let expired (x : Option Warning) : Option (Wait × Option Warning) :=
    if deadline ≤ w.now then some (.expired, x) else none
  match stage with
  | .shutdown id =>
    match w.answer? id with
    | some a => match decodeAnswer .unit a with
      | .ok _ => some (.happened, none)
      | .error e => some (.happened, some (.shutdownFailed e.text))
    | none =>
      if !w.client.isConnected then
        some (.happened, some (.shutdownFailed RequestFailure.stopped.text))
      else expired (some .shutdownTimedOut)
  | .exit => some (.happened, none)
  | .process => if w.serverOpen then expired none else some (.happened, none)
  | .kill => some (.happened, none)
  | .connection => if !w.client.isConnected then some (.happened, none) else expired none
  | .done => none
  | .failed _ => none

def stopDeadline (w : World) : Nat :=
  w.now + w.client.settings.timeouts.stop.millis

/-- Goes on with stopping through as many stages as possible; there are six. -/
def stopTurnFrom : Nat → World → World
  | 0, w => w
  | fuel + 1, w =>
    match w.stopping with
    | some (stage, deadline) =>
      match w.stopWait? stage deadline with
      | some (wait, warning) =>
        let w := match warning with
          | some x => w.warn x
          | none => w
        let (c, next) := w.client.advanceStop stage wait
        stopTurnFrom fuel
          { w.setClient c with
            stopping := some (next, w.stopDeadline)
            serverOpen := w.serverOpen && stage ≠ .kill }
      | none => w
    | none => w

def stopTurn (w : World) : World :=
  stopTurnFrom 6 w

def beginStop (w : World) : World :=
  let wasRunning := w.client.life = .running
  let (c, stage) := w.client.beginStop
  let w := if wasRunning ∧ stage = .exit then
      w.warn (.shutdownFailed RequestFailure.stopped.text)
    else w
  { w.setClient c with stopping := some (stage, w.stopDeadline), consumed := true }

end LspHost.Rehearsal.World
