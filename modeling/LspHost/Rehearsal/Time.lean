import LspHost.Rehearsal.Calls
import LspHost.Rehearsal.Connection
import LspHost.Rehearsal.Ending
import LspHost.Rehearsal.Exchange
import LspHost.Rehearsal.Server

/-!
# Turns and time

In a turn the connection, the first exchange, the calls, the stopping and the server each do what
they can. When a turn changes nothing, time goes on to the next moment that somebody waits for.
-/

namespace LspHost.Rehearsal.World

def turn (w : World) : World :=
  w.connectionTurn.exchangeTurn.callsTurn.stopTurn.serverTurn

def quiesce : Nat → World → World
  | 0, w => w
  | fuel + 1, w =>
    let w := turn { w with busy := false }
    if w.busy then quiesce fuel w else w

def deadlines (w : World) : List Nat :=
  let exchange := match w.client.session with
    | some { handshake := .waiting _, .. } => [w.initDeadline]
    | _ => []
  let calls := w.calls.filterMap fun
    | .waiting _ deadline _ _ => some deadline
    | _ => none
  let stopping := match w.stopping with
    | some (.done, _) => []
    | some (_, deadline) => [deadline]
    | none => []
  (w.timers.map Prod.fst ++ exchange ++ calls ++ stopping).filter (w.now < ·)

def nextMoment? (w : World) : Option Nat :=
  w.deadlines.min?

def maxTurns : Nat := 100000

/-- Lets time pass until `finished` holds or nothing is left to wait for. -/
def runWhile (finished : World → Bool) : Nat → World → World
  | 0, w => w
  | fuel + 1, w =>
    let w := quiesce maxTurns w
    if finished w then w
    else match w.nextMoment? with
      | some t => runWhile finished fuel { w with now := t }
      | none => w

def runUntil (moment : Nat) : Nat → World → World
  | 0, w => w
  | fuel + 1, w =>
    let w := quiesce maxTurns w
    if moment ≤ w.now then w
    else match w.nextMoment? with
      | some t => runUntil moment fuel { w with now := min t moment }
      | none => runUntil moment fuel { w with now := moment }

end LspHost.Rehearsal.World
