import LspHost.Rehearsal.World

/-!
# The server

The server does what its script says on each message it has received, at once or after a delay. Once
it has closed its side, nothing that it still had to say arrives.
-/

namespace LspHost.Rehearsal.World

def emit (w : World) (e : Emission) : World :=
  if w.serverOpen then
    { w with input := w.input ++ e.bytes, serverOpen := !e.closes, busy := true }
  else w

def scriptedReaction (w : World) (j : Json) : World :=
  match (j.get? "method").bind Json.str? with
  | none => w
  | some method =>
    let id := j.get? "id"
    let (b, script) := w.script.next method id.isSome
    let w := { w with script }
    let e := emission b id
    if method = "exit" ∧ b.closes then
      { w.emit (if b.delay = 0 then e else { e with bytes := [] }) with timers := [] }
    else if b.delay = 0 then w.emit e
    else { w with timers := w.timers ++ [(w.now + b.delay, e)] }

def serverReaction (w : World) (j : Json) : World :=
  match w.peer with
  | .scripted => w.scriptedReaction j
  | .echo => w.emit { bytes := frame j, closes := false }
  | .absent => w

def serverTurn (w : World) : World :=
  let due := w.timers.filter (·.1 ≤ w.now)
  let later := w.timers.filter (w.now < ·.1)
  let w := due.foldl (fun w (_, e) => w.emit e) { w with timers := later }
  let inbox := w.inbox
  inbox.foldl serverReaction { w with inbox := [], busy := w.busy || !inbox.isEmpty }

end LspHost.Rehearsal.World
