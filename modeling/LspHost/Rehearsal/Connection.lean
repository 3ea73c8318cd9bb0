import LspHost.Client.Routing
import LspHost.Rehearsal.World

/-!
# The connection

In its turn the connection first passes on what has been handed over and then reads all that has
arrived. A message that cannot be read ends it, and one that cannot be held ends it without anybody
being told.
-/

namespace LspHost.Rehearsal.World

def deliver (w : World) (j : Json) : World :=
  { w with
    inbox := w.inbox ++ [j]
    log := { w.log with sent := w.log.sent ++ [j] }
    busy := true }

def passOn (w : World) : World :=
  let fresh := w.client.wire.drop w.passedOn
  let w := fresh.foldl (fun w m => w.deliver m.toJson) w
  { w with passedOn := w.client.wire.length }

/-- The connection is over, and the client learns of it. -/
def closeConnection (w : World) (c : Closure) : World :=
  (w.setClient w.client.disconnect.markFailed).warn (.connectionClosed c)

/-- Keeps an answer for the request that waits for it; only the first one counts. -/
def keepAnswer (w : World) (id : MessageId) (outcome : Except RemoteError Json) : World :=
  match id with
  | .number n =>
    let next := (w.client.session.map (·.nextId)).getD 0
    if 0 ≤ n ∧ n < next ∧ (w.answer? n.toNat).isNone then
      { w with answers := w.answers ++ [(n.toNat, outcome)] }
    else w
  | .text _ => w

def react (w : World) (m : Incoming) : World :=
  match Reaction.toIncoming w.client.traceOutput m with
  | .shown e => { w with log := { w.log with trace := w.log.trace ++ [e] } }
  | .reply r => w.deliver r.toJson
  | .answer id outcome => w.keepAnswer id outcome
  | .ignored => w
  | .undecodable => w.closeConnection .deserialize

def readInput : Nat → World → World
  | 0, w => w
  | fuel + 1, w =>
    if !w.client.isConnected then w
    else match Frame.read (!w.serverOpen) w.input with
      | .waiting => w
      | .broken c => w.closeConnection c
      | .overlong => w.setClient w.client.disconnect
      | .body bytes rest =>
        let w := { w with input := rest, busy := true }
        match Incoming.ofBytes? bytes with
        | some m => readInput fuel (w.react m)
        | none => w.closeConnection .deserialize

def connectionTurn (w : World) : World :=
  if w.client.isConnected then
    let w := w.passOn
    readInput (w.input.length + 1) w
  else w

end LspHost.Rehearsal.World
