import LspHost.Rehearsal.World

/-!
# The first exchange and the forwarding of events

Both go on as far as they can in one turn: from the first request to the running client, and from
the batches that have come to one message.
-/

namespace LspHost.Rehearsal.World

def failHandshake (w : World) (e : ClientError) : World :=
  (w.setClient w.client.failHandshake).warn (.handshakeFailed e)

def initializeFailed (reason : String) : ClientError :=
  .initializationFailed ("initialize request failed: " ++ reason)

def finishHandshake (w : World) (capabilities : Json) : World :=
  let c := w.client.announce capabilities
  if w.client.isConnected then w.setClient c.recordCapabilities.promote
  else w.failHandshake (.initializationFailed
    ("initialized notification failed: " ++ Documents.serviceStopped))

def awaitInitialize (w : World) (id : Nat) : World :=
  match w.answer? id with
  | some a =>
    match decodeAnswer Protocol.initializeResult a with
    | .ok result => w.finishHandshake ((result.get? "capabilities").getD .null)
    | .error e => w.failHandshake (initializeFailed e.text)
  | none =>
    if !w.client.isConnected then w.failHandshake (initializeFailed RequestFailure.stopped.text)
    else if w.initDeadline ≤ w.now then
      w.failHandshake (.timeout w.client.settings.timeouts.init)
    else w

def forwardEvents (w : World) (s : Session) : World :=
  match s.forwarder with
  | some f =>
    if f.queue = [] then w
    else
      let (f, events) := f.take.gatherAll.release
      let c := w.client.editSession fun s => { s with forwarder := some f }
      let lost := events ≠ [] ∧ !c.isConnected
      let w := w.setClient (c.forward events)
      if lost then w.warn (.filesNotSent Documents.serviceStopped) else w
  | none => w

def exchangeTurn (w : World) : World :=
  match w.client.session with
  | some s =>
    match s.handshake with
    | .unsent =>
      if s.connected then
        let w := { w.setClient (w.client.sendInitialize w.process) with
          initDeadline := w.now + w.client.settings.timeouts.init.millis }
        w.awaitInitialize s.nextId
      else w.failHandshake (initializeFailed RequestFailure.stopped.text)
    | .waiting id => w.awaitInitialize id
    | .forwarding => w.forwardEvents s
    | _ => w
  | none => w

end LspHost.Rehearsal.World
