import LspHost.Client.Handshake

/-!
# Stopping

Stopping breaks off the first exchange and the forwarding of events at once. A server that was
running is asked to shut down; every server that can still be reached is told to exit. Then the
process and the connection get some time each, after which they are ended by force. Only a process
that cannot be ended makes stopping fail.
-/

namespace LspHost

/-- What stopping waits for, or what it has come to. -/
inductive StopStage where
  | shutdown (id : Nat)
  | exit
  | process
  | kill
  | connection
  | done
  | failed (e : ClientError)
deriving Repr, DecidableEq

def StopStage.result? : StopStage → Option (Except ClientError Unit)
  | done => some (.ok ())
  | failed e => some (.error e)
  | _ => none

/-- What has become of the thing waited for. Waiting fails where the system refuses to wait for the
process or to end it. -/
inductive Wait where
  | happened
  | expired
  | failed (reason : String)
deriving Repr, DecidableEq

/-- What is left of an exchange that is broken off. From its answer on it waits for nothing until it
is over, so that it may be on its way there and cannot be held up. -/
def Handshake.brokenOff : Handshake → Handshake
  | announced capabilities => announced capabilities
  | recorded => recorded
  | _ => ended

def Session.brokenOff (s : Session) : Session :=
  { s with handshake := s.handshake.brokenOff, forwarder := none, watcher := none }

namespace Client

def stageAfterExit (c : Client) : StopStage :=
  match c.session with
  | none => .done
  | some s => if s.child.isSome then .process else .connection

/-- The first step: the client is stopped from here on. -/
def beginStop (c : Client) : Client × StopStage :=
  let wasRunning := c.life = .running
  let c := { c.editSession Session.brokenOff with life := .stopped }
  if c.session.isNone then (c, .done)
  else if wasRunning then
    match c.handRequest .shutdown with
    | some (c, id) => (c, .shutdown id)
    | none => (c, .exit)
  else (c, .exit)

def setChild (c : Client) (child : Child) : Client :=
  c.editSession fun s => { s with child := some child }

/-- The step after a wait. `exit` waits for nothing, and ending the process has no limit of time. A
process that cannot be waited for is let go of, which ends it. -/
def advanceStop (c : Client) : StopStage → Wait → Client × StopStage
  | .shutdown _, _ => (c, .exit)
  | .exit, _ => let c := c.handNotification .exit; (c, c.stageAfterExit)
  | .process, .happened => (c.setChild .exited, .connection)
  | .process, .failed _ => (c.setChild .killed, .connection)
  | .process, .expired => (c, .kill)
  | .kill, .failed reason => (c, .failed (.killFailed reason))
  | .kill, _ => (c.setChild .killed, .connection)
  | .connection, _ => (c.disconnect, .done)
  | .done, _ => (c, .done)
  | .failed e, _ => (c, .failed e)

end Client
end LspHost
