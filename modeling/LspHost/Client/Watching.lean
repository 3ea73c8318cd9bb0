import LspHost.Client.Handshake

/-!
# Watched files

What the watcher of a client reports waits in a queue for the forwarder, as long as there is one. It
goes away when the first exchange fails, when the client is stopped and when an event could not be
sent.
-/

namespace LspHost.Client

def takesEvents (c : Client) : Bool :=
  c.session.any (·.forwarder.isSome)

def queueEvents (c : Client) (events : List FileEvent) : Client :=
  c.editSession fun s => { s with forwarder := s.forwarder.map (·.enqueue events) }

def notice (c : Client) (t : FileTree) (notices : List Notice) : Client :=
  match (c.session.bind (·.watcher)).bind (·.handle t notices) with
  | some events => c.queueEvents events
  | none => c

/-- Gives the session a queue for events from outside. -/
def openQueue (c : Client) : Client :=
  c.editSession fun s => { s with forwarder := some {} }

end LspHost.Client
