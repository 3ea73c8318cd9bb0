import LspHost.FileEvent

/-!
# Forwarding batches of events

Batches wait in a queue until the session runs. The forwarder takes one in hand, adds whatever else
has come by then, and lets go of all of it as one merged list. Nothing is sent for an empty list.
-/

namespace LspHost

structure Forwarder where
  queue : List (List FileEvent) := []
  inHand : Option (List FileEvent) := none
deriving Repr, DecidableEq

namespace Forwarder

def enqueue (f : Forwarder) (batch : List FileEvent) : Forwarder :=
  { f with queue := f.queue ++ [batch] }

def take (f : Forwarder) : Forwarder :=
  match f.inHand, f.queue with
  | none, batch :: rest => { queue := rest, inHand := some batch }
  | _, _ => f

def gather (f : Forwarder) : Forwarder :=
  match f.inHand, f.queue with
  | some events, batch :: rest => { queue := rest, inHand := some (events ++ batch) }
  | _, _ => f

def gatherAll (f : Forwarder) : Forwarder :=
  f.queue.foldl (fun f _ => f.gather) f

/-- Lets go of what is in hand: the merged events to send, which may be none. -/
def release (f : Forwarder) : Forwarder × List FileEvent :=
  ({ f with inHand := none }, FileEvent.coalesce (f.inHand.getD []))

end Forwarder
end LspHost
