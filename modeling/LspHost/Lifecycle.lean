/-!
# The life of a client

A client is idle until it is started, runs once its server has answered, fails when the server does
not or when the connection ends, and stays stopped after it has been stopped.
-/

namespace LspHost

inductive Lifecycle where
  | idle
  | starting
  | running
  | failed
  | stopped
deriving Repr, DecidableEq

namespace Lifecycle

def text : Lifecycle → String
  | idle => "idle"
  | starting => "starting"
  | running => "running"
  | failed => "failed"
  | stopped => "stopped"

def label : Lifecycle → String
  | idle => "Idle"
  | starting => "Starting"
  | running => "Running"
  | failed => "Failed"
  | stopped => "Stopped"

def isActive : Lifecycle → Bool
  | starting => true
  | running => true
  | _ => false

end Lifecycle
end LspHost
