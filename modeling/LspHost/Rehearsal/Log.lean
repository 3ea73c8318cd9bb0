import LspHost.ClientError
import LspHost.Trace
import LspHost.Wire.Frame

/-!
# What can be observed

Besides its results a client can be told by the messages that reach the server, the trace of the
server's notifications and the warnings that it logs.
-/

namespace LspHost.Rehearsal

inductive Warning where
  | handshakeFailed (e : ClientError)
  | shutdownFailed (reason : String)
  | shutdownTimedOut
  | filesNotSent (reason : String)
  | connectionClosed (c : Closure)
  | watcherError (text : String)
deriving Repr, DecidableEq

namespace Warning

def message : Warning → String
  | handshakeFailed _ => "language server handshake failed"
  | shutdownFailed _ => "shutdown request failed"
  | shutdownTimedOut => "shutdown request timed out"
  | filesNotSent _ => "didChangeWatchedFiles notification failed"
  | connectionClosed _ => "language server connection closed"
  | watcherError _ => "file watcher error"

def error? : Warning → Option String
  | handshakeFailed e => some e.message
  | shutdownFailed reason => some reason
  | shutdownTimedOut => none
  | filesNotSent reason => some reason
  | connectionClosed c => some c.text
  | watcherError text => some text

def toJson (w : Warning) : Json :=
  .obj [("error", (w.error?.map Json.str).getD .null), ("message", .str w.message)]

end Warning

structure Log where
  sent : List Json := []
  trace : List TraceEvent := []
  warnings : List Warning := []
deriving Repr

end LspHost.Rehearsal
