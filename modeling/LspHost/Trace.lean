import LspHost.Json.Basic
import LspHost.Logging.Level
import LspHost.Text.Quoted

/-!
# Trace output

Messages, diagnostics and progress from the server are shown as events with a level and fields. With
the output turned off, messages are still there but at the lowest level.
-/

namespace LspHost

structure TraceOutput where
  server : String
  enabled : Bool
deriving Repr, DecidableEq

inductive ProgressToken where
  | number (n : Int)
  | text (s : String)
deriving Repr, DecidableEq

def ProgressToken.shown : ProgressToken → String
  | number n => "Number(" ++ toString n ++ ")"
  | text s => "String(" ++ Quoted.ofString s ++ ")"

inductive TraceEvent where
  | message (level : Level) (server text : String)
  | diagnostics (server url : String) (count : Nat) (version : Option Int)
  | progress (server : String) (token : ProgressToken)
deriving Repr, DecidableEq

namespace TraceEvent

def toJson : TraceEvent → Json
  | message level server text =>
    .obj [("level", .str level.text), ("message", .str text), ("server", .str server)]
  | diagnostics server url count version =>
    let shown := match version with
      | none => "None"
      | some v => "Some(" ++ toString v ++ ")"
    .obj [("count", .int count), ("level", .str Level.debug.text),
      ("message", .str "diagnostics published"), ("server", .str server), ("uri", .str url),
      ("version", .str shown)]
  | progress server token =>
    .obj [("level", .str Level.trace.text), ("message", .str "progress"), ("server", .str server),
      ("token", .str token.shown)]

end TraceEvent

namespace TraceOutput

def levelOf (kind : Int) : Level :=
  if kind = 1 then .error
  else if kind = 2 then .warn
  else if kind = 3 then .info
  else .debug

def message (t : TraceOutput) (kind : Int) (text : String) : TraceEvent :=
  .message (if t.enabled then levelOf kind else .trace) t.server text

def diagnostics (t : TraceOutput) (url : String) (count : Nat) (version : Option Int) :
    TraceEvent :=
  .diagnostics t.server url count version

def progress (t : TraceOutput) (token : ProgressToken) : TraceEvent :=
  .progress t.server token

end TraceOutput
end LspHost
