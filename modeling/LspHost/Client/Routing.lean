import LspHost.Client.Handshake
import LspHost.Trace

/-!
# What a client does with a message from its server

Notifications that are shown have to be well-formed; others are passed over. Of the requests only
the creation of a progress token is granted. Answers go to whoever waits for them.
-/

namespace LspHost

inductive Reaction where
  | shown (e : TraceEvent)
  | reply (r : Reply)
  | answer (id : MessageId) (outcome : Except RemoteError Json)
  | ignored
  | undecodable
deriving Repr

namespace Reaction

def token? (j : Json) : Option ProgressToken :=
  match j.get? "token" with
  | some (.int n) => some (.number n)
  | some (.str s) => some (.text s)
  | _ => none

/-- A message to show, by its severity and text. -/
def shownMessage? (t : TraceOutput) (name : String) (params : Json) : Option TraceEvent := do
  let j ← ((Protocol.messageParams name).decode params).toOption
  let kind ← (j.get? "type").bind Json.int?
  let text ← (j.get? "message").bind Json.str?
  some (t.message kind text)

def shownDiagnostics? (t : TraceOutput) (params : Json) : Option TraceEvent := do
  let j ← (Protocol.diagnosticsParams.decode params).toOption
  let url ← (j.get? "uri").bind Json.str?
  let items ← (j.get? "diagnostics").bind Json.arr?
  some (t.diagnostics url items.length ((j.get? "version").bind Json.int?))

def shownProgress? (t : TraceOutput) (params : Json) : Option TraceEvent := do
  let j ← (Protocol.progressParams.decode params).toOption
  let token ← token? j
  some (t.progress token)

def ofShown : Option TraceEvent → Reaction
  | some e => .shown e
  | none => .undecodable

def toNotification (t : TraceOutput) (method : String) (params : Json) : Reaction :=
  match method with
  | "window/logMessage" => ofShown (shownMessage? t "LogMessageParams" params)
  | "window/showMessage" => ofShown (shownMessage? t "ShowMessageParams" params)
  | "textDocument/publishDiagnostics" => ofShown (shownDiagnostics? t params)
  | "$/progress" => ofShown (shownProgress? t params)
  | _ => .ignored

def toRequest (method : String) (params : Json) : Except RemoteError Json :=
  if method = "window/workDoneProgress/create" then
    match Protocol.progressCreateParams.decode params with
    | .ok _ => .ok .null
    | .error m =>
      .error { code := -32602, message := "Failed to deserialize parameters: " ++ m.message }
  else .error { code := -32601, message := "No such method " ++ method }

def toIncoming (t : TraceOutput) : Incoming → Reaction
  | .request id method params => .reply { id, outcome := toRequest method params }
  | .response id outcome => .answer id outcome
  | .notification method params => toNotification t method params

end Reaction

def Client.traceOutput (c : Client) : TraceOutput :=
  { server := c.settings.name, enabled := c.settings.options.traceOutput }

end LspHost
