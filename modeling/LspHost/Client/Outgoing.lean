import LspHost.FileEvent
import LspHost.Json.Basic

/-!
# Messages to the server

Requests and notifications that a client originates. A request carries the number under which its
answer will come; a message without parameters has no member for them.
-/

namespace LspHost

inductive Outgoing where
  | initializeRequest (id : Nat) (params : Json)
  | initialized
  | didOpen (url : Url) (language : String) (version : Int32) (text : String)
  | didChange (url : Url) (version : Int32) (text : String)
  | didClose (url : Url)
  | filesChanged (events : List FileEvent)
  | request (id : Nat) (method : String) (params : Json)
  | shutdown (id : Nat)
  | exit
deriving Repr

namespace Outgoing

def method : Outgoing → String
  | initializeRequest _ _ => "initialize"
  | initialized => "initialized"
  | didOpen _ _ _ _ => "textDocument/didOpen"
  | didChange _ _ _ => "textDocument/didChange"
  | didClose _ => "textDocument/didClose"
  | filesChanged _ => "workspace/didChangeWatchedFiles"
  | request _ method _ => method
  | shutdown _ => "shutdown"
  | exit => "exit"

def id? : Outgoing → Option Nat
  | initializeRequest id _ => some id
  | request id _ _ => some id
  | shutdown id => some id
  | _ => none

def uri (url : Url) : String × Json :=
  ("uri", .str url.text)

def eventJson (e : FileEvent) : Json :=
  .obj [uri e.url, ("type", .int e.kind.toInt)]

def params : Outgoing → Json
  | initializeRequest _ params => params
  | initialized => .obj []
  | didOpen url language version text =>
    .obj [("textDocument", .obj [uri url, ("languageId", .str language),
      ("version", .int version.toInt), ("text", .str text)])]
  | didChange url version text =>
    .obj [("textDocument", .obj [uri url, ("version", .int version.toInt)]),
      ("contentChanges", .arr [.obj [("text", .str text)]])]
  | didClose url => .obj [("textDocument", .obj [uri url])]
  | filesChanged events => .obj [("changes", .arr (events.map eventJson))]
  | request _ _ params => params
  | shutdown _ => .null
  | exit => .null

def toJson (m : Outgoing) : Json :=
  let id := (m.id?.map fun n => ("id", Json.int n)).toList
  let params := if m.params.isNull then [] else [("params", m.params)]
  .obj (id ++ ("method", .str m.method) :: params)

end Outgoing
end LspHost
