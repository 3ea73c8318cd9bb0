import LspHost.Json.Basic
import LspHost.Url.Basic

/-!
# The first request

What a client tells its server before anything else: who it is, which folder it works on and what it
can do.
-/

namespace LspHost.Protocol

def clientVersion : String := "0.1.0"

def off : Json := .bool false

def clientCapabilities : Json :=
  let static : Json := .obj [("dynamicRegistration", off)]
  .obj [
    ("workspace", .obj [("didChangeConfiguration", static), ("didChangeWatchedFiles", static)]),
    ("textDocument", .obj [
      ("synchronization", .obj [
        ("dynamicRegistration", off), ("willSave", off), ("willSaveWaitUntil", off),
        ("didSave", off)]),
      ("hover", .obj [
        ("dynamicRegistration", off), ("contentFormat", .arr [.str "markdown", .str "plaintext"])]),
      ("publishDiagnostics", .obj [("versionSupport", .bool true)])]),
    ("window", .obj [("workDoneProgress", .bool true)])]

def workspaceName (root : Path) : String :=
  (root.fileName?.bind Utf8.decode?).getD "workspace"

def initializeParams (process : Json) (clientId : String) (trace : Bool) (root : Path) (url : Url) :
    Json :=
  .obj [
    ("processId", process),
    ("rootUri", .null),
    ("capabilities", clientCapabilities),
    ("trace", .str (if trace then "verbose" else "off")),
    ("workspaceFolders", .arr [
      .obj [("uri", .str url.text), ("name", .str (workspaceName root))]]),
    ("clientInfo", .obj [("name", .str clientId), ("version", .str clientVersion)])]

end LspHost.Protocol
