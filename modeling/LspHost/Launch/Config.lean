import LspHost.Selector

/-!
# Configuration

How a client finds its server, which documents it forwards and how long it waits. Everything has a
default, and the options of a client are read off its configuration.
-/

namespace LspHost

structure Config where
  serverPathEnv : String := "SERVER_PATH"
  serverBinary : String := "margarine-lsp"
  clientId : String := "margarine-lsp"
  clientName : String := "Margarine language server"
  documentScheme : String := "file"
  languageId : String := "margarine"
  watchedGlob : String := "**/.clientrc"
  logEnv : String := "RUST_LOG"
  logLevel : String := "debug"
  initTimeout : Duration := .ofMillis 30000
  stopTimeout : Duration := .ofMillis 2000
  requestTimeout : Duration := .ofMillis 10000
  watchDebounce : Duration := .ofMillis 200
deriving Repr, DecidableEq

namespace Config

/-- The name of the server's file; binaries have no suffix here. -/
def serverFileName (c : Config) : String :=
  c.serverBinary

end Config

/-- Workspace files whose changes are reported, and how long changes are gathered. -/
structure FileSync where
  glob : String
  debounce : Duration := .ofMillis 200
deriving Repr, DecidableEq

structure Timeouts where
  init : Duration := .ofMillis 30000
  stop : Duration := .ofMillis 2000
  request : Duration := .ofMillis 10000
deriving Repr, DecidableEq

structure ClientOptions where
  selector : DocumentSelector := {}
  synchronize : Option FileSync := none
  traceOutput : Bool := false
deriving Repr, DecidableEq

namespace Config

def timeouts (c : Config) : Timeouts :=
  { init := c.initTimeout, stop := c.stopTimeout, request := c.requestTimeout }

def clientOptions (c : Config) : ClientOptions :=
  { selector :=
      { filters := [{ scheme := some c.documentScheme, language := some c.languageId }] }
    synchronize := some { glob := c.watchedGlob, debounce := c.watchDebounce }
    traceOutput := true }

end Config
end LspHost
