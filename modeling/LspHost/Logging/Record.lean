import LspHost.ClientError
import LspHost.Logging.Level
import LspHost.Path.Basic

/-!
# Log records

What a session of the command line leaves behind: a record of its beginning and its end, and of each
file that it was to open.
-/

namespace LspHost

structure LogRecord where
  level : Level
  message : String
  fields : List (String × String) := []
deriving Repr, DecidableEq

namespace LogRecord

/-- Where all these records come from. -/
def origin : String := "margarine_client"

def hasField (r : LogRecord) (name : String) : Bool :=
  name = "message" || r.fields.any (·.1 = name)

def ofOpened (file : Path) : Except ClientError Bool → LogRecord
  | .ok true => { level := .info, message := "opened document", fields := [("file", file.text)] }
  | .ok false =>
    { level := .info, message := "document not handled by this server"
      fields := [("file", file.text)] }
  | .error e =>
    { level := .warn, message := "failed to open document"
      fields := [("file", file.text), ("error", e.message)] }

def activating (extension workspace : Path) : LogRecord :=
  { level := .info, message := "activating"
    fields := [("extension_path", extension.text), ("workspace", workspace.text)] }

def running : LogRecord :=
  { level := .info, message := "session running, press Ctrl+C to stop" }

def deactivating : LogRecord :=
  { level := .info, message := "deactivating" }

end LogRecord
end LspHost
