import LspHost.Client.Calls
import LspHost.Logging.Record

/-!
# Opening the files of a command line

The files are opened one after another, and each leaves a record of what became of it. A file that
cannot be opened does not keep the others from being opened.
-/

namespace LspHost

def Client.openFiles (c : Client) (t : FileTree) : List Path → Client × List LogRecord
  | [] => (c, [])
  | file :: rest =>
    let (c, opened) := c.openFile t file
    let (c, records) := openFiles c t rest
    (c, .ofOpened file opened :: records)

end LspHost
