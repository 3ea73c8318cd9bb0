import LspHost.FileTree.Resolve
import LspHost.Url.Basic

/-!
# Documents on disk

A document is known by the URL of its canonical path, so that all names of a file lead to the same
document. Its language is told by the extension of the name it was asked for.
-/

namespace LspHost.Document

def urlOfPath (t : FileTree) (p : Path) : Except ClientError Url := do
  let absolute ←
    if p.isAbsolute then .ok p
    else match t.currentDirectory with
      | .ok dir => .ok (dir.join p)
      | .error e =>
        .error (.documentNotFound ("failed to get current directory: " ++ e.message))
  match t.canonicalize absolute with
  | .error e =>
    .error (.documentNotFound ("failed to canonicalize path '" ++ p.text ++ "': " ++ e.message))
  | .ok canonical =>
    match Url.ofFilePath? canonical with
    | some url => .ok url
    | none => .error (.documentNotFound ("invalid path: " ++ canonical.text))

def readText (t : FileTree) (p : Path) : Except ClientError String :=
  let failed (reason : String) : Except ClientError String :=
    .error (.documentNotFound ("failed to read '" ++ p.text ++ "': " ++ reason))
  match t.readFile p with
  | .error e => failed e.message
  | .ok bytes => match Utf8.decode? bytes with
    | some text => .ok text
    | none => failed "stream did not contain valid UTF-8"

def languageOf (p : Path) : String :=
  if p.extension? = some (Utf8.encode "mar") then "margarine" else "plaintext"

end LspHost.Document
