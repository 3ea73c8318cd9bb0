import LspHost.Lifecycle

/-!
# Errors

What can go wrong with a client, and the text each error is shown with. A failure of the operating
system keeps the system's own words and number; names that it could not even be asked about, because
a NUL byte would cut them short, are refused without a number.
-/

namespace LspHost

inductive SystemError where
  | notFound
  | permissionDenied
  | notDirectory
  | isDirectory
  | nameTooLong
  | tooManyLinks
  | nulInName
  | nulInCommand
deriving Repr, DecidableEq

namespace SystemError

def number? : SystemError → Option Nat
  | notFound => some 2
  | permissionDenied => some 13
  | notDirectory => some 20
  | isDirectory => some 21
  | nameTooLong => some 36
  | tooManyLinks => some 40
  | nulInName => none
  | nulInCommand => none

def words : SystemError → String
  | notFound => "No such file or directory"
  | permissionDenied => "Permission denied"
  | notDirectory => "Not a directory"
  | isDirectory => "Is a directory"
  | nameTooLong => "File name too long"
  | tooManyLinks => "Too many levels of symbolic links"
  | nulInName => "file name contained an unexpected NUL byte"
  | nulInCommand => "nul byte found in provided data"

def message (e : SystemError) : String :=
  match e.number? with
  | some n => e.words ++ " (os error " ++ toString n ++ ")"
  | none => e.words

end SystemError

/-- A span of time in nanoseconds. -/
structure Duration where
  nanoseconds : Nat
deriving Repr, DecidableEq

namespace Duration

def ofMillis (n : Nat) : Duration := ⟨n * 1000000⟩

def millis (d : Duration) : Nat := d.nanoseconds / 1000000

def dropZeros (cs : List Char) : List Char :=
  (cs.reverse.dropWhile (· = '0')).reverse

/-- The digits of `n` with the last `places` behind a point, without zeros at the end. -/
def decimal (n places : Nat) : String :=
  let whole := toString (n / Nat.pow 10 places)
  let rest := (toString (n % Nat.pow 10 places)).toList
  let fraction := dropZeros (List.replicate (places - rest.length) '0' ++ rest)
  if fraction = [] then whole else whole ++ "." ++ String.ofList fraction

/-- The number of the largest unit that is not greater than the span. -/
def text (d : Duration) : String :=
  let n := d.nanoseconds
  if n ≥ 1000000000 then decimal n 9 ++ "s"
  else if n ≥ 1000000 then decimal n 6 ++ "ms"
  else if n ≥ 1000 then decimal n 3 ++ "µs"
  else toString n ++ "ns"

end Duration

inductive ClientError where
  | serverStartFailed (reason : String)
  | initializationFailed (reason : String)
  | timeout (after : Duration)
  | requestFailed (reason : String)
  | notRunning (state : Lifecycle)
  | alreadyStarted
  | documentNotFound (reason : String)
  | watcher (reason : String)
  | invalidGlob (pattern reason : String)
  | killFailed (reason : String)
deriving Repr, DecidableEq

namespace ClientError

def message : ClientError → String
  | serverStartFailed reason => "failed to start language server: " ++ reason
  | initializationFailed reason => "language server initialization failed: " ++ reason
  | timeout after => "language server request timed out after " ++ after.text
  | requestFailed reason => "failed to send request to language server: " ++ reason
  | notRunning state => "language client is not running (state: " ++ state.text ++ ")"
  | alreadyStarted => "language client already started"
  | documentNotFound reason => "document not found: " ++ reason
  | watcher reason => "file watcher error: " ++ reason
  | invalidGlob pattern reason => "invalid glob pattern '" ++ pattern ++ "': " ++ reason
  | killFailed reason => "failed to terminate language server: " ++ reason

/-- The text of what caused the error, where that is an error of its own. -/
def source? : ClientError → Option String
  | killFailed reason => some reason
  | _ => none

end ClientError

/-- An error of the client or of input and output around it. -/
inductive HostError where
  | client (e : ClientError)
  | io (reason : String)
deriving Repr, DecidableEq

namespace HostError

def message : HostError → String
  | client e => "language client error: " ++ e.message
  | io reason => "IO error: " ++ reason

end HostError
end LspHost
