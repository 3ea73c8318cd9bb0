import LspHost.ClientError
import LspHost.Path.Basic
import LspHost.Text.LowerCase

/-!
# Failures

A failure is shown with what caused it, one cause below the other. More than one cause are counted,
and further lines of a text stand below its first one.
-/

namespace LspHost

/-- The texts of an error and of what caused it, from the outside in. -/
def HostError.chain : HostError → List String
  | .client e => (HostError.client e).message :: e.message :: e.source?.toList
  | .io reason => [(HostError.io reason).message, reason]

structure Failure where
  message : String
  causes : List String := []
deriving Repr, DecidableEq

namespace Failure

/-- The lines of a text behind a beginning as wide as `margin`. -/
def hang (beginning margin : String) (text : String) : List String :=
  match text.splitOn "\n" with
  | [] => []
  | first :: rest => (beginning ++ first) :: rest.map (margin ++ ·)

def countedCauses : Nat → List String → List String
  | _, [] => []
  | n, cause :: rest =>
    let number := toString n
    let beginning := String.ofList (List.replicate (5 - number.length) ' ') ++ number ++ ": "
    hang beginning "       " cause ++ countedCauses (n + 1) rest

def lines (f : Failure) : List String :=
  hang "Error: " "" f.message ++
    match f.causes with
    | [] => []
    | [cause] => "" :: "Caused by:" :: hang "    " "    " cause
    | causes => "" :: "Caused by:" :: countedCauses 0 causes

def unknownLevel (word : String) : Failure :=
  { message := "invalid log level: " ++ lowerCase word }

def workspace (p : Path) (e : SystemError) : Failure :=
  { message := "failed to canonicalize workspace path: " ++ p.text, causes := [e.message] }

def activation (e : ClientError) : Failure :=
  { message := "failed to activate language client", causes := (HostError.client e).chain }

end Failure
end LspHost
