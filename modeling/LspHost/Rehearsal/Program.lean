import LspHost.Launch.Search
import LspHost.Rehearsal.World

/-!
# Programs that can be started

A rehearsal knows what some programs do: the scripted server, and a few that print something, copy
what they read or just end. Every other program ends at once without a word.
-/

namespace LspHost.Rehearsal

inductive Program where
  | server
  | copier
  | quiet (code : Nat)
  | echo
  | environment
  | directory
deriving Repr, DecidableEq

structure Ended where
  code : Nat
  output : Bytes
deriving Repr

/-- The host that programs are started on, and which programs stand where. -/
structure Stage where
  tree : FileTree
  host : Environment
  programs : List (Place × Program)
  script : Script := {}
deriving Repr

namespace Program

def newline : UInt8 := 0x0A

def environmentLine (v : Bytes × Bytes) : Bytes :=
  v.1 ++ Utf8.encode "=" ++ v.2 ++ [newline]

/-- The program's run to its end, when it has nothing to read. -/
def run (p : Program) (i : Invocation) : Ended :=
  match p with
  | echo => ⟨0, Utf8.encode (" ".intercalate i.args) ++ [newline]⟩
  | environment => ⟨0, i.env.vars.flatMap environmentLine⟩
  | directory => ⟨0, i.dir.bytes ++ [newline]⟩
  | quiet code => ⟨code, []⟩
  | _ => ⟨0, []⟩

def peer : Program → Peer
  | server => .scripted
  | copier => .echo
  | _ => .absent

end Program

namespace Stage

def program? (s : Stage) (i : Invocation) : Except SystemError Program :=
  (i.program? s.tree).map fun place =>
    ((s.programs.find? (·.1 = place)).map Prod.snd).getD (.quiet 0)

/-- A program finds itself in the directory that the given one leads to. -/
def run (s : Stage) (x : Executable) (dir : Path) : Except SystemError Ended := do
  let program ← s.program? (x.invocation s.host dir)
  let here := (s.tree.canonicalize dir).toOption.getD dir
  .ok (program.run (x.invocation s.host here))

/-- Starts a client with a server process. What is not a server says at once what it has to say. -/
def launch (s : Stage) (process : Json)
    (start : (Invocation → Except SystemError Unit) → Except ClientError Client) :
    Except ClientError World := do
  let client ← start fun i => (s.program? i).map fun _ => ()
  let root := ((client.session.map (·.root)).getD default)
  let invocation := client.executable.invocation s.host root
  let program := ((s.program? invocation).toOption).getD (.quiet 0)
  .ok { tree := s.tree, client, process, peer := program.peer, script := s.script
        serverExists := true, serverOpen := program.peer ≠ .absent
        input := (program.run invocation).output }

end Stage
end LspHost.Rehearsal
