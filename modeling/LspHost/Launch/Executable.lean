import LspHost.Launch.Config
import LspHost.Text.Quoted

/-!
# Executables

What is run as the server: a command, its arguments and its environment. Variables are kept in the
order of their names, each once, and those of the executable win over the host's. On a host and in a
directory, an executable becomes what the system is asked to run.
-/

namespace LspHost

/-- Names and values in the order of the names, each name once. -/
structure Environment where
  vars : List (Bytes × Bytes)
  sorted : vars.Pairwise (·.1 < ·.1)
deriving Repr, DecidableEq

namespace Environment

def empty : Environment := ⟨[], .nil⟩

def insertVar (key value : Bytes) : List (Bytes × Bytes) → List (Bytes × Bytes)
  | [] => [(key, value)]
  | (k, v) :: rest =>
    if key = k then (key, value) :: rest
    else if key < k then (key, value) :: (k, v) :: rest
    else (k, v) :: insertVar key value rest

theorem mem_of_mem_insertVar {key value : Bytes} {vars : List (Bytes × Bytes)} {x : Bytes × Bytes}
    (h : x ∈ insertVar key value vars) : x.1 = key ∨ x ∈ vars := by
  fun_induction insertVar key value vars <;> grind

theorem sorted_insertVar (key value : Bytes) {vars : List (Bytes × Bytes)}
    (h : vars.Pairwise (·.1 < ·.1)) : (insertVar key value vars).Pairwise (·.1 < ·.1) := by
  induction vars with
  | nil => exact List.pairwise_singleton ..
  | cons var rest ih =>
    obtain ⟨k, v⟩ := var
    obtain ⟨hfirst, hrest⟩ := List.pairwise_cons.mp h
    rw [insertVar]
    split
    · next hsame => exact List.pairwise_cons.mpr ⟨hsame ▸ hfirst, hrest⟩
    · next hne =>
      split
      · next hlt =>
        refine List.pairwise_cons.mpr ⟨List.forall_mem_cons.mpr ⟨hlt, fun x hx => ?_⟩, h⟩
        exact List.lt_trans hlt (hfirst x hx)
      · next hge =>
        have hlt : k < key := Std.lt_of_le_of_ne (List.not_lt.mp hge) (Ne.symm hne)
        refine List.pairwise_cons.mpr ⟨fun x hx => ?_, ih hrest⟩
        rcases mem_of_mem_insertVar hx with hkey | hx
        · exact hkey ▸ hlt
        · exact hfirst x hx

def insert (e : Environment) (key value : Bytes) : Environment :=
  ⟨insertVar key value e.vars, sorted_insertVar key value e.sorted⟩

def get? (e : Environment) (key : Bytes) : Option Bytes :=
  e.vars.lookup key

def ofList (vars : List (Bytes × Bytes)) : Environment :=
  vars.foldl (fun e (k, v) => e.insert k v) empty

def override (e extra : Environment) : Environment :=
  extra.vars.foldl (fun e (k, v) => e.insert k v) e

end Environment

/-- What the system is asked to run: a program with its arguments and its whole environment, in a
directory. -/
structure Invocation where
  program : String
  args : List String
  env : Environment
  dir : Path
deriving Repr, DecidableEq

structure Executable where
  command : String
  args : List String := []
  env : Environment := .empty
  inheritEnv : Bool := false
deriving Repr, DecidableEq

namespace Executable

def addArgs (x : Executable) (args : List String) : Executable :=
  { x with args := x.args ++ args }

def setEnv (x : Executable) (key value : String) : Executable :=
  { x with env := x.env.insert (Utf8.encode key) (Utf8.encode value) }

/-- Runs in the host's environment with the server's log turned on. -/
def inherited (command : String) (config : Config) : Executable :=
  setEnv { command, inheritEnv := true } config.logEnv config.logLevel

def effectiveEnv (x : Executable) (host : Environment) : Environment :=
  (if x.inheritEnv then host else .empty).override x.env

def invocation (x : Executable) (host : Environment) (dir : Path) : Invocation :=
  { program := x.command, args := x.args, env := x.effectiveEnv host, dir }

def debugText (x : Executable) : String :=
  let args := ", ".intercalate (x.args.map Quoted.ofString)
  let env := ", ".intercalate
    (x.env.vars.map fun (k, v) => Quoted.ofBytes k ++ ": " ++ Quoted.ofBytes v)
  "Executable \x7b command: " ++ Quoted.ofString x.command ++ ", args: [" ++ args ++
    "], env: \x7b" ++ env ++ "\x7d, inherit_env: " ++ (if x.inheritEnv then "true" else "false") ++
    " \x7d"

end Executable

/-- The executables of an ordinary session and of one in debug mode. -/
structure ServerOptions where
  run : Executable
  debug : Executable
deriving Repr, DecidableEq

namespace ServerOptions

def same (x : Executable) : ServerOptions :=
  { run := x, debug := x }

def select (o : ServerOptions) (debugMode : Bool) : Executable :=
  if debugMode then o.debug else o.run

def debugText (o : ServerOptions) : String :=
  "ServerOptions \x7b run: " ++ o.run.debugText ++ ", debug: " ++ o.debug.debugText ++ " \x7d"

end ServerOptions

def Config.serverOptions (c : Config) (command : String) : ServerOptions :=
  .same (.inherited command c)

end LspHost
