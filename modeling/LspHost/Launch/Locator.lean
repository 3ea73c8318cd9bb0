import LspHost.FileTree.Resolve
import LspHost.Launch.Executable
import LspHost.Path.Normal

/-!
# Finding the server

An extension is installed two levels below the directory that builds go to. An override comes first,
then a release build, then a debug build, and the bare name is left to the search path. A probe that
fails ends the search.
-/

namespace LspHost

inductive Sighting where
  | present
  | absent
  | unknown
deriving Repr, DecidableEq

structure Locator where
  release : Path
  debug : Path
  fallback : String
  overrideEnv : String
deriving Repr, DecidableEq

namespace Locator

/-- Asks for the candidates in turn, up to the first that is present or unknown. -/
def search {m : Type → Type} [Monad m] (fallback : String) (probe : Path → m Sighting) :
    List Path → m String
  | [] => pure fallback
  | p :: rest => do
    match ← probe p with
    | .present => pure p.text
    | .absent => search fallback probe rest
    | .unknown => pure fallback

def choose {m : Type → Type} [Monad m] (override : Option String) (release debug : Path)
    (fallback : String) (probe : Path → m Sighting) : m String :=
  match override with
  | some command => pure command
  | none => search fallback probe [release, debug]

def ofExtension (extension : Path) (config : Config) : Locator :=
  let up : Path := ⟨[Path.dot, Path.dot]⟩
  let target := ((extension.join up).join up).normalize.join (.ofString "target")
  let file := Path.ofString config.serverFileName
  { release := (target.join (.ofString "release")).join file
    debug := (target.join (.ofString "debug")).join file
    fallback := config.serverBinary
    overrideEnv := config.serverPathEnv }

def resolveWith {m : Type → Type} [Monad m] (l : Locator) (override : Option String)
    (probe : Path → m Sighting) : m String :=
  choose override l.release l.debug l.fallback probe

/-- The override in an environment: text that is not empty. -/
def override? (l : Locator) (host : Environment) : Option String :=
  ((host.get? (Utf8.encode l.overrideEnv)).bind Utf8.decode?).filter (· ≠ "")

def sight (t : FileTree) (p : Path) : Sighting :=
  match t.probe p with
  | .ok true => .present
  | .ok false => .absent
  | .error _ => .unknown

/-- The server's command by what the environment and the probes say. -/
def find {m : Type → Type} [Monad m] (l : Locator) (host : Environment)
    (probe : Path → m Sighting) : m String :=
  l.resolveWith (l.override? host) probe

def resolve (l : Locator) (host : Environment) (t : FileTree) : String :=
  Id.run (l.find host fun p => pure (sight t p))

end Locator
end LspHost
