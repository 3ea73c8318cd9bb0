import LspHost.CommandLine.Arguments
import LspHost.CommandLine.Failure
import LspHost.CommandLine.Files
import LspHost.CommandLine.Resolution
import LspHost.Launch.Activation
import LspHost.Logging.Filter
import LspHost.Rehearsal.Program
import LspHost.Rehearsal.Step

/-!
# Commands on a stage

A command line is carried out on a stage whose programs are known. A session goes on until it has
opened all its files and is then interrupted.
-/

namespace LspHost.Rehearsal

/-- What is left of a command that has ended. `started` is the world right after the server has
been started, and `sent` is everything that reached the server. -/
structure Finished where
  code : Nat := 0
  output : String := ""
  failure : Option Failure := none
  records : List LogRecord := []
  started : Option World := none
  sent : List Json := []

namespace Finished

def failed (f : Failure) (records : List LogRecord) : Finished :=
  { code := 1, failure := some f, records }

def refused (r : CommandLine.Refusal) : Finished :=
  { code := r.code, output := r.output }

/-- What cannot be written, or cut out of a text, ends the program abnormally. -/
def abnormal : Finished :=
  { code := 101 }

end Finished

namespace Stage

def resolve (s : Stage) (extension : Path) (json : Bool) : Finished :=
  let r := Resolution.resolve {} extension s.host s.tree
  if json then
    match r.reportText? with
    | some output => { output }
    | none => .abnormal
  else { output := r.line }

def session (s : Stage) (process : Json) (a : Activation) (files : List Path) : Finished :=
  let activating := LogRecord.activating a.extension a.workspace
  match s.launch process (a.start {} s.host s.tree) with
  | .error e => .failed (.activation e) [activating]
  | .ok started =>
    let (w, begun) := started.runStep (.call .waitReady)
    let (c, records) := w.client.openFiles w.tree files
    let (w, opened) := (w.setClient c).runStep (.sleep 0)
    let (_, ended) := w.runStep .stop
    { records := activating :: records ++ [.running, .deactivating]
      started := some started
      sent := begun.log.sent ++ opened.log.sent ++ ended.log.sent }

/-- The log filter of the environment or, if it has none that can be read, that of a level. -/
def logFilter (s : Stage) (level : Level) : Except Directive.Fault LogFilter :=
  match (s.host.get? (Utf8.encode "RUST_LOG")).bind Utf8.decode? with
  | none => .ok (.ofLevel level)
  | some text => match LogFilter.ofText text with
    | .error .illFormed => .ok (.ofLevel level)
    | read => read

/-- Carries out the arguments of a program that stands at `self`. -/
def command (s : Stage) (process : Json) (self : Path) (args : List Bytes) : Finished :=
  match CommandLine.ofArguments args with
  | .error r => .refused r
  | .ok line =>
    match CommandLine.levelOf? line.logLevel with
    | none => .failed (.unknownLevel line.logLevel) []
    | some level =>
      match s.logFilter level with
      | .error _ => .abnormal
      | .ok logFilter =>
        let home (extension : Option Path) : Path :=
          extension.getD (self.parent?.getD (.ofString "."))
        match line.command with
        | .resolve extension json => s.resolve (home extension) json
        | .run extension workspace debug files =>
          match s.tree.canonicalize workspace with
          | .error e => .failed (.workspace workspace e) []
          | .ok workspace =>
            let done := s.session process { extension := home extension, workspace, debug } files
            let shown := done.records.filter logFilter.shows
            { done with records := if line.logJson then shown else [] }

end Stage
end LspHost.Rehearsal
