import LspHost.Client.Watching
import LspHost.Rehearsal.Time
import LspHost.Watch.Observation

/-!
# Rehearsals

A rehearsal is a list of steps, each of which is done by the host, by the server or by the world
around them. A step lasts until what it asks for is over. After it a millisecond passes, so that
everything that follows from it at once has happened when the state is looked at.
-/

namespace LspHost.Rehearsal

inductive Step where
  | start (root : Path) (takesEvents : Bool)
  | call (op : Op)
  | concurrently (ops : List Op)
  | stop
  | sleep (millis : Nat)
  | edit (e : FileTree.Edit)
  | editWatched (e : FileTree.Edit)
  | awaitFiles
  | serverSends (bytes : Bytes)
  | serverCloses
  | events (batches : List (List FileEvent))
  | endEvents
  | notices (batches : List (List Notice))
  | watcherErrors (errors : List String)
deriving Repr

/-- Whether a step is taken through the client, which is gone once it has been stopped. -/
def Step.needsClient : Step → Bool
  | start _ _ => true
  | call _ => true
  | concurrently _ => true
  | stop => true
  | _ => false

inductive Refusal where
  | noClient
  | noServer
  | noChannel
  | channelClosed
deriving Repr, DecidableEq

inductive Result where
  | value (j : Json)
  | failed (e : ClientError)
  | several (results : List CallResult)
  | told (events : List FileEvent)
  | refused (r : Refusal)
deriving Repr

namespace Result

def done : Result := value .null

def ofCall : CallResult → Result
  | .ok j => value j
  | .error e => failed e

end Result

/-- What is observed of a step. -/
structure Report where
  result : Result
  life : Lifecycle
  elapsed : Nat
  log : Log
deriving Repr

namespace World

def start (w : World) (root : Path) (takesEvents : Bool) : World × Result :=
  match w.client.start { tree := w.tree, root } with
  | (c, .error e) => (w.setClient c, .failed e)
  | (c, .ok ()) =>
    ({ w.setClient (if takesEvents then c.openQueue else c) with
      serverExists := true, channelOpen := takesEvents }, .done)

def runCalls (w : World) (ops : List Op) : World × List CallResult :=
  let w := runWhile (fun w => w.calls.all fun c => c.result?.isSome) maxTurns
    { w with calls := ops.map .begun }
  ({ w with calls := [] }, w.calls.filterMap Call.result?)

def call (w : World) (op : Op) : World × Result :=
  let (w, results) := w.runCalls [op]
  (w, (results.head?.map Result.ofCall).getD .done)

def stopResult? (w : World) : Option (Except ClientError Unit) :=
  w.stopping.bind (·.1.result?)

def isStopped (w : World) : Bool :=
  w.stopResult?.isSome

def stop (w : World) : World × Result :=
  let w := runWhile isStopped maxTurns w.beginStop.stopTurn
  (w, match w.stopResult? with
    | some (.error e) => .failed e
    | _ => .done)

def byServer (w : World) (e : Emission) : World × Result :=
  if w.serverExists then (w.emit e, .done) else (w, .refused .noServer)

def queueBatches (w : World) (batches : List (List FileEvent)) : World × Result :=
  if !w.channelOpen then (w, .refused .noChannel)
  else if w.client.takesEvents then (w.setClient (batches.foldl Client.queueEvents w.client), .done)
  else (w, .refused .channelClosed)

def noticeErrors (w : World) (errors : List String) : World :=
  if w.client.session.any (·.watcher.isSome) then
    errors.foldl (fun w text => w.warn (.watcherError text)) w
  else w

def editWatched (w : World) (e : FileTree.Edit) : World :=
  let seen := match w.client.session.bind (·.watcher) with
    | some watcher => watcher.observe w.tree e
    | none => []
  { w with tree := w.tree.apply e, unreported := w.unreported ++ seen }

/-- All file events that the server has been told of. -/
def toldEvents (w : World) : List FileEvent :=
  (w.client.wire.take w.passedOn).flatMap fun
    | .filesChanged events => events
    | _ => []

/-- Waits until what the watcher has seen is reported, all of it at once, and has been told. -/
def awaitFiles (w : World) : World × Result :=
  let w := { w.setClient (w.client.notice w.tree w.unreported) with unreported := [] }
  let w := quiesce maxTurns w
  (w, .told w.toldEvents)

def take (w : World) (s : Step) : World × Result :=
  if s.needsClient ∧ w.consumed then (w, .refused .noClient)
  else match s with
    | .start root takesEvents => w.start root takesEvents
    | .call op => w.call op
    | .concurrently ops => (w.runCalls ops).map id .several
    | .stop => w.stop
    | .sleep millis => (runUntil (w.now + millis) maxTurns w, .done)
    | .edit e => ({ w with tree := w.tree.apply e }, .done)
    | .editWatched e => (w.editWatched e, .done)
    | .awaitFiles => w.awaitFiles
    | .serverSends bytes => w.byServer { bytes, closes := false }
    | .serverCloses => w.byServer { bytes := [], closes := true }
    | .events batches => w.queueBatches batches
    | .endEvents => ({ w with channelOpen := false }, .done)
    | .notices batches =>
      (w.setClient (batches.foldl (fun c notices => c.notice w.tree notices) w.client), .done)
    | .watcherErrors errors => (w.noticeErrors errors, .done)

def settle (w : World) : World :=
  runUntil (w.now + 1) maxTurns w

/-- The state that a host sees, who has no client any more once it is stopped. -/
def life (w : World) : Lifecycle :=
  if w.consumed then .stopped else w.client.life

def runStep (w : World) (s : Step) : World × Report :=
  let begun := w.now
  let (w, result) := take { w with log := {} } s
  let elapsed := w.now - begun
  let w := w.settle
  (w, { result, life := w.life, elapsed, log := w.log })

def run (w : World) : List Step → List Report
  | [] => []
  | s :: rest =>
    let (w, report) := w.runStep s
    report :: run w rest

end World
end LspHost.Rehearsal
