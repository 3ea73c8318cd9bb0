import LspHost.Proofs.Client.Start
import LspHost.Proofs.Documents.Table
import Mathlib.Data.List.Induction

/-!
# What a happening can do

`Effect s h ms s'` lists what a happening can do to a course: when it can do so, which messages it
hands over and what it leaves behind. `effect_step` says that nothing else ever happens, so that a
property of all courses is proved by going once through the cases of `Effect`.
-/

namespace LspHost

def Happening.raw : Happening → List FileEvent
  | .report events => events
  | _ => []

/-- Whether a happening makes a call or touches one. -/
def Happening.isCall : Happening → Bool
  | .ask _ => true
  | .askFile _ => true
  | .goOn _ _ => true
  | .giveUp _ => true
  | _ => false

namespace Course

inductive Effect (s : Course) : Happening → List Outgoing → Course → Prop
  | nothing (h : Happening) (hr : FileEvent.coalesce h.raw = []) : Effect s h [] s
  | begun (h : Happening) (hr : h.raw = []) (root : Path) (url : Url) (child : Option Child)
      (watcher : Option Watcher) (hn : s.client.session = none) (hl : s.client.life = .idle) :
      Effect s h [] (s.setClient (s.client.connect root url child watcher))
  | called (h : Happening) (hr : h.raw = []) (call : Call) (hc : call.isUnderWay = false) :
      Effect s h [] { s with calls := s.calls ++ [call] }
  | moved (h : Happening) (hr : h.raw = []) {i : Nat} {call call' : Call}
      (hi : s.calls[i]? = some call) (hfrom : ∀ url, call ≠ .closing url)
      (hto : ∀ url, call' ≠ .closing url) (hready : call'.isUnderWay → s.client.life = .running) :
      Effect s h [] { s with calls := s.calls.set i call' }
  | opened (t : FileTree) {i : Nat} {url : Url} {language text : String}
      {o : Documents.Outcome Bool} (hi : s.calls[i]? = some (.ready (.openText url language text)))
      (ho : s.client.documents.openText s.client.isConnected url language text = o) :
      Effect s (.goOn t i) o.sent
        { s with
          client := (s.client.applyOutcome o).1
          calls := s.calls.set i (.returned o.result) }
  | changed (t : FileTree) {i : Nat} {url : Url} {text : String} {o : Documents.Outcome Unit}
      (hi : s.calls[i]? = some (.ready (.changeText url text)))
      (ho : s.client.documents.changeText s.client.isConnected url text = o) :
      Effect s (.goOn t i) o.sent
        { s with
          client := (s.client.applyOutcome o).1
          calls := s.calls.set i (.returned (o.result.map fun _ => true)) }
  | taken (t : FileTree) {i : Nat} {url : Url} {v : Int32}
      (hi : s.calls[i]? = some (.ready (.close url)))
      (hv : s.client.documents.version? url = some v) :
      Effect s (.goOn t i) []
        { s with
          client := { s.client with documents := s.client.documents.erase url }
          calls := s.calls.set i (.closing url) }
  | closed (t : FileTree) {i : Nat} {url : Url} {o : Documents.Outcome Unit}
      (hi : s.calls[i]? = some (.closing url))
      (ho : s.client.documents.sendClose s.client.isConnected url = o) :
      Effect s (.goOn t i) o.sent
        { s with
          client := (s.client.applyOutcome o).1
          calls := s.calls.set i (.returned (o.result.map fun _ => true)) }
  | requested (t : FileTree) {i : Nat} {method : String} {params : Json} {session : Session}
      (hi : s.calls[i]? = some (.ready (.request method params)))
      (hs : s.client.session = some session) (hc : session.connected) :
      Effect s (.goOn t i) [.request session.nextId method params]
        { s with
          client := (s.client.withSession { session with nextId := session.nextId + 1 }).tell
            [.request session.nextId method params]
          calls := s.calls.set i (.returned (.ok true)) }
  | greeted (process : Json) {session : Session} (params : Json)
      (hs : s.client.session = some session) (hh : session.handshake = .unsent)
      (hc : session.connected) :
      Effect s (.greet process) [.initializeRequest session.nextId params]
        (s.setClient ((s.client.withSession { session with
          nextId := session.nextId + 1, handshake := .waiting session.nextId }).tell
            [.initializeRequest session.nextId params]))
  | unanswered (h : Happening) (hr : h.raw = []) {session : Session}
      (hs : s.client.session = some session)
      (hh : session.handshake = .unsent ∨ ∃ id, session.handshake = .waiting id) :
      Effect s h [] (s.setClient s.client.failHandshake)
  | announced {answer : Except RemoteError Json} {session : Session} {id : Nat} {result : Json}
      (capabilities : Json) (hs : s.client.session = some session)
      (hh : session.handshake = .waiting id) (hc : session.connected)
      (hd : decodeAnswer Protocol.initializeResult answer = .ok result)
      (hv : capabilities = (result.get? "capabilities").getD .null) :
      Effect s (.answer answer) [.initialized]
        (s.setClient ((s.client.withSession { session with
          handshake := .announced capabilities }).tell [.initialized]))
  | recorded {session : Session} {capabilities : Json} (hs : s.client.session = some session)
      (hh : session.handshake = .announced capabilities) :
      Effect s .record []
        (s.setClient { s.client.withSession { session with handshake := .recorded } with
          capabilities := s.client.capabilities.or (some capabilities) })
  | promoted {session : Session} (hs : s.client.session = some session)
      (hh : session.handshake = .recorded) (hl : s.client.life = .starting) :
      Effect s .promote []
        (s.setClient { s.client.withSession { session with handshake := .forwarding } with
          life := .running })
  | passedOver {session : Session} (hs : s.client.session = some session)
      (hh : session.handshake = .recorded) (hl : s.client.life ≠ .starting) :
      Effect s .promote [] (s.setClient (s.client.withSession session.closed))
  | reported (events : List FileEvent) (he : FileEvent.coalesce events ≠ []) :
      Effect s (.report events) []
        (s.setClient (s.client.queueEvents (FileEvent.coalesce events)))
  | took {f : Forwarder} (hf : s.client.forwarding? = some f) :
      Effect s .take [] (s.setClient (s.client.setForwarder f.take))
  | gathered {f : Forwarder} (hf : s.client.forwarding? = some f) :
      Effect s .gather [] (s.setClient (s.client.setForwarder f.gather))
  | heldNothing {f : Forwarder} (hf : s.client.forwarding? = some f) (he : f.release.2 = []) :
      Effect s .send [] (s.setClient (s.client.setForwarder f.release.1))
  | sent {f : Forwarder} (hf : s.client.forwarding? = some f) (he : f.release.2 ≠ [])
      (hc : s.client.isConnected) :
      Effect s .send [.filesChanged f.release.2]
        (s.setClient ((s.client.setForwarder f.release.1).tell [.filesChanged f.release.2]))
  | lost {f : Forwarder} (hf : s.client.forwarding? = some f) (he : f.release.2 ≠ [])
      (hc : s.client.isConnected = false) :
      Effect s .send [] (s.setClient (s.client.editSession Session.closed))
  | disconnected : Effect s .disconnect [] (s.setClient s.client.disconnect)
  | noticed (hc : s.client.isConnected = false) :
      Effect s .fail [] (s.setClient s.client.markFailed)
  | stoppedUnstarted (hn : s.stopping = none) (ho : s.calls.all Call.isOver)
      (hs : s.client.session = none) :
      Effect s .stop []
        { s with client := { s.client with life := .stopped }, stopping := some .done }
  | stoppedRunning {session : Session} (hn : s.stopping = none) (ho : s.calls.all Call.isOver)
      (hs : s.client.session = some session) (hl : s.client.life = .running)
      (hc : session.connected) :
      Effect s .stop [.shutdown session.nextId]
        { s with
          client := { (s.client.withSession { session.brokenOff with
            nextId := session.nextId + 1 }).tell [.shutdown session.nextId] with
              life := .stopped }
          stopping := some (.shutdown session.nextId) }
  | stoppedOtherwise {session : Session} (hn : s.stopping = none) (ho : s.calls.all Call.isOver)
      (hs : s.client.session = some session)
      (hl : s.client.life ≠ .running ∨ session.connected = false) :
      Effect s .stop []
        { s with
          client := { s.client.withSession session.brokenOff with life := .stopped }
          stopping := some .exit }
  | exited (wait : Wait) (hst : s.stopping = some .exit) (hc : s.client.isConnected) :
      Effect s (.waited wait) [.exit]
        { s with client := s.client.tell [.exit], stopping := some s.client.stageAfterExit }
  | waitedFor (wait : Wait) {stage : StopStage} (hst : s.stopping = some stage)
      (hc : stage = .exit → s.client.isConnected = false) :
      Effect s (.waited wait) []
        { s with
          client := (s.client.advanceStop stage wait).1
          stopping := some (s.client.advanceStop stage wait).2 }

variable (s : Course)

theorem effect_look {s : Course} {t : FileTree} {i : Nat} {call call' : Call}
    (hi : s.calls[i]? = some call) (ha : s.client.advance t call = (s.client, call'))
    (hfrom : ∀ url, call ≠ .closing url) (hto : ∀ url, call' ≠ .closing url)
    (hready : call'.isUnderWay → s.client.life = .running) :
    Effect s (.goOn t i) [] (s.goOn t i) := by
  rw [goOn, hi]
  simp only [ha]
  exact .moved _ rfl hi hfrom hto hready

theorem effect_return {s : Course} {t : FileTree} {i : Nat} {call : Call}
    {r : Except ClientError Bool} (hi : s.calls[i]? = some call)
    (ha : s.client.advance t call = (s.client, .returned r)) (hfrom : ∀ url, call ≠ .closing url) :
    Effect s (.goOn t i) [] (s.goOn t i) :=
  effect_look hi ha hfrom (by simp) (by simp [Call.isUnderWay])

theorem effect_asked {s : Course} {t : FileTree} {i : Nat} {a : Ask}
    (hi : s.calls[i]? = some (.asked a)) : Effect s (.goOn t i) [] (s.goOn t i) := by
  by_cases ha : s.client.advance t (.asked a) = (s.client, s.client.enter a)
  · exact effect_look hi ha (by simp) (s.client.enter_ne_closing a) Client.life_of_enter
  · refine effect_return (r := .ok false) hi ?_ (by simp)
    cases a with
    | openText url language text =>
      by_cases hsel : s.client.selects url language
      · exact absurd (by simp only [Client.advance, hsel, if_true]) ha
      · simp only [Client.advance, if_neg hsel]
    | changeText url text => exact absurd rfl ha
    | close url => exact absurd rfl ha
    | request method params => exact absurd rfl ha

theorem effect_ready {s : Course} {t : FileTree} {i : Nat} {a : Ask}
    (hi : s.calls[i]? = some (.ready a)) : ∃ ms, Effect s (.goOn t i) ms (s.goOn t i) := by
  cases a with
  | openText url language text => exact ⟨_, by rw [goOn, hi]; exact .opened t hi rfl⟩
  | changeText url text => exact ⟨_, by rw [goOn, hi]; exact .changed t hi rfl⟩
  | close url =>
    cases hv : s.client.documents.version? url with
    | none =>
      refine ⟨[], effect_return (r := .error (Documents.notOpen url)) hi ?_ (by simp)⟩
      simp only [Client.advance, Client.act, Client.takeDocument, Documents.take, hv]
    | some v =>
      refine ⟨[], ?_⟩
      rw [goOn, hi]
      simp only [Client.advance, Client.act, Client.takeDocument, Documents.take, hv]
      exact .taken t hi hv
  | request method params =>
    cases hc : s.client.isConnected with
    | true =>
      obtain ⟨session, hs, hcon⟩ := Client.exists_session_of_isConnected hc
      refine ⟨[.request session.nextId method params], ?_⟩
      rw [goOn, hi]
      simp only [Client.advance, Client.act, Client.sendRequest,
        Client.handRequest_of_connected hs hcon]
      exact .requested t hi hs hcon
    | false =>
      refine ⟨[], effect_return (r := .error (.requestFailed
        (method ++ " failed: " ++ RequestFailure.stopped.text))) hi ?_ (by simp)⟩
      simp only [Client.advance, Client.act, Client.sendRequest,
        Client.handRequest_of_not_connected hc]

theorem effect_goOn (t : FileTree) (i : Nat) : ∃ ms, Effect s (.goOn t i) ms (s.goOn t i) := by
  cases hi : s.calls[i]? with
  | none => exact ⟨[], by rw [goOn, hi]; exact .nothing _ rfl⟩
  | some call =>
    cases call with
    | seeking path =>
      cases hu : Document.urlOfPath t path with
      | error e =>
        exact ⟨[], effect_return (r := .error e) hi (by simp only [Client.advance, hu]) (by simp)⟩
      | ok url =>
        have ha : s.client.advance t (.seeking path) = (s.client, .reading url path) := by
          simp only [Client.advance, hu]
        exact ⟨[], effect_look hi ha (by simp) (by simp) (by simp [Call.isUnderWay])⟩
    | reading url path =>
      cases hu : Document.readText t path with
      | error e =>
        exact ⟨[], effect_return (r := .error e) hi (by simp only [Client.advance, hu]) (by simp)⟩
      | ok text =>
        have ha : s.client.advance t (.reading url path) =
            (s.client, .asked (.openText url (Document.languageOf path) text)) := by
          simp only [Client.advance, hu]
        exact ⟨[], effect_look hi ha (by simp) (by simp) (by simp [Call.isUnderWay])⟩
    | asked a => exact ⟨[], effect_asked hi⟩
    | ready a => exact effect_ready hi
    | closing url => exact ⟨_, by rw [goOn, hi]; exact .closed t hi rfl⟩
    | returned r => exact ⟨[], effect_return hi rfl (by simp)⟩
    | dropped =>
      exact ⟨[], effect_look hi rfl (by simp) (by simp) (by simp [Call.isUnderWay])⟩

theorem effect_giveUp (i : Nat) : Effect s (.giveUp i) [] (s.giveUp i) := by
  unfold giveUp
  split
  · exact .nothing _ rfl
  · next call hne hi =>
    exact .moved _ rfl hi (fun url h => hne url h) (by simp) (by simp [Call.isUnderWay])
  · exact .nothing _ rfl

theorem effect_greet (process : Json) :
    ∃ ms, Effect s (.greet process) ms (s.setClient (s.client.sendInitialize process)) := by
  unfold Client.sendInitialize
  split
  · next session root url connected child nextId watcher forwarder hs =>
    cases connected with
    | true =>
      rw [Client.handRequest_of_connected hs rfl]
      exact ⟨_, .greeted process _ hs rfl rfl⟩
    | false =>
      have hc : s.client.isConnected = false := Client.isConnected_of_session hs
      rw [Client.handRequest_of_not_connected hc]
      exact ⟨[], .unanswered _ rfl hs (Or.inl rfl)⟩
  · exact ⟨[], .nothing _ rfl⟩

theorem effect_answer (answer : Except RemoteError Json) :
    ∃ ms, Effect s (.answer answer) ms (s.setClient (s.client.hearAnswer answer)) := by
  unfold Client.hearAnswer
  split
  · next session root url connected child id nextId watcher forwarder hs =>
    split
    · next result hd =>
      unfold Client.announce
      rw [hs]
      cases connected with
      | true =>
        have hc : s.client.isConnected = true := Client.isConnected_of_session hs
        simp only [if_true, Client.handNotification, hc, Client.editSession, hs, Option.map_some]
        exact ⟨_, .announced _ hs rfl rfl hd rfl⟩
      | false => exact ⟨[], .unanswered _ rfl hs (Or.inr ⟨_, rfl⟩)⟩
    · exact ⟨[], .unanswered _ rfl hs (Or.inr ⟨_, rfl⟩)⟩
  · exact ⟨[], .nothing _ rfl⟩

theorem effect_noAnswer : Effect s .noAnswer [] (s.setClient s.client.missAnswer) := by
  unfold Client.missAnswer
  split
  · next hs => exact .unanswered _ rfl hs (Or.inr ⟨_, rfl⟩)
  · exact .nothing _ rfl

theorem effect_record : Effect s .record [] (s.setClient s.client.recordCapabilities) := by
  unfold Client.recordCapabilities
  split
  · next hs =>
    simp only [Client.editSession, hs, Option.map_some]
    exact .recorded hs rfl
  · exact .nothing _ rfl

theorem effect_promote : Effect s .promote [] (s.setClient s.client.promote) := by
  unfold Client.promote
  split
  · next hs =>
    simp only [Client.editSession, hs, Option.map_some]
    split
    · next hl => exact .promoted hs rfl hl
    · next hl => exact .passedOver hs rfl hl
  · exact .nothing _ rfl

theorem effect_report (events : List FileEvent) :
    Effect s (.report events) [] (s.setClient (s.client.report events)) := by
  unfold Client.report
  split
  · next he => exact .nothing _ he
  · next he => exact .reported events he

theorem effect_send : ∃ ms, Effect s .send ms (s.forward s.client.sendBatch) := by
  cases hf : s.client.forwarding? with
  | none => exact ⟨[], by rw [forward, hf]; exact .nothing _ rfl⟩
  | some f =>
    rw [show s.forward s.client.sendBatch = s.setClient (s.client.sendBatch f) by rw [forward, hf]]
    by_cases he : f.release.2 = []
    · rw [show s.client.sendBatch f = s.client.setForwarder f.release.1 from if_pos he]
      exact ⟨[], .heldNothing hf he⟩
    · cases hc : s.client.isConnected with
      | true =>
        rw [Client.sendBatch_of_connected hf he hc]
        exact ⟨_, .sent hf he hc⟩
      | false =>
        rw [Client.sendBatch_of_not_connected hf he hc]
        exact ⟨[], .lost hf he hc⟩

theorem effect_stop : ∃ ms, Effect s .stop ms s.stop := by
  unfold stop
  by_cases hg : s.stopping.isNone ∧ s.calls.all Call.isOver
  · rw [if_pos hg]
    have hn : s.stopping = none := Option.isNone_iff_eq_none.mp hg.1
    cases hs : s.client.session with
    | none =>
      have hb : s.client.beginStop = ({ s.client with life := .stopped }, .done) := by
        simp [Client.beginStop, Client.editSession, hs]
      rw [hb]
      exact ⟨[], .stoppedUnstarted hn hg.2 hs⟩
    | some session =>
      let c : Client := { s.client.withSession session.brokenOff with life := .stopped }
      by_cases hl : s.client.life = .running
      · cases hc : session.connected with
        | true =>
          have hb : s.client.beginStop =
              ({ (s.client.withSession { session.brokenOff with
                nextId := session.nextId + 1 }).tell
                  [.shutdown session.nextId] with life := .stopped },
                .shutdown session.nextId) := by
            simp [Client.beginStop, Client.editSession, Client.handRequest, hs, hl, hc,
              Client.withSession, Client.tell, Session.brokenOff]
          rw [hb]
          exact ⟨_, .stoppedRunning hn hg.2 hs hl hc⟩
        | false =>
          have hb : s.client.beginStop = (c, .exit) := by
            simp [Client.beginStop, Client.editSession, Client.handRequest, hs, hl, hc,
              Client.withSession, Session.brokenOff, c]
          rw [hb]
          exact ⟨[], .stoppedOtherwise hn hg.2 hs (Or.inr hc)⟩
      · have hb : s.client.beginStop = (c, .exit) := by
          simp [Client.beginStop, Client.editSession, hs, hl, Client.withSession, c]
        rw [hb]
        exact ⟨[], .stoppedOtherwise hn hg.2 hs (Or.inl hl)⟩
  · rw [if_neg hg]
    exact ⟨[], .nothing _ rfl⟩

theorem effect_waited (wait : Wait) : ∃ ms, Effect s (.waited wait) ms (s.waited wait) := by
  unfold waited
  cases hst : s.stopping with
  | none => exact ⟨[], .nothing _ rfl⟩
  | some stage =>
    by_cases hc : stage = .exit ∧ s.client.isConnected
    · obtain ⟨rfl, hc⟩ := hc
      simp only [Client.advanceStop, Client.handNotification, if_pos hc]
      exact ⟨_, .exited wait hst hc⟩
    · exact ⟨[], .waitedFor wait hst fun he => by simpa [he] using hc⟩

theorem effect_start {h : Happening} (hr : h.raw = []) (a : Attempt) :
    Effect s h [] (s.setClient (s.client.start a).1) := by
  rcases s.client.start_cases a with
    ⟨e, hstart, -⟩ | ⟨hn, hl, -, root, url, child, watcher, hstart⟩
  · rw [hstart]
    refine .nothing _ ?_
    rw [hr]
    rfl
  · rw [hstart]
    exact .begun _ hr root url child watcher hn hl

/-- Whatever happens to a course is one of the effects. -/
theorem effect_step (h : Happening) : ∃ ms, Effect s h ms (s.step h) := by
  cases h with
  | startOver tree root notifier => exact ⟨[], effect_start s rfl _⟩
  | start tree host spawn root notifier => exact ⟨[], effect_start s rfl _⟩
  | ask a => exact ⟨[], .called _ rfl _ rfl⟩
  | askFile path => exact ⟨[], .called _ rfl _ rfl⟩
  | goOn t i => exact effect_goOn s t i
  | giveUp i => exact ⟨[], effect_giveUp s i⟩
  | greet process => exact effect_greet s process
  | answer answer => exact effect_answer s answer
  | noAnswer => exact ⟨[], effect_noAnswer s⟩
  | record => exact ⟨[], effect_record s⟩
  | promote => exact ⟨[], effect_promote s⟩
  | report events => exact ⟨[], effect_report s events⟩
  | take =>
    refine ⟨[], ?_⟩
    simp only [step, forward]
    split
    · next hf => exact .took hf
    · exact .nothing _ rfl
  | gather =>
    refine ⟨[], ?_⟩
    simp only [step, forward]
    split
    · next hf => exact .gathered hf
    · exact .nothing _ rfl
  | send => exact effect_send s
  | disconnect => exact ⟨[], .disconnected⟩
  | fail =>
    refine ⟨[], ?_⟩
    simp only [step]
    cases hc : s.client.isConnected with
    | true => exact .nothing _ rfl
    | false => exact .noticed hc
  | stop => exact effect_stop s
  | waited wait => exact effect_waited s wait

variable {s}

theorem calls_step_of_not_isCall {h : Happening} (hq : h.isCall = false) :
    (s.step h).calls = s.calls := by
  cases h with
  | ask a => cases hq
  | askFile path => cases hq
  | goOn t i => cases hq
  | giveUp i => cases hq
  | take =>
    rw [step, forward]
    split <;> rfl
  | gather =>
    rw [step, forward]
    split <;> rfl
  | send =>
    rw [step, forward]
    split <;> rfl
  | fail =>
    rw [step]
    split <;> rfl
  | stop =>
    rw [step, stop]
    split <;> rfl
  | waited wait =>
    rw [step, waited]
    split <;> rfl
  | _ => rfl

theorem Effect.wire_eq {h : Happening} {ms : List Outgoing} {s' : Course} (e : Effect s h ms s') :
    s'.client.wire = s.client.wire ++ ms := by
  cases e with
  | waitedFor wait hst hc =>
    obtain ⟨f, hf, -⟩ := Client.advanceStop_of_unsent hc wait
    simp [hf]
  | _ =>
    simp [setClient, Client.connect, Client.applyOutcome, Client.tell, Client.withSession,
      Client.failHandshake, Client.queueEvents, Client.setForwarder, Client.disconnect,
      Client.markFailed, apply_ite Client.wire]

theorem Effect.session_isSome {h : Happening} {ms : List Outgoing} {s' : Course}
    (e : Effect s h ms s') (hs : s.client.session.isSome) : s'.client.session.isSome := by
  cases e with
  | waitedFor wait hst hc =>
    obtain ⟨f, hf, -⟩ := Client.advanceStop_of_unsent hc wait
    simp [hf, hs]
  | _ =>
    simp [setClient, Client.connect, Client.applyOutcome, Client.tell, Client.withSession,
      Client.failHandshake, Client.queueEvents, Client.setForwarder, Client.disconnect,
      Client.markFailed, apply_ite Client.session, hs]

theorem Effect.settings_eq {h : Happening} {ms : List Outgoing} {s' : Course}
    (e : Effect s h ms s') : s'.client.settings = s.client.settings := by
  cases e with
  | waitedFor wait hst hc =>
    obtain ⟨f, hf, -⟩ := Client.advanceStop_of_unsent hc wait
    simp only [hf]
    rfl
  | noticed => simp only [setClient, Client.markFailed, apply_ite Client.settings, ite_self]
  | _ => rfl

theorem Effect.isConnected {h : Happening} {ms : List Outgoing} {s' : Course}
    (e : Effect s h ms s') (hs : s.client.session.isSome) (hc : s'.client.isConnected) :
    s.client.isConnected := by
  cases e with
  | begun _ _ _ _ _ _ hn => simp [hn] at hs
  | requested t hi hsession hcon => exact (Client.isConnected_of_session hsession).trans hcon
  | greeted process params hsession hh hcon =>
    exact (Client.isConnected_of_session hsession).trans hcon
  | unanswered => exact Client.isConnected_of_map hc rfl fun _ => id
  | announced capabilities hsession hh hcon =>
    exact (Client.isConnected_of_session hsession).trans hcon
  | recorded hsession => exact (Client.isConnected_of_session hsession).trans hc
  | promoted hsession => exact (Client.isConnected_of_session hsession).trans hc
  | passedOver hsession => exact (Client.isConnected_of_session hsession).trans hc
  | reported => exact Client.isConnected_of_map hc rfl fun _ => id
  | took => exact Client.isConnected_of_map hc rfl fun _ => id
  | gathered => exact Client.isConnected_of_map hc rfl fun _ => id
  | heldNothing => exact Client.isConnected_of_map hc rfl fun _ => id
  | sent hf he hcon => exact hcon
  | lost => exact Client.isConnected_of_map hc rfl fun _ => id
  | disconnected => rw [setClient, Client.isConnected_disconnect] at hc; cases hc
  | noticed =>
    simp only [setClient, Client.markFailed] at hc
    split at hc
    · exact hc
    · exact hc
  | stoppedRunning _ _ hsession _ hcon => exact (Client.isConnected_of_session hsession).trans hcon
  | stoppedOtherwise _ _ hsession => exact (Client.isConnected_of_session hsession).trans hc
  | exited _ _ hcon => exact hcon
  | waitedFor => exact Client.isConnected_of_advanceStop hc
  | _ => exact hc

theorem Effect.document?_eq_none {h : Happening} {ms : List Outgoing} {s' : Course}
    (e : Effect s h ms s') (hq : h.isCall = false) : ∀ m ∈ ms, m.document? = none := by
  cases e with
  | opened => cases hq
  | changed => cases hq
  | taken => cases hq
  | closed => cases hq
  | requested => cases hq
  | _ => simp [Outgoing.document?]

/-- What a happening can hand over. -/
inductive Sends (s : Course) : Happening → List Outgoing → Prop
  | silence (h : Happening) : Sends s h []
  | aboutDocument (h : Happening) (url : Url) {ms : List Outgoing}
      (hd : ∀ m ∈ ms, m.document? = some url) : Sends s h ms
  | request (h : Happening) (id : Nat) (method : String) (params : Json) :
      Sends s h [.request id method params]
  | greeting (h : Happening) (id : Nat) (params : Json) : Sends s h [.initializeRequest id params]
  | acknowledgement {answer : Except RemoteError Json} {session : Session} {id : Nat}
      {result : Json} (hs : s.client.session = some session) (hh : session.handshake = .waiting id)
      (hd : decodeAnswer Protocol.initializeResult answer = .ok result) :
      Sends s (.answer answer) [.initialized]
  | batch {f : Forwarder} (hf : s.client.forwarding? = some f) (he : f.release.2 ≠ []) :
      Sends s .send [.filesChanged f.release.2]
  | shutdown (id : Nat) (hn : s.stopping = none) (hl : s.client.life = .running) :
      Sends s .stop [.shutdown id]
  | exit (h : Happening) : Sends s h [.exit]

@[simp] theorem run_nil (s : Course) : s.run [] = s := rfl

@[simp] theorem run_concat (s : Course) (hs : List Happening) (h : Happening) :
    s.run (hs ++ [h]) = (s.run hs).step h := by
  simp [run]

theorem run_append (s : Course) (hs more : List Happening) :
    s.run (hs ++ more) = (s.run hs).run more := by
  simp [run]

/-- What every happening keeps is kept by a run. -/
theorem run_induction {P : Course → Prop}
    (hP : ∀ {s s' : Course} {h : Happening} {ms : List Outgoing}, Effect s h ms s' → P s → P s')
    {s : Course} (h : P s) (hs : List Happening) : P (s.run hs) := by
  induction hs using List.reverseRecOn with
  | nil => exact h
  | append_singleton hs happening ih =>
    obtain ⟨ms, e⟩ := effect_step (s.run hs) happening
    rw [run_concat]
    exact hP e ih

theorem session_isSome_run (hs : s.client.session.isSome) (more : List Happening) :
    (s.run more).client.session.isSome :=
  run_induction (P := fun s => s.client.session.isSome) (fun e => e.session_isSome) hs more

end Course
end LspHost
