import LspHost.Client.Course

/-!
# What the steps of a client do

Each function that changes a client is described by what it leaves behind, under the conditions that
decide between its branches, so that later proofs need not open it.
-/

namespace LspHost

def Session.closed (s : Session) : Session :=
  { s with handshake := .ended, forwarder := none }

namespace Client

section Fields

variable (c : Client)

@[simp] theorem editSession_session (f : Session → Session) :
    (c.editSession f).session = c.session.map f := rfl

@[simp] theorem editSession_wire (f : Session → Session) : (c.editSession f).wire = c.wire := rfl

@[simp] theorem editSession_life (f : Session → Session) : (c.editSession f).life = c.life := rfl

@[simp] theorem editSession_documents (f : Session → Session) :
    (c.editSession f).documents = c.documents := rfl

@[simp] theorem editSession_id : c.editSession id = c := by
  simp [editSession]

theorem isConnected_of_session {c : Client} {session : Session} (hs : c.session = some session) :
    c.isConnected = session.connected := by
  simp [isConnected, hs]

theorem exists_session_of_isConnected {c : Client} (hc : c.isConnected) :
    ∃ session, c.session = some session ∧ session.connected := by
  cases hs : c.session with
  | none => simp [isConnected, hs] at hc
  | some session => exact ⟨session, rfl, (isConnected_of_session hs) ▸ hc⟩

def tell (ms : List Outgoing) : Client :=
  { c with wire := c.wire ++ ms }

def withSession (session : Session) : Client :=
  { c with session := some session }

end Fields

theorem life_of_enter {c : Client} {a : Ask} (h : (c.enter a).isUnderWay) : c.life = .running := by
  unfold enter readiness at h
  cases hl : c.life <;> simp [hl, Call.isUnderWay] at h ⊢

theorem enter_ne_closing (c : Client) (a : Ask) (url : Url) : c.enter a ≠ .closing url := by
  unfold enter
  split <;> simp

theorem handRequest_of_connected {c : Client} {session : Session} (hs : c.session = some session)
    (hc : session.connected) (m : Nat → Outgoing) :
    c.handRequest m = some ((c.withSession { session with nextId := session.nextId + 1 }).tell
      [m session.nextId], session.nextId) := by
  unfold handRequest
  rw [hs]
  exact if_pos hc

theorem handRequest_of_not_connected {c : Client} (hc : c.isConnected = false)
    (m : Nat → Outgoing) : c.handRequest m = none := by
  unfold handRequest
  cases hs : c.session with
  | none => rfl
  | some session =>
    rw [isConnected_of_session hs] at hc
    exact if_neg (by simp [hc])

theorem exists_session_of_forwarding {c : Client} {f : Forwarder} (hf : c.forwarding? = some f) :
    ∃ session, c.session = some session ∧ session.handshake = .forwarding ∧
      session.forwarder = some f := by
  unfold forwarding? at hf
  split at hf
  · next hs => exact ⟨_, hs, rfl, hf⟩
  · cases hf

theorem isConnected_setForwarder {c : Client} {session : Session} (hs : c.session = some session)
    (f : Forwarder) : (c.setForwarder f).isConnected = c.isConnected := by
  simp [setForwarder, isConnected, hs]

theorem sendBatch_of_connected {c : Client} {f : Forwarder} (hf : c.forwarding? = some f)
    (he : f.release.2 ≠ []) (hc : c.isConnected) :
    c.sendBatch f = (c.setForwarder f.release.1).tell [.filesChanged f.release.2] := by
  obtain ⟨session, hs, -⟩ := exists_session_of_forwarding hf
  have hc' := (isConnected_setForwarder hs f.release.1).trans hc
  rw [sendBatch, forward, if_neg he, if_pos hc', handNotification, if_pos hc', tell]

theorem sendBatch_of_not_connected {c : Client} {f : Forwarder} (hf : c.forwarding? = some f)
    (he : f.release.2 ≠ []) (hc : c.isConnected = false) :
    c.sendBatch f = c.editSession Session.closed := by
  obtain ⟨session, hs, -⟩ := exists_session_of_forwarding hf
  have hc' := (isConnected_setForwarder hs f.release.1).trans hc
  rw [sendBatch, forward, if_neg he, if_neg (by simp [hc'])]
  simp [setForwarder, editSession, hs, Session.closed]

section Calls

variable {c : Client}

theorem whenReady_of_running {α : Type} (hl : c.life = .running)
    (done : Client × Except ClientError α) : c.whenReady done = done := by
  simp [whenReady, readiness, hl]

theorem applyOutcome_sendChange {α : Type} (connected : Bool) (url : Url) (v : Int32)
    (text : String) (value : α) :
    c.applyOutcome (c.documents.sendChange connected url v text value) =
      ({ c with
        documents := c.documents.insert url (v + 1)
        wire := c.wire ++ if connected then [.didChange url (v + 1) text] else [] },
        if connected then .ok value else .error (.requestFailed
          ("didChange notification failed: " ++ Documents.serviceStopped))) := by
  cases connected <;> rfl

theorem applyOutcome_hand_lost {α : Type} (d : Documents) (name : String) (m : Outgoing)
    (value : α) : c.applyOutcome (d.hand false name m value) =
      ({ c with documents := d }, .error (.requestFailed
        (name ++ " notification failed: " ++ Documents.serviceStopped))) := by
  simp [applyOutcome, Documents.hand]

theorem changeText_of_closed {url : Url} {text : String}
    (hv : c.documents.version? url = none) :
    c.changeText url text = (c, .error (Documents.notOpen url)) := by
  simp [changeText, Documents.changeText, hv, applyOutcome]

theorem close_of_closed {url : Url} (hv : c.documents.version? url = none) :
    c.close url = (c, .error (Documents.notOpen url)) := by
  simp [close, takeDocument, Documents.take, hv]

theorem close_of_open {url : Url} {v : Int32} (hv : c.documents.version? url = some v) :
    c.close url = c.applyOutcome
      ((c.documents.erase url).hand c.isConnected "didClose" (.didClose url) ()) := by
  simp [close, takeDocument, Documents.take, hv, sendClose, Documents.sendClose, isConnected,
    applyOutcome]

theorem isConnected_disconnect (c : Client) : c.disconnect.isConnected = false := by
  cases hs : c.session <;> simp [disconnect, isConnected, hs]

end Calls

/-- What a watcher that receives does with notices is to report the events they stand for. -/
theorem notice_eq_report {c : Client} {w : Watcher} (hw : c.session.bind (·.watcher) = some w)
    (hr : w.receiving) (t : FileTree) (notices : List Notice) :
    c.notice t notices = c.report (notices.flatMap (w.filter.changes t)) := by
  rw [notice, hw, Option.bind_some, Watcher.handle, WatchFilter.batch, report]
  cases FileEvent.coalesce (notices.flatMap (w.filter.changes t)) with
  | nil => rfl
  | cons e events => simp [hr]

theorem advanceStop_of_unsent {c : Client} {stage : StopStage}
    (hc : stage = .exit → c.isConnected = false) (wait : Wait) :
    ∃ f : Session → Session, (c.advanceStop stage wait).1 = c.editSession f ∧
      ∀ session, (f session).handshake = session.handshake ∧
        (f session).forwarder = session.forwarder := by
  cases stage with
  | shutdown _ => exact ⟨id, c.editSession_id.symm, fun _ => ⟨rfl, rfl⟩⟩
  | exit => exact ⟨id, (if_neg (by simp [hc rfl])).trans c.editSession_id.symm, fun _ => ⟨rfl, rfl⟩⟩
  | process =>
    cases wait with
    | happened => exact ⟨_, rfl, fun _ => ⟨rfl, rfl⟩⟩
    | expired => exact ⟨id, c.editSession_id.symm, fun _ => ⟨rfl, rfl⟩⟩
    | failed _ => exact ⟨_, rfl, fun _ => ⟨rfl, rfl⟩⟩
  | kill =>
    cases wait with
    | happened => exact ⟨_, rfl, fun _ => ⟨rfl, rfl⟩⟩
    | expired => exact ⟨_, rfl, fun _ => ⟨rfl, rfl⟩⟩
    | failed _ => exact ⟨id, c.editSession_id.symm, fun _ => ⟨rfl, rfl⟩⟩
  | connection => exact ⟨_, rfl, fun _ => ⟨rfl, rfl⟩⟩
  | done => exact ⟨id, c.editSession_id.symm, fun _ => ⟨rfl, rfl⟩⟩
  | failed _ => exact ⟨id, c.editSession_id.symm, fun _ => ⟨rfl, rfl⟩⟩

theorem isConnected_of_map {c c' : Client} {f : Session → Session} (hc : c'.isConnected)
    (hsession : c'.session = c.session.map f)
    (hf : ∀ session, (f session).connected → session.connected) : c.isConnected := by
  unfold isConnected at hc ⊢
  rw [hsession] at hc
  cases hs : c.session with
  | none => simp [hs] at hc
  | some session =>
    rw [hs] at hc
    exact hf session hc

theorem isConnected_of_advanceStop {c : Client} {stage : StopStage} {wait : Wait}
    (hc : (c.advanceStop stage wait).1.isConnected) : c.isConnected := by
  cases stage with
  | shutdown id => exact hc
  | exit =>
    simp only [advanceStop, handNotification] at hc
    split at hc
    · exact hc
    · exact hc
  | process =>
    cases wait with
    | happened => exact isConnected_of_map hc rfl fun _ => id
    | expired => exact hc
    | failed reason => exact isConnected_of_map hc rfl fun _ => id
  | kill =>
    cases wait with
    | happened => exact isConnected_of_map hc rfl fun _ => id
    | expired => exact isConnected_of_map hc rfl fun _ => id
    | failed reason => exact hc
  | connection =>
    have hend : c.disconnect.isConnected = false := c.isConnected_disconnect
    rw [show (c.advanceStop .connection wait).1 = c.disconnect from rfl, hend] at hc
    cases hc
  | done => exact hc
  | failed e => exact hc

end Client
end LspHost
