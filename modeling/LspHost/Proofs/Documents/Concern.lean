import LspHost.Proofs.Documents.TurnEffect

/-!
# Which turns concern a document

Two running clients that a document cannot tell apart say the same about it when they take the same
turn, if the turn concerns it, and a turn that does not concern it makes no difference to it. What
is said about a document is therefore what would be said if there were only the turns that concern
it.
-/

namespace LspHost.Client

def sent (c : Client) (ts : List Turn) : List Outgoing :=
  (c.turns ts).wire.drop c.wire.length

/-- Two running clients that a document cannot tell apart. -/
structure Alike (url : Url) (c d : Client) : Prop where
  running : c.life = .running
  running' : d.life = .running
  settings : d.settings = c.settings
  connected : d.isConnected = c.isConnected
  version : d.documents.version? url = c.documents.version? url

/-- Two clients do the same with the document, and say the same. -/
def DoAlike (url : Url) (c d c' d' : Client) : Prop :=
  Alike url c' d' ∧ ∃ ms, c'.wire = c.wire ++ ms ∧ d'.wire = d.wire ++ ms

namespace Alike

variable {url : Url} {c d : Client}

theorem idle (ha : Alike url c d) : DoAlike url c d c d :=
  ⟨ha, [], (List.append_nil _).symm, (List.append_nil _).symm⟩

theorem apply (ha : Alike url c d) {α : Type} {o o' : Documents.Outcome α}
    (hs : o'.sent = o.sent) (hv : o'.documents.version? url = o.documents.version? url) :
    DoAlike url c d (c.applyOutcome o).1 (d.applyOutcome o').1 :=
  ⟨⟨ha.running, ha.running', ha.settings, ha.connected, hv⟩, o.sent, rfl, hs ▸ rfl⟩

theorem sendChange (ha : Alike url c d) {α : Type} (v : Int32) (text : String) (value : α) :
    DoAlike url c d
      (c.applyOutcome (c.documents.sendChange c.isConnected url v text value)).1
      (d.applyOutcome (d.documents.sendChange d.isConnected url v text value)).1 := by
  rw [ha.connected]
  refine ha.apply ?_ ?_ <;> cases c.isConnected <;>
    simp [Documents.sendChange, Documents.hand, Documents.version?_insert_self]

theorem didOpen (ha : Alike url c d) (language text : String) :
    DoAlike url c d (c.didOpen url language text).1 (d.didOpen url language text).1 := by
  rw [Client.didOpen, Client.didOpen, selects, selects, ha.settings,
    whenReady_of_running ha.running, whenReady_of_running ha.running']
  split
  · cases hv : c.documents.version? url with
    | some v =>
      rw [openText, openText, Documents.openText_of_open hv,
        Documents.openText_of_open (ha.version.trans hv)]
      exact ha.sendChange v text true
    | none =>
      rw [openText, openText, ha.connected]
      refine ha.apply ?_ ?_ <;> cases c.isConnected <;>
        simp [Documents.openText, hv, ha.version.trans hv, Documents.hand,
          Documents.version?_insert_self]
  · exact ha.idle

theorem didChange (ha : Alike url c d) (text : String) :
    DoAlike url c d (c.didChange url text).1 (d.didChange url text).1 := by
  rw [Client.didChange, Client.didChange, whenReady_of_running ha.running,
    whenReady_of_running ha.running']
  cases hv : c.documents.version? url with
  | some v =>
    rw [changeText, changeText, Documents.changeText_of_open hv,
      Documents.changeText_of_open (ha.version.trans hv)]
    exact ha.sendChange v text ()
  | none =>
    rw [changeText, changeText, Documents.changeText_of_closed hv,
      Documents.changeText_of_closed (ha.version.trans hv)]
    exact ha.apply rfl ha.version

theorem didClose (ha : Alike url c d) :
    DoAlike url c d (c.didClose url).1 (d.didClose url).1 := by
  rw [Client.didClose, Client.didClose, whenReady_of_running ha.running,
    whenReady_of_running ha.running']
  cases hv : c.documents.version? url with
  | some v =>
    rw [close_of_open hv, close_of_open (ha.version.trans hv), ha.connected]
    refine ha.apply ?_ ?_ <;> cases c.isConnected <;>
      simp [Documents.hand, Documents.version?_erase_self]
  | none =>
    rw [close_of_closed hv, close_of_closed (ha.version.trans hv)]
    exact ha.idle

end Alike

theorem Alike.turn {url : Url} {c d : Client} (ha : Alike url c d) {turn : Turn}
    (hc : turn.concerns url) : DoAlike url c d (c.turn turn).1 (d.turn turn).1 := by
  cases turn with
  | didOpen u language text =>
    obtain rfl : u = url := by simpa [Turn.concerns, Turn.url?] using hc
    exact ha.didOpen language text
  | didChange u text =>
    obtain rfl : u = url := by simpa [Turn.concerns, Turn.url?] using hc
    exact ha.didChange text
  | didClose u =>
    obtain rfl : u = url := by simpa [Turn.concerns, Turn.url?] using hc
    exact ha.didClose
  | openFile t path =>
    rw [Client.turn, Client.turn, openFile, openFile]
    cases hd : readDocument t path with
    | error e => simp [Turn.concerns, Turn.url?, hd] at hc
    | ok document =>
      obtain ⟨u, language, text⟩ := document
      obtain rfl : u = url := by simpa [Turn.concerns, Turn.url?, hd] using hc
      exact ha.didOpen language text
  | disconnect =>
    refine ⟨⟨ha.running, ha.running', ha.settings, ?_, ha.version⟩, [],
      (List.append_nil _).symm, (List.append_nil _).symm⟩
    rw [Client.turn, Client.turn, isConnected_disconnect, isConnected_disconnect]

section

variable {c : Client}

theorem life_turn (hl : c.life = .running) (t : Turn) : (c.turn t).1.life = .running := by
  obtain ⟨ms, h⟩ := turn_effect hl t
  exact h.life_eq.trans hl

theorem wire_turns (hl : c.life = .running) (ts : List Turn) :
    (c.turns ts).wire = c.wire ++ c.sent ts := by
  have hex : ∃ ms, (c.turns ts).wire = c.wire ++ ms := by
    induction ts generalizing c with
    | nil => exact ⟨[], (List.append_nil _).symm⟩
    | cons t ts ih =>
      obtain ⟨ms, h⟩ := turn_effect hl t
      obtain ⟨ms', hw⟩ := ih (life_turn hl t)
      exact ⟨ms ++ ms', hw.trans (by rw [h.wire_eq, List.append_assoc])⟩
  obtain ⟨ms, hw⟩ := hex
  rw [sent, hw, List.drop_left]

theorem sent_cons (hl : c.life = .running) {t : Turn} {ms : List Outgoing}
    (hw : (c.turn t).1.wire = c.wire ++ ms) (ts : List Turn) :
    c.sent (t :: ts) = ms ++ (c.turn t).1.sent ts := by
  have hts := wire_turns (life_turn hl t) ts
  rw [hw, List.append_assoc] at hts
  exact List.append_cancel_left ((wire_turns hl (t :: ts)).symm.trans hts)

end

/-- What is said about a document depends on the turns that concern it only. -/
theorem sent_of_concerning {url : Url} {c d : Client} (ha : Alike url c d) (ts : List Turn) :
    ((c.sent ts).filter fun m => m.document? = some url) =
      (d.sent (ts.filter (Turn.concerns url))).filter fun m => m.document? = some url := by
  induction ts generalizing c d with
  | nil => simp [sent, turns]
  | cons t ts ih =>
    by_cases hc : t.concerns url
    · obtain ⟨ha', ms, hcw, hdw⟩ := ha.turn hc
      rw [List.filter_cons_of_pos hc, sent_cons ha.running hcw, sent_cons ha.running' hdw,
        List.filter_append, List.filter_append, ih ha']
    · obtain ⟨ms, h⟩ := turn_effect ha.running t
      obtain ⟨hms, hv, hcon⟩ := h.frame (by simpa using hc)
      rw [List.filter_cons_of_neg hc, sent_cons ha.running h.wire_eq, List.filter_append, hms,
        List.nil_append]
      exact ih ⟨life_turn ha.running t, ha.running', ha.settings.trans h.settings_eq.symm,
        ha.connected.trans hcon.symm, ha.version.trans hv.symm⟩

end LspHost.Client
