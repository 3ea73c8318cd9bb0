import LspHost.Client.Turns
import LspHost.Proofs.Client.Basic
import LspHost.Proofs.Documents.Store

/-!
# What a turn can do

`TurnEffect c turn ms e c'` lists what a turn can do to a running client: the messages it sends, the
edit it has accepted and the client it leaves behind. A turn sends what leads the server from a
store that matches the table to the next one. The table keeps up with it unless the turn is about an
open document and the connection is over, which the turn learns of only after it has changed the
table.
-/

namespace LspHost.Client

/-- What a turn asks for, if the selector and the file system let it. -/
def edit? (c : Client) : Turn → Option Edit
  | .didOpen url language text => if c.selects url language then some (.text url text) else none
  | .didChange url text => some (.text url text)
  | .didClose url => some (.close url)
  | .openFile t path =>
    match readDocument t path with
    | .ok (url, language, text) => if c.selects url language then some (.text url text) else none
    | .error _ => none
  | .disconnect => none

/-- What a turn has done according to its result. -/
def accepted? (c : Client) (turn : Turn) : Option Edit :=
  match (c.turn turn).2 with
  | .ok true => c.edit? turn
  | _ => none

/-- A turn about an open document meets the end of the connection. -/
def Loses (c : Client) (turn : Turn) : Prop :=
  c.isConnected = false ∧ ∃ e, c.edit? turn = some e ∧ (c.documents.version? e.url).isSome

/-- What a turn can do to a running client: with the messages sent and the edit accepted. -/
inductive TurnEffect (c : Client) (turn : Turn) : List Outgoing → Option Edit → Client → Prop
  | nothing (hno : ¬ c.Loses turn) : TurnEffect c turn [] none c
  | disconnected (hd : turn = .disconnect) : TurnEffect c turn [] none c.disconnect
  | opened {url : Url} {language text : String} (hu : turn.url? = some url) (hc : c.isConnected)
      (hv : c.documents.version? url = none) :
      TurnEffect c turn [.didOpen url language 1 text] (some (.text url text))
        ({ c with documents := c.documents.insert url 1 }.tell [.didOpen url language 1 text])
  | changed {url : Url} {v : Int32} {text : String} (hu : turn.url? = some url)
      (hc : c.isConnected) (hv : c.documents.version? url = some v) :
      TurnEffect c turn [.didChange url (v + 1) text] (some (.text url text))
        ({ c with documents := c.documents.insert url (v + 1) }.tell [.didChange url (v + 1) text])
  | closed {url : Url} {v : Int32} (hu : turn.url? = some url) (hc : c.isConnected)
      (hv : c.documents.version? url = some v) :
      TurnEffect c turn [.didClose url] (some (.close url))
        ({ c with documents := c.documents.erase url }.tell [.didClose url])
  | changeLost {url : Url} {v : Int32} (hu : turn.url? = some url) (hl : c.Loses turn)
      (hv : c.documents.version? url = some v) :
      TurnEffect c turn [] none { c with documents := c.documents.insert url (v + 1) }
  | closeLost {url : Url} {v : Int32} (hu : turn.url? = some url) (hl : c.Loses turn)
      (hv : c.documents.version? url = some v) :
      TurnEffect c turn [] none { c with documents := c.documents.erase url }

section

variable {c : Client} {turn : Turn}

theorem not_loses_of_connected (hc : c.isConnected) : ¬ c.Loses turn := by
  rintro ⟨hnc, -⟩
  cases hc.symm.trans hnc

theorem accepted?_of_result {e : Option Edit} (he : c.edit? turn = e)
    (hr : (c.turn turn).2 = .ok true) : c.accepted? turn = e := by
  simp [accepted?, hr, he]

theorem accepted?_of_error {e : ClientError} (hr : (c.turn turn).2 = .error e) :
    c.accepted? turn = none := by
  simp [accepted?, hr]

theorem effect_idle {e : Option Edit} (he : c.edit? turn = e)
    (hno : ∀ e', e = some e' → c.documents.version? e'.url = none)
    {r : Except ClientError Bool} (ht : c.turn turn = (c, r)) (hr : r ≠ .ok true) :
    ∃ ms, TurnEffect c turn ms (c.accepted? turn) (c.turn turn).1 := by
  have hnone : c.accepted? turn = none := by
    unfold accepted?
    rw [ht]
    split
    · next h => exact absurd h hr
    · rfl
  rw [hnone, ht]
  refine ⟨[], .nothing ?_⟩
  rintro ⟨-, e', he', hsome⟩
  rw [hno e' (he.symm.trans he')] at hsome
  cases hsome

theorem effect_refused {e : Option Edit} (he : c.edit? turn = e)
    (hno : ∀ e', e = some e' → c.documents.version? e'.url = none)
    {error : ClientError} (ht : c.turn turn = (c, .error error)) :
    ∃ ms, TurnEffect c turn ms (c.accepted? turn) (c.turn turn).1 := by
  refine effect_idle he hno ht ?_
  intro h
  cases h

theorem effect_change {url : Url} {text : String} {v : Int32} {e : ClientError}
    (hu : turn.url? = some url) (he : c.edit? turn = some (.text url text))
    (hv : c.documents.version? url = some v)
    (ht : c.turn turn = ({ c with
      documents := c.documents.insert url (v + 1)
      wire := c.wire ++ if c.isConnected then [.didChange url (v + 1) text] else [] },
      if c.isConnected then .ok true else .error e)) :
    ∃ ms, TurnEffect c turn ms (c.accepted? turn) (c.turn turn).1 := by
  cases hc : c.isConnected with
  | true =>
    rw [hc, if_pos rfl, if_pos rfl] at ht
    rw [accepted?_of_result he (by rw [ht]), ht]
    exact ⟨_, .changed hu hc hv⟩
  | false =>
    rw [hc, if_neg nofun, if_neg nofun, List.append_nil] at ht
    rw [accepted?_of_error (by rw [ht]), ht]
    exact ⟨[], .changeLost hu ⟨hc, _, he, by simp [Edit.url, hv]⟩ hv⟩

theorem effect_didOpen (hl : c.life = .running) {url : Url} {language text : String}
    (hu : turn.url? = some url)
    (he : c.edit? turn = if c.selects url language then some (.text url text) else none)
    (ht : c.turn turn = c.didOpen url language text) :
    ∃ ms, TurnEffect c turn ms (c.accepted? turn) (c.turn turn).1 := by
  unfold didOpen at ht
  by_cases hsel : c.selects url language
  · rw [if_pos hsel] at he
    rw [if_pos hsel, whenReady_of_running hl, openText] at ht
    cases hv : c.documents.version? url with
    | some v =>
      rw [Documents.openText_of_open hv, applyOutcome_sendChange] at ht
      exact effect_change hu he hv ht
    | none =>
      cases hc : c.isConnected with
      | true =>
        rw [hc, Documents.openText_of_closed hv] at ht
        rw [accepted?_of_result he (by rw [ht]; rfl), ht]
        exact ⟨_, .opened hu hc hv⟩
      | false =>
        rw [hc, Documents.openText_of_closed_lost hv, applyOutcome_hand_lost] at ht
        refine effect_refused he (fun e' h => ?_) ht
        obtain rfl := Option.some.inj h
        exact hv
  · rw [if_neg hsel] at he ht
    exact effect_idle he nofun ht nofun

theorem effect_didChange (hl : c.life = .running) (url : Url) (text : String) :
    ∃ ms, TurnEffect c (.didChange url text) ms (c.accepted? (.didChange url text))
      (c.turn (.didChange url text)).1 := by
  have ht : c.turn (.didChange url text) =
      (c.changeText url text).map id fun r => r.map fun _ => true := by
    rw [turn, didChange, whenReady_of_running hl]
  cases hv : c.documents.version? url with
  | some v =>
    rw [changeText, Documents.changeText_of_open hv, applyOutcome_sendChange] at ht
    have hmap : c.turn (.didChange url text) = ({ c with
        documents := c.documents.insert url (v + 1)
        wire := c.wire ++ if c.isConnected then [.didChange url (v + 1) text] else [] },
        if c.isConnected then .ok true else .error (.requestFailed
          ("didChange notification failed: " ++ Documents.serviceStopped))) := by
      rw [ht]
      cases c.isConnected <;> rfl
    exact effect_change rfl rfl hv hmap
  | none =>
    have hrefused : c.turn (.didChange url text) = (c, .error (Documents.notOpen url)) := by
      rw [ht, changeText_of_closed hv]
      rfl
    refine effect_refused rfl (fun e' h => ?_) hrefused
    obtain rfl := Option.some.inj h
    exact hv

theorem effect_didClose (hl : c.life = .running) (url : Url) :
    ∃ ms, TurnEffect c (.didClose url) ms (c.accepted? (.didClose url))
      (c.turn (.didClose url)).1 := by
  have ht : c.turn (.didClose url) = (c.close url).map id fun r => r.map fun _ => true := by
    rw [turn, didClose, whenReady_of_running hl]
  cases hv : c.documents.version? url with
  | none =>
    have hrefused : c.turn (.didClose url) = (c, .error (Documents.notOpen url)) := by
      rw [ht, close_of_closed hv]
      rfl
    refine effect_refused rfl (fun e' h => ?_) hrefused
    obtain rfl := Option.some.inj h
    exact hv
  | some v =>
    rw [close_of_open hv] at ht
    cases hc : c.isConnected with
    | true =>
      rw [hc] at ht
      rw [accepted?_of_result rfl (by rw [ht]; rfl), ht]
      exact ⟨_, .closed rfl hc hv⟩
    | false =>
      rw [hc, applyOutcome_hand_lost] at ht
      rw [accepted?_of_error (by rw [ht]; rfl), ht]
      exact ⟨[], .closeLost rfl ⟨hc, _, rfl, by simp [Edit.url, hv]⟩ hv⟩

theorem turn_effect (hl : c.life = .running) (turn : Turn) :
    ∃ ms, TurnEffect c turn ms (c.accepted? turn) (c.turn turn).1 := by
  cases turn with
  | didOpen url language text => exact effect_didOpen hl rfl rfl rfl
  | didChange url text => exact effect_didChange hl url text
  | didClose url => exact effect_didClose hl url
  | openFile t path =>
    cases hd : readDocument t path with
    | error e =>
      have he : c.edit? (.openFile t path) = none := by simp [edit?, hd]
      have hrefused : c.turn (.openFile t path) = (c, .error e) := by
        simp [Client.turn, openFile, hd]
      refine effect_refused he ?_ hrefused
      intro e' h
      cases h
    | ok document =>
      obtain ⟨url, language, text⟩ := document
      have hu : (Turn.openFile t path).url? = some url := by simp [Turn.url?, hd]
      have he : c.edit? (.openFile t path) =
          if c.selects url language then some (.text url text) else none := by simp [edit?, hd]
      have ht : c.turn (.openFile t path) = c.didOpen url language text := by
        simp [Client.turn, openFile, hd]
      exact effect_didOpen hl hu he ht
  | disconnect => exact ⟨[], .disconnected rfl⟩

end

/-- As long as the connection stands, the table matches a store. -/
def Follows (c : Client) (st : Store) : Prop :=
  c.isConnected → ∀ url, c.documents.Matches st url

namespace TurnEffect

variable {c c' : Client} {turn : Turn} {ms : List Outgoing} {e : Option Edit} {st : Store}

theorem wire_eq (h : TurnEffect c turn ms e c') : c'.wire = c.wire ++ ms := by
  cases h <;> simp [tell, disconnect]

theorem life_eq (h : TurnEffect c turn ms e c') : c'.life = c.life := by
  cases h <;> rfl

theorem connected (h : TurnEffect c turn ms e c') (hc : c'.isConnected) : c.isConnected := by
  cases h with
  | disconnected => cases hs : c.session <;> simp [disconnect, isConnected, hs] at hc
  | _ => exact hc

theorem received (h : TurnEffect c turn ms e c') (hf : Follows c st)
    (hb : (st.edits e.toList).Bounded) : st.receiveAll? ms = some (st.edits e.toList) := by
  cases h with
  | @opened url language text hu hc hv =>
    have hst := (hf hc url).eq_none hv
    rw [Option.toList_some, Store.edits_first_text hst, Store.receiveAll?_singleton,
      Store.receive?_didOpen hst]
  | @changed url v text hu hc hv =>
    have hst := (hf hc url).eq_some hv
    have hne := Store.ne_maxValue_of_bounded hst hb
    rw [Option.toList_some, Store.edits_next_text hst, Store.receiveAll?_singleton,
      Store.receive?_next hst hne, (toInt_next_version v).mpr hne]
  | @closed url v hu hc hv =>
    have hst : (st url).isSome := (hf hc url).isSome_iff.mpr (by simp [hv])
    rw [Option.toList_some, Store.edits_close, Store.receiveAll?_singleton,
      Store.receive?_didClose hst]
  | _ => rfl

theorem matches_iff (h : TurnEffect c turn ms e c') (hm : ∀ url, c.documents.Matches st url)
    (hb : (st.edits e.toList).Bounded) :
    (∀ url, c'.documents.Matches (st.edits e.toList) url) ↔ ¬ c.Loses turn := by
  cases h with
  | nothing hno => exact iff_of_true hm hno
  | disconnected hd =>
    subst hd
    refine iff_of_true hm ?_
    rintro ⟨-, e, he, -⟩
    cases he
  | @opened url language text hu hc hv =>
    refine iff_of_true (fun other => ?_) (not_loses_of_connected hc)
    rw [Option.toList_some, Store.edits_first_text ((hm url).eq_none hv)]
    by_cases ho : other = url
    · subst ho
      exact Documents.matches_insert 1 text
    · exact Documents.matches_of_ne (hm other) ho (Documents.version?_insert_of_ne _ ho 1) _
  | @changed url v text hu hc hv =>
    have hst := (hm url).eq_some hv
    have hne := Store.ne_maxValue_of_bounded hst hb
    refine iff_of_true (fun other => ?_) (not_loses_of_connected hc)
    rw [Option.toList_some, Store.edits_next_text hst, ← (toInt_next_version v).mpr hne]
    by_cases ho : other = url
    · subst ho
      exact Documents.matches_insert (v + 1) text
    · exact Documents.matches_of_ne (hm other) ho (Documents.version?_insert_of_ne _ ho _) _
  | @closed url v hu hc hv =>
    refine iff_of_true (fun other => ?_) (not_loses_of_connected hc)
    by_cases ho : other = url
    · subst ho
      exact Documents.matches_erase
    · exact Documents.matches_of_ne (hm other) ho (Documents.version?_erase_of_ne _ ho) _
  | @changeLost url v hu hl hv =>
    exact iff_of_false
      (fun hall => Documents.not_matches_insert ((hm url).eq_some hv) (hall url)) (not_not_intro hl)
  | @closeLost url v hu hl hv =>
    have hst : (st url).isSome := (hm url).isSome_iff.mpr (by simp [hv])
    exact iff_of_false (fun hall => Documents.not_matches_erase hst (hall url)) (not_not_intro hl)

theorem follows (h : TurnEffect c turn ms e c') (hf : Follows c st)
    (hb : (st.edits e.toList).Bounded) : Follows c' (st.edits e.toList) := fun hc =>
  have hc := h.connected hc
  (h.matches_iff (hf hc) hb).mpr (not_loses_of_connected hc)

/-- A turn that does not concern a document leaves it alone. -/
theorem frame (h : TurnEffect c turn ms e c') {url : Url} (hn : turn.concerns url = false) :
    (ms.filter fun m => m.document? = some url) = [] ∧
      c'.documents.version? url = c.documents.version? url ∧ c'.isConnected = c.isConnected := by
  have hne : ∀ {u : Url}, turn.url? = some u → url ≠ u := by
    rintro u hu rfl
    cases turn <;> simp [Turn.concerns, hu] at hn
  cases h with
  | nothing => exact ⟨rfl, rfl, rfl⟩
  | disconnected hd =>
    subst hd
    cases hn
  | opened hu hc hv =>
    have ho := hne hu
    exact ⟨by simp [Outgoing.document?, ho.symm], Documents.version?_insert_of_ne _ ho _, rfl⟩
  | changed hu hc hv =>
    have ho := hne hu
    exact ⟨by simp [Outgoing.document?, ho.symm], Documents.version?_insert_of_ne _ ho _, rfl⟩
  | closed hu hc hv =>
    have ho := hne hu
    exact ⟨by simp [Outgoing.document?, ho.symm], Documents.version?_erase_of_ne _ ho, rfl⟩
  | changeLost hu hl hv => exact ⟨rfl, Documents.version?_insert_of_ne _ (hne hu) _, rfl⟩
  | closeLost hu hl hv => exact ⟨rfl, Documents.version?_erase_of_ne _ (hne hu), rfl⟩

theorem settings_eq (h : TurnEffect c turn ms e c') : c'.settings = c.settings := by
  cases h <;> rfl

end TurnEffect

end LspHost.Client
