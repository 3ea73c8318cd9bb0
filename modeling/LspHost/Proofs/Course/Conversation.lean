import LspHost.Proofs.Course.Effect
import LspHost.Proofs.Course.Phase

/-!
# The conversation of a client with its server

Four parties hand over messages without knowing of each other: the calls of the host, the first
exchange, the forwarder and whoever stops the client. Each of them sends only in the phase that the
state of the client, the stage of the exchange or the stage of stopping vouches for, and no
happening makes one of these vouch for a phase that has not been reached.
-/

namespace LspHost

/-- What has been said agrees with how far the first exchange has come. -/
def Handshake.Admits : Handshake → Phase → Prop
  | .unsent, p => p = .silent
  | .waiting _, p => p = .greeted
  | .announced _, p => p = .serving
  | .recorded, p => p = .serving
  | .forwarding, p => p = .serving
  | .ended, _ => True

def Handshake.IsBrokenOff (x : Handshake) : Prop :=
  x.brokenOff = x

theorem Handshake.isBrokenOff_brokenOff (x : Handshake) : x.brokenOff.IsBrokenOff := by
  cases x <;> rfl

def StopStage.awaitsExit : StopStage → Bool
  | .shutdown _ => true
  | .exit => true
  | _ => false

namespace Client

theorem stageAfterExit_awaitsExit (c : Client) : c.stageAfterExit.awaitsExit = false := by
  unfold stageAfterExit
  repeat' split
  all_goals rfl

theorem awaitsExit_of_advanceStop {c : Client} {stage : StopStage} {wait : Wait}
    (h : (c.advanceStop stage wait).2.awaitsExit) : stage.awaitsExit := by
  cases stage with
  | shutdown _ => rfl
  | exit => rfl
  | process => cases wait <;> exact h
  | kill => cases wait <;> exact h
  | connection => exact h
  | done => exact h
  | failed _ => exact h

end Client

namespace Course

/-- The course is in a phase of the conversation, and whoever might send something knows so. -/
structure InPhase (s : Course) (p : Phase) : Prop where
  said : Phase.after? (s.client.wire.map Outgoing.role) = some p
  unstarted : s.client.session = none → p = .silent
  exchange : s.stopping = none → ∀ session, s.client.session = some session →
    session.handshake.Admits p
  running : s.client.life = .running → p = .serving
  underWay : ∀ call ∈ s.calls, call.isUnderWay → s.stopping = none ∧ p = .serving
  unstopped : s.stopping = none → s.client.life ≠ .stopped ∧ p ≠ .closing ∧ p ≠ .finished
  stopped : s.stopping.isSome → s.client.life = .stopped ∧
    ∀ session, s.client.session = some session → session.handshake.IsBrokenOff
  unsaid : ∀ stage, s.stopping = some stage → stage.awaitsExit → p ≠ .finished

namespace InPhase

variable {s s' : Course} {p : Phase} {ms : List Outgoing}

theorem stopping_eq_none (hp : InPhase s p) {session : Session}
    (hs : s.client.session = some session) (hh : ¬ session.handshake.IsBrokenOff) :
    s.stopping = none := by
  by_contra hne
  exact hh ((hp.stopped (Option.isSome_iff_ne_none.mpr hne)).2 session hs)

theorem stopping_of_life (hp : InPhase s p) (hl : s.client.life ≠ .stopped) :
    s.stopping = none := by
  by_contra hne
  exact hl (hp.stopped (Option.isSome_iff_ne_none.mpr hne)).1

theorem admits (hp : InPhase s p) {session' : Session}
    (h : session'.handshake = .ended ∨
      ∃ session, s.client.session = some session ∧ session'.handshake = session.handshake) :
    (s.stopping = none → session'.handshake.Admits p) ∧
      (s.stopping.isSome → session'.handshake.IsBrokenOff) := by
  rcases h with he | ⟨session, hs, hh⟩
  · rw [he]
    exact ⟨fun _ => trivial, fun _ => rfl⟩
  · rw [hh]
    exact ⟨fun hst => hp.exchange hst session hs, fun hst => (hp.stopped hst).2 session hs⟩

theorem keep (hp : InPhase s p) (hw : s'.client.wire = s.client.wire ++ ms)
    (hm : ∀ m ∈ ms, p = .serving ∧ m.role = .body)
    (hn : s'.client.session = none → s.client.session = none)
    (hx : ∀ session', s'.client.session = some session' →
      (s.stopping = none → session'.handshake.Admits p) ∧
        (s.stopping.isSome → session'.handshake.IsBrokenOff))
    (hl : s'.client.life = s.client.life ∨
      s'.client.life = .failed ∧ s.client.life ≠ .stopped)
    (hc : ∀ call ∈ s'.calls, call.isUnderWay → s.stopping = none ∧ p = .serving)
    (hst : s'.stopping = s.stopping) : InPhase s' p where
  said := by
    rw [hw, List.map_append, Phase.after?_append, hp.said, Option.bind_some]
    cases ms with
    | nil => rfl
    | cons m ms =>
      rw [(hm m List.mem_cons_self).1]
      refine Phase.foldlM_body fun r hr => ?_
      obtain ⟨m', hm', rfl⟩ := List.mem_map.mp hr
      exact (hm m' hm').2
  unstarted h := hp.unstarted (hn h)
  exchange h session' hs := (hx session' hs).1 (hst ▸ h)
  running h := by
    rcases hl with hl | ⟨hl, -⟩
    · exact hp.running (hl ▸ h)
    · rw [hl] at h
      cases h
  underWay := by
    rw [hst]
    exact hc
  unstopped h := by
    obtain ⟨hne, hp'⟩ := hp.unstopped (hst ▸ h)
    refine ⟨?_, hp'⟩
    rcases hl with hl | ⟨hl, -⟩ <;> simp [hl, hne]
  stopped h := by
    rw [hst] at h
    refine ⟨?_, fun session' hs => (hx session' hs).2 h⟩
    rcases hl with hl | ⟨-, hl⟩
    · exact hl.trans (hp.stopped h).1
    · exact absurd (hp.stopped h).1 hl
  unsaid := by
    rw [hst]
    exact hp.unsaid

theorem calls_set (hp : InPhase s p) {i : Nat} {call' : Call}
    (h : call'.isUnderWay → s.stopping = none ∧ p = .serving) :
    ∀ call ∈ s.calls.set i call', call.isUnderWay → s.stopping = none ∧ p = .serving := by
  intro call hcall hu
  rcases List.mem_or_eq_of_mem_set hcall with hmem | rfl
  · exact hp.underWay call hmem hu
  · exact h hu

theorem ready (hp : InPhase s p) (hl : s.client.life = .running) :
    s.stopping = none ∧ p = .serving :=
  ⟨hp.stopping_of_life (by simp [hl]), hp.running hl⟩

theorem keep_document (hp : InPhase s p) {i : Nat} {call call' : Call}
    (hi : s.calls[i]? = some call) (hu : call.isUnderWay) (ho : call'.isUnderWay = false)
    {documents : Documents} {url : Url} (hm : ∀ m ∈ ms, m.document? = some url) :
    InPhase { s with
      client := { s.client with documents, wire := s.client.wire ++ ms }
      calls := s.calls.set i call' } p := by
  have hserving := (hp.underWay call (List.mem_of_getElem? hi) hu).2
  refine hp.keep rfl (fun m hmem => ⟨hserving, Outgoing.role_of_document (hm m hmem)⟩) id ?_
    (Or.inl rfl) (hp.calls_set (by simp [ho])) rfl
  exact fun session' hs => hp.admits (Or.inr ⟨session', hs, rfl⟩)

theorem keep_edit (hp : InPhase s p) {f : Session → Session} {life : Lifecycle}
    (hf : ∀ session, (f session).handshake = .ended ∨ (f session).handshake = session.handshake)
    (hl : life = s.client.life ∨ life = .failed ∧ s.client.life ≠ .stopped) :
    InPhase (s.setClient { s.client.editSession f with life }) p := by
  refine hp.keep (List.append_nil _).symm (List.forall_mem_nil _) Option.map_eq_none_iff.mp ?_ hl
    hp.underWay rfl
  intro session' hs'
  obtain ⟨session, hs, rfl⟩ := Option.map_eq_some_iff.mp hs'
  exact hp.admits ((hf session).imp id fun hh => ⟨session, hs, hh⟩)

theorem stop (hp : InPhase s p) {q : Phase} (ho : s.calls.all Call.isOver)
    (hw : s'.client.wire = s.client.wire ++ ms)
    (hq : (ms.map Outgoing.role).foldlM Phase.next? p = some q) (hover : q ≠ .finished)
    (hn : s'.client.session = none → q = .silent)
    (hx : ∀ session', s'.client.session = some session' → session'.handshake.IsBrokenOff)
    (hl : s'.client.life = .stopped) (hc : s'.calls = s.calls) (hst : s'.stopping.isSome) :
    InPhase s' q where
  said := by rw [hw, List.map_append, Phase.after?_append, hp.said, Option.bind_some, hq]
  unstarted := hn
  exchange h := by simp [h] at hst
  running h := by
    rw [hl] at h
    cases h
  underWay call hcall hu := by
    have hover := List.all_eq_true.mp ho call (hc ▸ hcall)
    cases call <;> simp [Call.isOver, Call.isUnderWay] at hover hu
  unstopped h := by simp [h] at hst
  stopped _ := ⟨hl, hx⟩
  unsaid _ _ _ := hover

theorem exchanged (hp : InPhase s p) {q : Phase} {session' : Session} (hst : s.stopping = none)
    (hw : s'.client.wire = s.client.wire ++ ms)
    (hq : (ms.map Outgoing.role).foldlM Phase.next? p = some q)
    (hs : s'.client.session = some session') (hx : session'.handshake.Admits q)
    (hpq : p = .serving → q = .serving) (hq' : q ≠ .closing ∧ q ≠ .finished)
    (hr : s'.client.life = .running → q = .serving) (hl : s'.client.life ≠ .stopped)
    (hc : s'.calls = s.calls) (hst' : s'.stopping = s.stopping) : InPhase s' q where
  said := by rw [hw, List.map_append, Phase.after?_append, hp.said, Option.bind_some, hq]
  unstarted h := by cases hs.symm.trans h
  exchange _ session h := by
    obtain rfl := Option.some.inj (hs.symm.trans h)
    exact hx
  running := hr
  underWay call hcall hu := by
    obtain ⟨hn, hserving⟩ := hp.underWay call (hc ▸ hcall) hu
    exact ⟨hst'.trans hn, hpq hserving⟩
  unstopped _ := ⟨hl, hq'⟩
  stopped h := by simp [hst', hst] at h
  unsaid stage h := by simp [hst', hst] at h

theorem waited (hp : InPhase s p) {q : Phase} {stage stage' : StopStage} {f : Session → Session}
    (hst : s.stopping = some stage) (hf : ∀ session, (f session).handshake = session.handshake)
    (hq : (ms.map Outgoing.role).foldlM Phase.next? p = some q)
    (hn : s.client.session = none → q = .silent) (hover : stage'.awaitsExit → q ≠ .finished) :
    InPhase { s with client := (s.client.editSession f).tell ms, stopping := some stage' } q := by
  obtain ⟨hl, hx⟩ := hp.stopped (hst ▸ rfl)
  have hx' : ∀ session', s.client.session.map f = some session' →
      session'.handshake.IsBrokenOff := by
    intro session' hs'
    obtain ⟨session, hs, rfl⟩ := Option.map_eq_some_iff.mp hs'
    rw [hf session]
    exact hx session hs
  refine ⟨?_, fun h => hn (Option.map_eq_none_iff.mp h), nofun, fun hr => ?_,
    fun call hcall hu => ?_, nofun, fun _ => ⟨hl, hx'⟩, ?_⟩
  · simp [Client.tell, Phase.after?_append, hp.said, ← hq]
  · cases hl.symm.trans hr
  · cases hst.symm.trans (hp.underWay call hcall hu).1
  · intro stage'' hstage
    obtain rfl := Option.some.inj hstage
    exact hover

theorem noticed (hp : InPhase s p) : InPhase (s.setClient s.client.markFailed) p := by
  unfold Client.markFailed
  split
  · next hl =>
    refine hp.keep (List.append_nil _).symm (List.forall_mem_nil _) id ?_
      (Or.inr ⟨rfl, fun hstopped => ?_⟩) hp.underWay rfl
    · exact fun session' hs => hp.admits (Or.inr ⟨session', hs, rfl⟩)
    · simp [hstopped, Lifecycle.isActive] at hl
  · exact hp

theorem step (hp : InPhase s p) {h : Happening} (e : Effect s h ms s') : ∃ q, InPhase s' q := by
  cases e with
  | nothing => exact ⟨p, hp⟩
  | begun _ hr root url child watcher hn hl =>
    obtain rfl := hp.unstarted hn
    have hst := hp.stopping_of_life (by simp [hl])
    exact ⟨.silent, hp.exchanged hst (List.append_nil _).symm rfl rfl rfl nofun (by simp) nofun
      nofun rfl rfl⟩
  | called _ hr call hc =>
    refine ⟨p, hp.keep (List.append_nil _).symm (List.forall_mem_nil _) id ?_ (Or.inl rfl) ?_ rfl⟩
    · exact fun session' hs => hp.admits (Or.inr ⟨session', hs, rfl⟩)
    · intro call' hcall hu
      rcases List.mem_append.mp hcall with hmem | hmem
      · exact hp.underWay call' hmem hu
      · rw [List.mem_singleton.mp hmem, hc] at hu
        cases hu
  | moved _ hr hi hfrom hto hready =>
    refine ⟨p, hp.keep (List.append_nil _).symm (List.forall_mem_nil _) id ?_ (Or.inl rfl) ?_ rfl⟩
    · exact fun session' hs => hp.admits (Or.inr ⟨session', hs, rfl⟩)
    · exact hp.calls_set fun hu => hp.ready (hready hu)
  | @opened t i url language text o hi ho =>
    subst ho
    exact ⟨p, hp.keep_document hi rfl rfl
      (Documents.document?_of_sent_openText _ url language text)⟩
  | @changed t i url text o hi ho =>
    subst ho
    exact ⟨p, hp.keep_document hi rfl rfl (Documents.document?_of_sent_changeText _ url text)⟩
  | taken t hi hv =>
    refine ⟨p, hp.keep (List.append_nil _).symm (List.forall_mem_nil _) id ?_ (Or.inl rfl) ?_ rfl⟩
    · exact fun session' hs => hp.admits (Or.inr ⟨session', hs, rfl⟩)
    · exact hp.calls_set fun _ => hp.underWay _ (List.mem_of_getElem? hi) rfl
  | @closed t i url o hi ho =>
    subst ho
    exact ⟨p, hp.keep_document hi rfl rfl (Documents.document?_of_sent_sendClose _ url)⟩
  | requested t hi hs hc =>
    have hserving := (hp.underWay _ (List.mem_of_getElem? hi) rfl).2
    refine ⟨p, hp.keep rfl (by simp [hserving, Outgoing.role]) nofun ?_ (Or.inl rfl)
      (hp.calls_set nofun) rfl⟩
    rintro session' hs'
    obtain rfl := Option.some.inj hs'
    exact hp.admits (Or.inr ⟨_, hs, rfl⟩)
  | greeted process params hs hh hc =>
    have hst := hp.stopping_eq_none hs (by simp [hh, Handshake.IsBrokenOff, Handshake.brokenOff])
    have hadmits := hp.exchange hst _ hs
    rw [hh] at hadmits
    obtain rfl : p = .silent := hadmits
    exact ⟨.greeted, hp.exchanged hst rfl rfl rfl rfl nofun (by simp)
      (fun hl => (nomatch hp.running hl)) (hp.unstopped hst).1 rfl rfl⟩
  | unanswered _ hr hs hh =>
    refine ⟨p, hp.keep_edit (fun _ => Or.inl rfl) ?_⟩
    by_cases hl : s.client.life = .starting
    · exact Or.inr (by simp [hl])
    · exact Or.inl (if_neg hl)
  | announced capabilities hs hh hc hd =>
    have hst := hp.stopping_eq_none hs (by simp [hh, Handshake.IsBrokenOff, Handshake.brokenOff])
    have hadmits := hp.exchange hst _ hs
    rw [hh] at hadmits
    obtain rfl : p = .greeted := hadmits
    exact ⟨.serving, hp.exchanged hst rfl rfl rfl rfl nofun (by simp) (fun _ => rfl)
      (hp.unstopped hst).1 rfl rfl⟩
  | recorded hs hh =>
    refine ⟨p, hp.keep (List.append_nil _).symm (List.forall_mem_nil _) nofun ?_ (Or.inl rfl)
      hp.underWay rfl⟩
    rintro session' hs'
    obtain rfl := Option.some.inj hs'
    refine ⟨fun hst => ?_, fun _ => rfl⟩
    have hadmits := hp.exchange hst _ hs
    rw [hh] at hadmits
    exact hadmits
  | promoted hs hh hl =>
    have hst := hp.stopping_of_life (by simp [hl])
    have hadmits := hp.exchange hst _ hs
    rw [hh] at hadmits
    obtain rfl : p = .serving := hadmits
    exact ⟨.serving, hp.exchanged hst (List.append_nil _).symm rfl rfl rfl id (by simp)
      (fun _ => rfl) nofun rfl rfl⟩
  | passedOver hs hh hl =>
    refine ⟨p, hp.keep (List.append_nil _).symm (List.forall_mem_nil _) nofun ?_ (Or.inl rfl)
      hp.underWay rfl⟩
    rintro session' hs'
    obtain rfl := Option.some.inj hs'
    exact hp.admits (Or.inl rfl)
  | reported events he => exact ⟨p, hp.keep_edit (fun _ => Or.inr rfl) (Or.inl rfl)⟩
  | took hf => exact ⟨p, hp.keep_edit (fun _ => Or.inr rfl) (Or.inl rfl)⟩
  | gathered hf => exact ⟨p, hp.keep_edit (fun _ => Or.inr rfl) (Or.inl rfl)⟩
  | heldNothing hf he => exact ⟨p, hp.keep_edit (fun _ => Or.inr rfl) (Or.inl rfl)⟩
  | sent hf he hc =>
    obtain ⟨session, hs, hh, -⟩ := Client.exists_session_of_forwarding hf
    have hst := hp.stopping_eq_none hs (by simp [hh, Handshake.IsBrokenOff, Handshake.brokenOff])
    have hadmits := hp.exchange hst session hs
    rw [hh] at hadmits
    obtain rfl : p = .serving := hadmits
    refine ⟨.serving, hp.keep rfl (by simp [Outgoing.role]) ?_ ?_ (Or.inl rfl) hp.underWay rfl⟩
    · exact Option.map_eq_none_iff.mp
    · intro session' hs'
      obtain ⟨session, hs, rfl⟩ := Option.map_eq_some_iff.mp hs'
      exact hp.admits (Or.inr ⟨session, hs, rfl⟩)
  | lost hf he hc => exact ⟨p, hp.keep_edit (fun _ => Or.inl rfl) (Or.inl rfl)⟩
  | disconnected => exact ⟨p, hp.keep_edit (fun _ => Or.inr rfl) (Or.inl rfl)⟩
  | noticed hc => exact ⟨p, hp.noticed⟩
  | stoppedUnstarted hn ho hs =>
    obtain rfl := hp.unstarted hs
    exact ⟨.silent, hp.stop ho (List.append_nil _).symm rfl nofun (fun _ => rfl)
      (fun session' hs' => by simp [hs] at hs') rfl rfl rfl⟩
  | stoppedRunning hn ho hs hl hc =>
    obtain rfl := hp.running hl
    refine ⟨.closing, hp.stop ho rfl rfl nofun nofun ?_ rfl rfl rfl⟩
    rintro session' hs'
    obtain rfl := Option.some.inj hs'
    exact Handshake.isBrokenOff_brokenOff _
  | stoppedOtherwise hn ho hs hl =>
    refine ⟨p, hp.stop ho (List.append_nil _).symm rfl (hp.unstopped hn).2.2 nofun ?_ rfl rfl rfl⟩
    rintro session' hs'
    obtain rfl := Option.some.inj hs'
    exact Handshake.isBrokenOff_brokenOff _
  | exited wait hst hc =>
    obtain ⟨session, hs, -⟩ := Client.exists_session_of_isConnected hc
    have hnext := Phase.next?_exit (hp.unsaid _ hst rfl)
    have hq : InPhase { s with
        client := (s.client.editSession id).tell [.exit]
        stopping := some s.client.stageAfterExit } .finished :=
      hp.waited hst (fun _ => rfl) (by simp [Outgoing.role, hnext]) (by simp [hs])
        (by simp [Client.stageAfterExit_awaitsExit])
    rw [Client.editSession_id] at hq
    exact ⟨.finished, hq⟩
  | @waitedFor wait stage hst hc =>
    obtain ⟨f, hf, hsame⟩ := Client.advanceStop_of_unsent hc wait
    have hq : InPhase { s with
        client := (s.client.editSession f).tell []
        stopping := some (s.client.advanceStop stage wait).2 } p :=
      hp.waited hst (fun session => (hsame session).1) rfl hp.unstarted
        fun hawaits => hp.unsaid stage hst (Client.awaitsExit_of_advanceStop hawaits)
    rw [Client.tell, List.append_nil] at hq
    exact ⟨p, hf ▸ hq⟩

end InPhase

theorem inPhase_ofSettings (settings : ClientSettings) : InPhase (ofSettings settings) .silent where
  said := rfl
  unstarted _ := rfl
  exchange _ session hs := by cases hs
  running h := by cases h
  underWay call hcall := by cases hcall
  unstopped _ := ⟨nofun, nofun, nofun⟩
  stopped h := by cases h
  unsaid stage h := by cases h

theorem inPhase_run (settings : ClientSettings) (hs : List Happening) :
    ∃ p, InPhase ((ofSettings settings).run hs) p := by
  induction hs using List.reverseRecOn with
  | nil => exact ⟨.silent, inPhase_ofSettings settings⟩
  | append_singleton hs h ih =>
    obtain ⟨p, hp⟩ := ih
    obtain ⟨ms, e⟩ := effect_step ((ofSettings settings).run hs) h
    rw [run_concat]
    exact hp.step e

/-- The first request has been sent and has neither been given up nor been answered. -/
def AwaitsAnswer (s : Course) : Prop :=
  ∃ session id, s.client.session = some session ∧ session.handshake = .waiting id

section

variable {s : Course} {h : Happening} {ms : List Outgoing}

theorem Sends.answered (hs : Sends s h ms) {m : Outgoing} (hm : m ∈ ms)
    (hr : m.role = .initialized) :
    s.AwaitsAnswer ∧ ∃ answer result, h = .answer answer ∧
      decodeAnswer Protocol.initializeResult answer = .ok result := by
  cases hs with
  | silence => cases hm
  | aboutDocument _ url hd => cases hr.symm.trans (Outgoing.role_of_document (hd m hm))
  | acknowledgement hs hh hd => exact ⟨⟨_, _, hs, hh⟩, _, _, rfl, hd⟩
  | _ =>
    cases List.mem_singleton.mp hm
    cases hr

end

end Course
end LspHost
