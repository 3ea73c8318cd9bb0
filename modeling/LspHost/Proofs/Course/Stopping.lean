import LspHost.Proofs.Course.Life

/-!
# Stopping a client

From the stop on, nothing that goes on beside it is heard by the server or touches its process, and
every wait brings the stop a stage further. So the stop is over after five waits, whatever has
become of the things waited for.
-/

namespace LspHost

/-- The number of waits that are left at most. -/
def StopStage.remaining : StopStage → Nat
  | shutdown _ => 5
  | exit => 4
  | process => 3
  | kill => 2
  | connection => 1
  | done => 0
  | failed _ => 0

theorem StopStage.remaining_eq_zero_iff {stage : StopStage} :
    stage.remaining = 0 ↔ stage.result?.isSome := by
  cases stage <;> simp [remaining, result?]

def Happening.isWait : Happening → Bool
  | waited _ => true
  | _ => false

namespace Client

def child? (c : Client) : Option Child :=
  c.session.bind (·.child)

/-- What a client says to its server when it begins to stop. -/
def farewell (c : Client) : List Outgoing :=
  match c.session with
  | some session =>
    if c.life = .running ∧ session.connected then [.shutdown session.nextId] else []
  | none => []

theorem remaining_stageAfterExit (c : Client) : c.stageAfterExit.remaining ≤ 3 := by
  unfold stageAfterExit
  repeat' split
  all_goals simp [StopStage.remaining]

theorem stageAfterExit_ne_failed (c : Client) (e : ClientError) : c.stageAfterExit ≠ .failed e := by
  unfold stageAfterExit
  repeat' split
  all_goals nofun

theorem failed_of_advanceStop {c : Client} {stage : StopStage} {wait : Wait} {e : ClientError}
    (h : (c.advanceStop stage wait).2 = .failed e) : stage = .failed e ∨
      ∃ reason, stage = .kill ∧ wait = .failed reason ∧ e = .killFailed reason := by
  cases stage with
  | kill =>
    cases wait with
    | failed reason => exact Or.inr ⟨reason, rfl, rfl, (StopStage.failed.inj h).symm⟩
    | _ => cases h
  | failed _ => exact Or.inl h
  | exit => exact absurd h (stageAfterExit_ne_failed _ e)
  | process => cases wait <;> cases h
  | _ => cases h

theorem result?_advanceStop {c : Client} {stage : StopStage} {r : Except ClientError Unit}
    (h : stage.result? = some r) (wait : Wait) :
    (c.advanceStop stage wait).2.result? = some r := by
  cases stage with
  | done => exact h
  | failed _ => exact h
  | _ => cases h

theorem awaitsExit_advanceStop {c : Client} {stage : StopStage} {wait : Wait}
    (h : stage ≠ .exit) : (c.advanceStop stage wait).2.awaitsExit = stage.awaitsExit := by
  cases stage with
  | exit => exact absurd rfl h
  | process => cases wait <;> rfl
  | kill => cases wait <;> rfl
  | _ => rfl

theorem remaining_advanceStop (c : Client) (stage : StopStage) (wait : Wait) :
    (c.advanceStop stage wait).2.remaining ≤ stage.remaining - 1 := by
  cases stage with
  | shutdown _ => exact Nat.le_refl 4
  | exit => exact (c.handNotification .exit).remaining_stageAfterExit
  | process => cases wait <;> simp [advanceStop, StopStage.remaining]
  | kill => cases wait <;> simp [advanceStop, StopStage.remaining]
  | connection => exact Nat.le_refl 0
  | done => exact Nat.le_refl 0
  | failed _ => exact Nat.le_refl 0

end Client

namespace Course

def stopResult? (s : Course) : Option (Except ClientError Unit) :=
  s.stopping.bind StopStage.result?

/-- What goes on beside a stop leaves the stop, the server and its process alone, and cannot bring
the connection back. -/
structure Aside (s s' : Course) : Prop where
  stopping : s'.stopping = s.stopping
  wire : s'.client.wire = s.client.wire
  child : s'.client.child? = s.client.child?
  connected : s.client.isConnected = false → s'.client.isConnected = false

variable {s s' : Course} {p : Phase} {h : Happening} {ms : List Outgoing}

theorem Aside.refl (s : Course) : Aside s s :=
  ⟨rfl, rfl, rfl, id⟩

theorem aside_session {session session' : Session} (hs : s.client.session = some session)
    (hs' : s'.client.session = some session') (hst : s'.stopping = s.stopping)
    (hw : s'.client.wire = s.client.wire) (hchild : session'.child = session.child)
    (hc : session.connected = false → session'.connected = false) : Aside s s' where
  stopping := hst
  wire := hw
  child := by simp [Client.child?, hs, hs', hchild]
  connected h := by
    rw [Client.isConnected_of_session hs] at h
    rw [Client.isConnected_of_session hs', hc h]

theorem aside_editSession {f : Session → Session}
    (hf : ∀ session, (f session).child = session.child)
    (hc : ∀ session, session.connected = false → (f session).connected = false) :
    Aside s (s.setClient (s.client.editSession f)) := by
  cases hs : s.client.session with
  | none =>
    exact ⟨rfl, rfl, by simp [Client.child?, setClient, hs],
      by simp [Client.isConnected, setClient, hs]⟩
  | some session =>
    have hs' : (s.client.editSession f).session = some (f session) := by simp [hs]
    exact aside_session hs hs' rfl rfl (hf session) (hc session)

theorem Effect.aside (e : Effect s h ms s') (hp : InPhase s p) (hst : s.stopping.isSome)
    (hw : ∀ wait, h ≠ .waited wait) : Aside s s' := by
  have hidle : ∀ call ∈ s.calls, call.isUnderWay = false := by
    intro call hcall
    by_contra hu
    have hnone := (hp.underWay call hcall (by simpa using hu)).1
    simp [hnone] at hst
  have hbroken : ∀ session, s.client.session = some session → session.handshake.IsBrokenOff :=
    (hp.stopped hst).2
  have hlife := (hp.stopped hst).1
  cases e with
  | nothing => exact .refl s
  | begun _ hr root url child watcher hn hl => cases hl.symm.trans hlife
  | called _ hr call hc => exact ⟨rfl, rfl, rfl, id⟩
  | moved => exact ⟨rfl, rfl, rfl, id⟩
  | opened t hi ho => cases hidle _ (List.mem_of_getElem? hi)
  | changed t hi ho => cases hidle _ (List.mem_of_getElem? hi)
  | taken t hi hv => exact ⟨rfl, rfl, rfl, id⟩
  | closed t hi ho => cases hidle _ (List.mem_of_getElem? hi)
  | requested t hi hs hc => cases hidle _ (List.mem_of_getElem? hi)
  | greeted process params hs hh hc =>
    have hx := hbroken _ hs
    simp [hh, Handshake.IsBrokenOff, Handshake.brokenOff] at hx
  | unanswered _ hr hs hh =>
    have hx := hbroken _ hs
    rcases hh with hh | ⟨id, hh⟩ <;> simp [hh, Handshake.IsBrokenOff, Handshake.brokenOff] at hx
  | announced capabilities hs hh hc =>
    have hx := hbroken _ hs
    simp [hh, Handshake.IsBrokenOff, Handshake.brokenOff] at hx
  | recorded hs hh => exact aside_session hs rfl rfl rfl rfl id
  | promoted hs hh hl => cases hl.symm.trans hlife
  | passedOver hs hh hl => exact aside_session hs rfl rfl rfl rfl id
  | reported events he => exact aside_editSession (fun _ => rfl) fun _ => id
  | took hf => exact aside_editSession (fun _ => rfl) fun _ => id
  | gathered hf => exact aside_editSession (fun _ => rfl) fun _ => id
  | heldNothing hf he => exact aside_editSession (fun _ => rfl) fun _ => id
  | sent hf he hc =>
    obtain ⟨session, hs, hh, -⟩ := Client.exists_session_of_forwarding hf
    have hx := hbroken _ hs
    simp [hh, Handshake.IsBrokenOff, Handshake.brokenOff] at hx
  | lost hf he hc => exact aside_editSession (fun _ => rfl) fun _ => id
  | disconnected => exact aside_editSession (fun _ => rfl) fun _ _ => rfl
  | noticed hc =>
    rw [Client.markFailed, if_neg (by simp [hlife, Lifecycle.isActive])]
    exact .refl s
  | stoppedUnstarted hn => simp [hn] at hst
  | stoppedRunning hn => simp [hn] at hst
  | stoppedOtherwise hn => simp [hn] at hst
  | exited wait => exact absurd rfl (hw wait)
  | waitedFor wait => exact absurd rfl (hw wait)

theorem waited_of_stopping {stage : StopStage} (hst : s.stopping = some stage) (wait : Wait) :
    s.waited wait =
      { s with
        client := (s.client.advanceStop stage wait).1
        stopping := some (s.client.advanceStop stage wait).2 } := by
  rw [waited, hst]

/-- What is left of the session once the stop is over with the process, and with the connection. -/
def StopLeaves (c : Client) : StopStage → Prop
  | .connection => c.child? ≠ some .running
  | .done => c.child? ≠ some .running ∧ c.isConnected = false
  | _ => True

theorem stopLeaves_stageAfterExit (c : Client) : StopLeaves c c.stageAfterExit := by
  rw [Client.stageAfterExit]
  cases hs : c.session with
  | none => exact ⟨by simp [Client.child?, hs], by simp [Client.isConnected, hs]⟩
  | some session =>
    by_cases hchild : session.child.isSome
    · simp only [if_pos hchild]
      trivial
    · simp only [if_neg hchild, StopLeaves, Client.child?, hs, Option.bind_some]
      simp [Option.not_isSome_iff_eq_none.mp hchild]

theorem StopLeaves.advance {c : Client} {stage : StopStage} (h : StopLeaves c stage)
    (wait : Wait) : StopLeaves (c.advanceStop stage wait).1 (c.advanceStop stage wait).2 := by
  have hchild : ∀ child, child ≠ .running → (c.setChild child).child? ≠ some .running := by
    intro child hne
    cases hs : c.session <;> simp [Client.setChild, Client.child?, hs, hne]
  cases stage with
  | shutdown _ => trivial
  | exit => exact stopLeaves_stageAfterExit _
  | process =>
    cases wait with
    | happened => exact hchild _ nofun
    | expired => trivial
    | failed _ => exact hchild _ nofun
  | kill =>
    cases wait with
    | happened => exact hchild _ nofun
    | expired => exact hchild _ nofun
    | failed _ => trivial
  | connection =>
    have hsame : c.disconnect.child? = c.child? := by
      cases hs : c.session <;> simp [Client.disconnect, Client.child?, hs]
    exact ⟨hsame ▸ h, c.isConnected_disconnect⟩
  | done => exact h
  | failed _ => trivial

theorem StopLeaves.aside {stage : StopStage} (h : StopLeaves s.client stage) (ha : Aside s s') :
    StopLeaves s'.client stage := by
  cases stage with
  | connection =>
    rw [StopLeaves, ha.child]
    exact h
  | done =>
    rw [StopLeaves, ha.child]
    exact ⟨h.1, ha.connected h.2⟩
  | _ => trivial

/-- At one of the waits the server is told to exit, if it can still be told. -/
def TellsExit (s : Course) (more : List Happening) (told : List Outgoing) : Prop :=
  ∃ before wait later, more = before ++ .waited wait :: later ∧
    (s.run before).stopping = some .exit ∧
    told = if (s.run before).client.isConnected then [.exit] else []

/-- At one of the waits it turns out that the process cannot be ended. -/
def KillFails (s : Course) (more : List Happening) (reason : String) : Prop :=
  ∃ before later, more = before ++ .waited (.failed reason) :: later ∧
    (s.run before).stopping = some .kill

theorem TellsExit.concat {more : List Happening} {told : List Outgoing}
    (ht : s.TellsExit more told) (h : Happening) : s.TellsExit (more ++ [h]) told := by
  obtain ⟨before, wait, later, rfl, hexit⟩ := ht
  exact ⟨before, wait, later ++ [h], by simp, hexit⟩

theorem KillFails.concat {more : List Happening} {reason : String} (hk : s.KillFails more reason)
    (h : Happening) : s.KillFails (more ++ [h]) reason := by
  obtain ⟨before, later, rfl, hkill⟩ := hk
  exact ⟨before, later ++ [h], by simp, hkill⟩

section Run

variable {settings : ClientSettings} {hs : List Happening} {t : Course}
  (ht : (ofSettings settings).run hs = t) {stage₀ : StopStage} (hst : t.stopping = some stage₀)

include ht hst

/-- While a client is being stopped, only the waits take the stop from stage to stage. -/
theorem stop_induction {P : List Happening → StopStage → Client → Prop}
    (hstart : P [] stage₀ t.client)
    (haside : ∀ {more h stage s'}, h.isWait = false → Aside (t.run more) s' →
      P more stage (t.run more).client → P (more ++ [h]) stage s'.client)
    (hwait : ∀ {more stage} wait, (t.run more).stopping = some stage →
      P more stage (t.run more).client → P (more ++ [.waited wait])
        ((t.run more).client.advanceStop stage wait).2
        ((t.run more).client.advanceStop stage wait).1) (more : List Happening) :
    ∃ stage, (t.run more).stopping = some stage ∧ P more stage (t.run more).client := by
  induction more using List.reverseRecOn with
  | nil => exact ⟨stage₀, hst, hstart⟩
  | append_singleton more h ih =>
    obtain ⟨stage, hstage, hP⟩ := ih
    rw [run_concat]
    cases hw : h.isWait with
    | true =>
      obtain ⟨wait, rfl⟩ : ∃ wait, h = .waited wait := by
        cases h <;> first | exact ⟨_, rfl⟩ | cases hw
      have hstep : (t.run more).step (.waited wait) = _ := waited_of_stopping hstage wait
      rw [hstep]
      exact ⟨_, rfl, hwait wait hstage hP⟩
    | false =>
      obtain ⟨p, hp⟩ := inPhase_run settings (hs ++ more)
      rw [run_append, ht] at hp
      obtain ⟨ms, e⟩ := effect_step (t.run more) h
      have ha := e.aside hp (Option.isSome_of_eq_some hstage) fun wait heq => by
        simp [heq, Happening.isWait] at hw
      exact ⟨stage, ha.stopping.trans hstage, haside hw ha hP⟩

/-- Every wait takes one of the waits that are left. -/
theorem remaining_run (more : List Happening) : ∃ stage, (t.run more).stopping = some stage ∧
    stage.remaining ≤ 5 - more.countP Happening.isWait := by
  refine stop_induction ht hst
    (P := fun more stage _ => stage.remaining ≤ 5 - more.countP Happening.isWait) ?_ ?_ ?_ more
  · cases stage₀ <;> simp [StopStage.remaining]
  · intro more h stage s' hw ha hle
    simpa [hw] using hle
  · intro more stage wait hstage hle
    have hnext := (t.run more).client.remaining_advanceStop stage wait
    simp [Happening.isWait]
    omega

theorem stopLeaves_run (hleaves : StopLeaves t.client stage₀) (more : List Happening) :
    ∃ stage, (t.run more).stopping = some stage ∧ StopLeaves (t.run more).client stage :=
  stop_induction ht hst (P := fun _ stage c => StopLeaves c stage) hleaves
    (fun _ ha hl => hl.aside ha) (fun wait _ hl => hl.advance wait) more

/-- The server hears nothing but the exit, at the wait at which it is told of it. -/
theorem told_run (more : List Happening) : ∃ stage, (t.run more).stopping = some stage ∧
    (stage.awaitsExit = stage₀.awaitsExit ∧ (t.run more).client.wire = t.client.wire ∨
      stage.awaitsExit = false ∧ ∃ told, t.TellsExit more told ∧
        (t.run more).client.wire = t.client.wire ++ told) := by
  refine stop_induction ht hst
    (P := fun more stage c => stage.awaitsExit = stage₀.awaitsExit ∧ c.wire = t.client.wire ∨
      stage.awaitsExit = false ∧ ∃ told, t.TellsExit more told ∧ c.wire = t.client.wire ++ told)
    (Or.inl ⟨rfl, rfl⟩) ?_ ?_ more
  · intro more h stage s' _ ha hsaid
    rw [ha.wire]
    exact hsaid.imp_right fun ⟨hover, told, htold, hw⟩ => ⟨hover, told, htold.concat h, hw⟩
  · intro more stage wait hstage hsaid
    by_cases hexit : stage = .exit
    · subst hexit
      obtain ⟨-, hw⟩ | ⟨hover, -⟩ := hsaid
      · refine Or.inr ⟨Client.stageAfterExit_awaitsExit _, _,
          ⟨more, wait, [], rfl, hstage, rfl⟩, ?_⟩
        simp only [Client.advanceStop, Client.handNotification]
        split_ifs
        · rw [hw]
        · rw [hw, List.append_nil]
      · cases hover
    · obtain ⟨f, hf, -⟩ := Client.advanceStop_of_unsent (fun h => absurd h hexit) wait
      rw [Client.awaitsExit_advanceStop hexit, hf, Client.editSession_wire]
      exact hsaid.imp_right fun ⟨hover, told, htold, hw⟩ => ⟨hover, told, htold.concat _, hw⟩

theorem failed_run (hnot : ∀ e, stage₀ ≠ .failed e) (more : List Happening) :
    ∃ stage, (t.run more).stopping = some stage ∧
      ∀ e, stage = .failed e → ∃ reason, t.KillFails more reason ∧ e = .killFailed reason := by
  refine stop_induction ht hst
    (P := fun more stage _ => ∀ e, stage = .failed e →
      ∃ reason, t.KillFails more reason ∧ e = .killFailed reason)
    (fun e he => absurd he (hnot e)) ?_ ?_ more
  · intro more h stage s' _ ha hfails e he
    obtain ⟨reason, hk, rfl⟩ := hfails e he
    exact ⟨reason, hk.concat h, rfl⟩
  · intro more stage wait hstage hfails e hnext
    rcases Client.failed_of_advanceStop hnext with rfl | ⟨reason, rfl, rfl, rfl⟩
    · obtain ⟨reason, hk, rfl⟩ := hfails e rfl
      exact ⟨reason, hk.concat _, rfl⟩
    · exact ⟨reason, ⟨more, [], rfl, hstage⟩, rfl⟩

theorem stopResult_run {r : Except ClientError Unit} (hr : stage₀.result? = some r)
    (more : List Happening) : (t.run more).stopResult? = some r := by
  obtain ⟨stage, hstage, hres⟩ := stop_induction ht hst
    (P := fun _ stage _ => stage.result? = some r) hr (fun _ _ hres => hres)
    (fun wait _ hres => Client.result?_advanceStop hres wait) more
  rw [stopResult?, hstage, Option.bind_some, hres]

omit hst in
theorem stopResult_of_killFails {more : List Happening} {reason : String}
    (hk : t.KillFails more reason) :
    (t.run more).stopResult? = some (.error (.killFailed reason)) := by
  obtain ⟨before, later, rfl, hkill⟩ := hk
  have hnext : (t.run (before ++ [.waited (.failed reason)])).stopping =
      some (.failed (.killFailed reason)) := by
    rw [run_concat]
    change ((t.run before).waited (.failed reason)).stopping = _
    rw [waited_of_stopping hkill]
    rfl
  have hrun : (ofSettings settings).run (hs ++ (before ++ [.waited (.failed reason)])) =
      t.run (before ++ [.waited (.failed reason)]) := by rw [run_append, ht]
  have hlater := stopResult_run hrun hnext rfl later
  rwa [← run_append, List.append_assoc, List.singleton_append] at hlater

end Run

theorem step_stop (hn : s.stopping = none) (ho : s.calls.all Call.isOver) :
    (s.step .stop).client.wire = s.client.wire ++ s.client.farewell ∧
      ∃ stage, (s.step .stop).stopping = some stage ∧ StopLeaves (s.step .stop).client stage ∧
        (s.client.session.isSome → stage.awaitsExit) ∧
        (s.client.session = none → stage = .done) := by
  obtain ⟨ms, e⟩ := effect_stop s
  have hstep : s.step .stop = s.stop := rfl
  have hsome : s.stop.stopping.isSome := by simp [stop, hn, ho]
  rw [hstep]
  generalize s.stop = t at e hsome
  cases e with
  | stoppedUnstarted _ _ hs =>
    simp [Client.farewell, hs, StopLeaves, Client.child?, Client.isConnected]
  | stoppedRunning _ _ hs hl hc =>
    simp [Client.farewell, hs, hl, hc, Client.tell, Client.withSession, StopStage.awaitsExit,
      StopLeaves]
  | stoppedOtherwise _ _ hs hl =>
    have hnothing : s.client.farewell = [] := by
      rcases hl with hl | hc
      · simp [Client.farewell, hs, hl]
      · simp [Client.farewell, hs, hc]
    simp [hnothing, hs, Client.withSession, StopStage.awaitsExit, StopLeaves]
  | _ => simp [hn, setClient] at hsome

/-- A stop that nobody has begun yet, of a client that no call is made through, goes on in the same
way whatever happens beside it. The client is stopped at once and for good. One that was never
started says nothing and is done. Any other says its farewell and, at a wait, tells the server to
exit if it still can. Five waits are enough for the stop to be over. Then it has succeeded, and
neither the process nor the connection is left, unless the process could not be ended. -/
theorem stop_run (settings : ClientSettings) (hs : List Happening)
    (hn : ((ofSettings settings).run hs).stopping = none)
    (ho : ((ofSettings settings).run hs).calls.all Call.isOver) (more : List Happening) :
    let s := (ofSettings settings).run hs
    let t := s.step .stop
    let t' := t.run more
    t'.client.life = .stopped ∧
    (s.client.session = none →
      t'.client.wire = s.client.wire ∧ t'.stopResult? = some (.ok ())) ∧
    (s.client.session.isSome →
      t'.stopResult? = none ∧ t'.client.wire = s.client.wire ++ s.client.farewell ∨
      ∃ told, t.TellsExit more told ∧
        t'.client.wire = s.client.wire ++ s.client.farewell ++ told) ∧
    (5 ≤ more.countP Happening.isWait → t'.stopResult?.isSome) ∧
    ∀ r, t'.stopResult? = some r →
      (r = .ok () ∧ (∀ reason, ¬ t.KillFails more reason) ∧
        t'.client.child? ≠ some .running ∧ t'.client.isConnected = false) ∨
      ∃ reason, t.KillFails more reason ∧ r = .error (.killFailed reason) := by
  intro s t t'
  have ht : (ofSettings settings).run (hs ++ [.stop]) = t := run_concat ..
  obtain ⟨hwire, stage, hstage, hleaves, hawaits, hdone⟩ := step_stop hn ho
  refine ⟨?_, fun hnone => ?_, fun hsome => ?_, fun hwaits => ?_, fun r hr => ?_⟩
  · obtain ⟨p, hp⟩ := inPhase_run settings (hs ++ [.stop] ++ more)
    rw [run_append, ht] at hp
    obtain ⟨stage', hstage', -⟩ := remaining_run ht hstage more
    exact (hp.stopped (Option.isSome_of_eq_some hstage')).1
  · obtain rfl := hdone hnone
    have hover := stopResult_run ht hstage (r := .ok ()) rfl
    refine ⟨?_, hover more⟩
    obtain ⟨-, -, ⟨-, hw⟩ | ⟨-, told, ⟨before, wait, later, -, hexit, -⟩, -⟩⟩ :=
      told_run ht hstage more
    · have hnothing : s.client.farewell = [] := by simp [Client.farewell, hnone]
      rw [hw, hwire, hnothing, List.append_nil]
    · have hbefore := hover before
      rw [stopResult?, hexit] at hbefore
      cases hbefore
  · obtain ⟨stage', hstage', ⟨hsame, hw⟩ | ⟨-, told, htold, hw⟩⟩ := told_run ht hstage more
    · refine Or.inl ⟨?_, hw.trans hwire⟩
      rw [stopResult?, hstage', Option.bind_some]
      rw [hawaits hsome] at hsame
      cases stage' with
      | shutdown _ => rfl
      | exit => rfl
      | _ => cases hsame
    · exact Or.inr ⟨told, htold, hw.trans (by rw [hwire])⟩
  · obtain ⟨stage', hstage', hle⟩ := remaining_run ht hstage more
    have hzero : stage'.remaining = 0 := by omega
    rw [stopResult?, hstage', Option.bind_some]
    exact StopStage.remaining_eq_zero_iff.mp hzero
  · obtain ⟨stage', hstage', hleaves'⟩ := stopLeaves_run ht hstage hleaves more
    have hres := hr
    rw [stopResult?, hstage', Option.bind_some] at hres
    cases stage' with
    | done =>
      refine Or.inl ⟨(Option.some.inj hres).symm, fun reason hk => ?_, hleaves'⟩
      cases hres.trans (hr.symm.trans (stopResult_of_killFails ht hk))
    | failed e =>
      have hnot : ∀ e', stage ≠ .failed e' := by
        rintro e' rfl
        cases hs' : s.client.session with
        | none => cases hdone hs'
        | some session => cases hawaits (Option.isSome_of_eq_some hs')
      obtain ⟨stage'', hstage'', hfails⟩ := failed_run ht hstage hnot more
      obtain ⟨reason, hk, rfl⟩ := hfails e (Option.some.inj (hstage''.symm.trans hstage'))
      exact Or.inr ⟨reason, hk, (Option.some.inj hres).symm⟩
    | _ => cases hres

/-- A server that takes no notice of the shutdown and of the exit has to be ended. -/
theorem stop_run_unresponsive :
    let settings : ClientSettings :=
      { id := "a", name := "a", server := .same { command := "a" }, options := {} }
    let tree : FileTree := { entries := [], current := [] }
    let hs : List Happening :=
      [.start tree .empty (fun _ => .ok ()) (Path.ofString "/"), .greet .null,
        .answer (.ok (.obj [("capabilities", .obj [])])), .record, .promote]
    let more : List Happening :=
      [.waited .expired, .waited .happened, .waited .expired, .disconnect, .waited .happened, .fail,
        .waited .expired]
    let s := (ofSettings settings).run hs
    let t := (s.step .stop).run more
    s.stopping = none ∧ s.calls.all Call.isOver ∧ s.client.life = .running ∧
      s.client.child? = some .running ∧ t.client.life = .stopped ∧ t.stopResult? = some (.ok ()) ∧
      t.client.child? ≠ some .running ∧ t.client.isConnected = false := by
  intro settings tree hs more s t
  have hn : s.stopping = none := by decide +kernel
  have ho : s.calls.all Call.isOver := by decide +kernel
  have hrunning : s.client.life = .running := by decide +kernel
  have hserved : s.client.child? = some .running := by decide +kernel
  have hresult : t.stopResult? = some (.ok ()) := by decide +kernel
  have hsame : (((ofSettings settings).run hs).step .stop).run more = t := rfl
  obtain ⟨hlife, -, -, -, hover⟩ := stop_run settings hs hn ho more
  rw [hsame] at hlife hover
  obtain ⟨-, -, hchild, hconnected⟩ | ⟨reason, -, herror⟩ := hover _ hresult
  · exact ⟨hn, ho, hrunning, hserved, hlife, hresult, hchild, hconnected⟩
  · cases herror

end Course
end LspHost
