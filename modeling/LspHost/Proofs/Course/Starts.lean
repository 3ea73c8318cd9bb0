import LspHost.Proofs.Course.Conversation

/-!
# Starts in a course of events

Until its session begins, a client is as it was made, apart from being stopped. Once it has begun,
the client cannot be started again, whatever happens to it.
-/

namespace LspHost.Course

/-- Nothing has happened to a client but that it may have been stopped. -/
def Untouched (settings : ClientSettings) (c : Client) : Prop :=
  c = { settings, life := c.life }

theorem Effect.untouched {s s' : Course} {h : Happening} {ms : List Outgoing} {p : Phase}
    {settings : ClientSettings} (e : Effect s h ms s') (hp : InPhase s p)
    (hn : s'.client.session = none) (hu : Untouched settings s.client) :
    Untouched settings s'.client := by
  have hs : s.client.session = none := by
    rw [hu]
  -- nothing is said before the session, so no call has found the client running
  have hcalls : ∀ {i : Nat} {call : Call}, s.calls[i]? = some call → ¬ call.isUnderWay := by
    intro i call hi hunder
    have hserving := (hp.underWay call (List.mem_of_getElem? hi) hunder).2
    cases (hp.unstarted hs).symm.trans hserving
  have hforward : s.client.forwarding? = none := by
    rw [hu]
    rfl
  have hedit : ∀ f : Session → Session, Untouched settings (s.client.editSession f) := by
    intro f
    rw [Client.editSession, hs, Option.map_none, ← hs]
    exact hu
  have hlife : ∀ life : Lifecycle, Untouched settings { s.client with life } := by
    intro life
    rw [hu]
    rfl
  cases e with
  | nothing => exact hu
  | begun => cases hn
  | called => exact hu
  | moved => exact hu
  | opened t hi => exact absurd rfl (hcalls hi)
  | changed t hi => exact absurd rfl (hcalls hi)
  | taken t hi => exact absurd rfl (hcalls hi)
  | closed t hi => exact absurd rfl (hcalls hi)
  | reported => exact hedit _
  | took hf => cases hforward.symm.trans hf
  | gathered hf => cases hforward.symm.trans hf
  | heldNothing hf => cases hforward.symm.trans hf
  | sent hf => cases hforward.symm.trans hf
  | lost hf => cases hforward.symm.trans hf
  | disconnected => exact hedit _
  | noticed =>
    simp only [setClient, Client.markFailed]
    split
    · exact hlife .failed
    · exact hu
  | stoppedUnstarted => exact hlife .stopped
  | exited wait hst hc =>
    obtain ⟨session, hs', -⟩ := Client.exists_session_of_isConnected hc
    cases hs.symm.trans hs'
  | waitedFor wait hst hc =>
    obtain ⟨f, hf, -⟩ := Client.advanceStop_of_unsent hc wait
    rw [hf]
    exact hedit f
  | _ => simp_all

/-- A client without a session has nothing to it but its settings. -/
theorem untouched_run (settings : ClientSettings) (hs : List Happening)
    (hn : ((ofSettings settings).run hs).client.session = none) :
    Untouched settings ((ofSettings settings).run hs).client := by
  induction hs using List.reverseRecOn with
  | nil => rfl
  | append_singleton hs h ih =>
    obtain ⟨ms, e⟩ := effect_step ((ofSettings settings).run hs) h
    obtain ⟨p, hp⟩ := inPhase_run settings hs
    rw [run_concat] at hn ⊢
    refine e.untouched hp hn (ih ?_)
    by_contra hsome
    have hlater := e.session_isSome (Option.isSome_iff_ne_none.mpr hsome)
    rw [hn] at hlater
    cases hlater

/-- Whatever has happened to a client, a start that succeeds makes of it what it would have made of
a new one. -/
theorem start_as_new (settings : ClientSettings) (hs : List Happening) (a : Attempt) :
    let c := ((ofSettings settings).run hs).client
    (c.start a).2 = .ok () → c.start a = ({ settings } : Client).start a := by
  intro c hok
  rcases c.start_cases a with ⟨e, hstart, -⟩ | ⟨hn, hl, -⟩
  · rw [hstart] at hok
    cases hok
  · have hnew : c = { settings } := by
      have hu := untouched_run settings hs hn
      rw [Untouched] at hu
      rw [hl] at hu
      exact hu
    rw [hnew]

/-- A start that fails does so for the first hindrance and leaves the client as it was. So after any
number of failed starts an idle client is started like a new one, and after a start that succeeded
every other fails, whatever has happened to the client meanwhile. -/
theorem start_all_or_nothing (c : Client) (a : Attempt) :
    (∀ e, (c.start a).2 = .error e ↔ c.FirstHindrance a e) ∧
    ((c.start a).2 = .ok () ↔ ∀ stage e, ¬ c.Hinders a stage e) ∧
    ((c.start a).2 ≠ .ok () → (c.start a).1 = c) ∧
    (c.session = none → c.life = .idle → ∀ failed, c.AllFail failed →
      (c.starts failed).start a =
        let new := ({ settings := c.settings } : Client).start a
        ({ c with life := new.1.life, session := new.1.session }, new.2)) ∧
    ((c.start a).2 = .ok () → ∀ calls stopping hs again,
      let later := (run { client := (c.start a).1, calls, stopping } hs).client
      later.start again = (later, .error .alreadyStarted)) := by
  refine ⟨fun e => Client.start_error_iff, Client.start_ok_iff, Client.start_of_failed,
    fun hn hl failed hf => ?_, fun hok calls stopping hs again => ?_⟩
  · rw [Client.starts_of_allFail hf]
    exact Client.start_of_idle hn hl a
  · have hsome := Client.session_isSome_of_started hok
    exact Client.start_again (session_isSome_run hsome hs) again

/-- A start in a directory that is not there, one whose server is not there, and one that succeeds. -/
theorem start_all_or_nothing_retried :
    let tree : FileTree := { entries := [([Utf8.encode "w"], .dir)], current := [] }
    let absent : Invocation → Except SystemError Unit := fun _ => .error .notFound
    let c : Client :=
      { settings := { id := "a", name := "a", server := .same { command := "a" }, options := {} } }
    let nowhere : Attempt := { tree, root := Path.ofString "/x", spawn := absent }
    let nobody : Attempt := { tree, root := Path.ofString "/w", spawn := absent }
    let served : Attempt := { tree, root := Path.ofString "/w", spawn := some fun _ => .ok () }
    (c.start nowhere).2 = .error (.initializationFailed
        "failed to canonicalize workspace root: No such file or directory (os error 2)") ∧
      (c.start nobody).2 = .error (.serverStartFailed
        "failed to spawn 'a': No such file or directory (os error 2)") ∧
      (c.starts [nowhere, nobody]).start served = c.start served ∧
      (c.start served).2 = .ok () ∧
      ∀ hs, let later := (run { client := (c.start served).1 } hs).client
        later.start served = (later, .error .alreadyStarted) := by
  intro tree absent c nowhere nobody served
  have hnowhere : (c.start nowhere).2 ≠ .ok () := by decide +kernel
  have hnobody : (c.start nobody).2 ≠ .ok () := by decide +kernel
  have hserved : (c.start served).2 = .ok () := by decide +kernel
  obtain ⟨-, -, hkept, -, -⟩ := start_all_or_nothing c nowhere
  obtain ⟨-, -, hkept', -, -⟩ := start_all_or_nothing c nobody
  obtain ⟨-, -, -, -, hlater⟩ := start_all_or_nothing c served
  have hsame : c.starts [nowhere, nobody] = c := by
    rw [Client.starts, List.foldl_cons, hkept hnowhere, List.foldl_cons, hkept' hnobody]
    rfl
  exact ⟨by decide +kernel, by decide +kernel, by rw [hsame], hserved,
    fun hs => hlater hserved [] none hs served⟩

end LspHost.Course
