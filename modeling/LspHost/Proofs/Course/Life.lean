import LspHost.Proofs.Course.Conversation

/-!
# The life of a client in a course of events

The life of a client, the stage of its first exchange and the capabilities are written by the start,
by the exchange itself, by the end of the connection and by the stop, in any order. `Progress` lists
what one happening can do to the three of them. The exchange only goes on, so that at most one
answer is heard, and the life only moves along `Lifecycle.Moves`.
-/

namespace LspHost

inductive Lifecycle.Moves : Lifecycle → Lifecycle → Prop
  | start : Moves .idle .starting
  | serve : Moves .starting .running
  | refuse : Moves .starting .failed
  | lose : Moves .running .failed
  | stop (l : Lifecycle) : Moves l .stopped

theorem Lifecycle.Moves.eq_stopped {l l' : Lifecycle} (m : l.Moves l')
    (h : l = .failed ∨ l = .stopped) : l' = .stopped := by
  cases m <;> simp_all

namespace Handshake

/-- The number of steps that an exchange has behind it. -/
def rank : Handshake → Nat
  | unsent => 0
  | waiting _ => 1
  | announced _ => 2
  | recorded => 3
  | forwarding => 4
  | ended => 5

theorem rank_le_ended (x : Handshake) : x.rank ≤ ended.rank := by
  cases x <;> simp [rank]

theorem brokenOff_cases (x : Handshake) : x.brokenOff = x ∨ x.brokenOff = ended := by
  cases x <;> simp [brokenOff]

theorem rank_le_brokenOff (x : Handshake) : x.rank ≤ x.brokenOff.rank := by
  rcases x.brokenOff_cases with hsame | hended
  · exact Nat.le_of_eq (by rw [hsame])
  · rw [hended]
    exact x.rank_le_ended

end Handshake

namespace Client

def exchange? (c : Client) : Option Handshake :=
  c.session.map (·.handshake)

def rank (c : Client) : Nat :=
  (c.exchange?.map Handshake.rank).getD 0

theorem exchange?_of_session {c : Client} {session : Session} (hs : c.session = some session) :
    c.exchange? = some session.handshake := by
  simp [exchange?, hs]

theorem rank_of_exchange {c : Client} {x : Handshake} (hx : c.exchange? = some x) :
    c.rank = x.rank := by
  simp [rank, hx]

theorem exchange?_editSession (c : Client) {f : Session → Session}
    (h : ∀ session, (f session).handshake = session.handshake) :
    (c.editSession f).exchange? = c.exchange? := by
  cases hs : c.session <;> simp [exchange?, hs, h]

end Client

namespace Course

/-- What a happening can do to the life of a client, to its first exchange and to what it knows of
the server's capabilities. -/
inductive Progress (c : Client) (h : Happening) (c' : Client) : Prop
  | none (hl : c'.life = c.life) (hx : c'.exchange? = c.exchange?)
      (hc : c'.capabilities = c.capabilities)
  | begun (hl : c.life = .idle) (hl' : c'.life = .starting) (hx : c.exchange? = Option.none)
      (hx' : c'.exchange? = some .unsent) (hc : c'.capabilities = c.capabilities)
  | greeted {id : Nat} (hl : c'.life = c.life) (hx : c.exchange? = some .unsent)
      (hx' : c'.exchange? = some (.waiting id)) (hc : c'.capabilities = c.capabilities)
  | announced {answer : Except RemoteError Json} {result : Json} {id : Nat}
      (hh : h = .answer answer)
      (hd : decodeAnswer Protocol.initializeResult answer = .ok result) (hl : c'.life = c.life)
      (hx : c.exchange? = some (.waiting id))
      (hx' : c'.exchange? = some (.announced ((result.get? "capabilities").getD .null)))
      (hc : c'.capabilities = c.capabilities)
  | recorded {capabilities : Json} (hl : c'.life = c.life)
      (hx : c.exchange? = some (.announced capabilities)) (hx' : c'.exchange? = some .recorded)
      (hc : c'.capabilities = c.capabilities.or (some capabilities))
  | promoted (hl : c.life = .starting) (hl' : c'.life = .running)
      (hx : c.exchange? = some .recorded) (hx' : c'.exchange? = some .forwarding)
      (hc : c'.capabilities = c.capabilities)
  | ended (hl : c'.life = c.life ∨ c.life = .starting ∧ c'.life = .failed)
      (hx : c.exchange?.isSome) (hx' : c'.exchange? = some .ended)
      (hc : c'.capabilities = c.capabilities)
  | lost (hl : c.life.isActive) (hl' : c'.life = .failed) (hx : c'.exchange? = c.exchange?)
      (hc : c'.capabilities = c.capabilities)
  | stopped (hl : c'.life = .stopped) (hx : c'.exchange? = c.exchange?.map Handshake.brokenOff)
      (hc : c'.capabilities = c.capabilities)

variable {s s' : Course} {h : Happening} {ms : List Outgoing}

theorem progress_editSession (c : Client) (h : Happening) {f : Session → Session}
    (hf : ∀ session, (f session).handshake = session.handshake) :
    Progress c h (c.editSession f) :=
  .none rfl (c.exchange?_editSession hf) rfl

theorem Effect.progress (e : Effect s h ms s') : Progress s.client h s'.client := by
  cases e with
  | nothing => exact .none rfl rfl rfl
  | begun _ hr root url child watcher hn hl =>
    exact .begun hl rfl (by simp [Client.exchange?, hn]) rfl rfl
  | greeted process params hs hh hc =>
    exact .greeted rfl ((Client.exchange?_of_session hs).trans (congrArg some hh)) rfl rfl
  | unanswered _ hr hs hh =>
    have hx' : (s.setClient s.client.failHandshake).client.exchange? = some .ended := by
      simp [Client.exchange?, Client.failHandshake, setClient, hs]
    refine .ended ?_ (by simp [Client.exchange?, hs]) hx' rfl
    by_cases hl : s.client.life = .starting
    · exact Or.inr ⟨hl, if_pos hl⟩
    · exact Or.inl (if_neg hl)
  | announced capabilities hs hh hc hd hv =>
    subst hv
    exact .announced rfl hd rfl ((Client.exchange?_of_session hs).trans (congrArg some hh)) rfl rfl
  | recorded hs hh =>
    exact .recorded rfl ((Client.exchange?_of_session hs).trans (congrArg some hh)) rfl rfl
  | promoted hs hh hl =>
    exact .promoted hl rfl ((Client.exchange?_of_session hs).trans (congrArg some hh)) rfl rfl
  | passedOver hs hh hl =>
    exact .ended (Or.inl rfl) (by simp [Client.exchange?, hs]) rfl rfl
  | lost hf he hc =>
    obtain ⟨session, hs, -⟩ := Client.exists_session_of_forwarding hf
    exact .ended (Or.inl rfl) (by simp [Client.exchange?, hs])
      (by simp [Client.exchange?, hs, setClient, Session.closed]) rfl
  | requested t hi hs hc =>
    exact .none rfl (Client.exchange?_of_session hs).symm rfl
  | reported => exact progress_editSession _ _ fun _ => rfl
  | took => exact progress_editSession _ _ fun _ => rfl
  | gathered => exact progress_editSession _ _ fun _ => rfl
  | heldNothing => exact progress_editSession _ _ fun _ => rfl
  | sent => exact .none rfl (s.client.exchange?_editSession fun _ => rfl) rfl
  | disconnected => exact progress_editSession _ _ fun _ => rfl
  | noticed hc =>
    simp only [setClient, Client.markFailed]
    split
    · next hl => exact .lost hl rfl rfl rfl
    · exact .none rfl rfl rfl
  | stoppedUnstarted hn ho hs => exact .stopped rfl (by simp [Client.exchange?, hs]) rfl
  | stoppedRunning hn ho hs =>
    exact .stopped rfl (by rw [Client.exchange?_of_session hs]; rfl) rfl
  | stoppedOtherwise hn ho hs =>
    exact .stopped rfl (by rw [Client.exchange?_of_session hs]; rfl) rfl
  | waitedFor wait hst hc =>
    obtain ⟨f, hf, hsame⟩ := Client.advanceStop_of_unsent hc wait
    simp only [hf]
    exact progress_editSession _ _ fun session => (hsame session).1
  | _ => exact .none rfl rfl rfl

namespace Progress

variable {c c' : Client}

theorem moves (p : Progress c h c') : c'.life = c.life ∨ Lifecycle.Moves c.life c'.life := by
  cases p with
  | none hl => exact Or.inl hl
  | begun hl hl' =>
    rw [hl, hl']
    exact Or.inr .start
  | greeted hl => exact Or.inl hl
  | announced hh hd hl => exact Or.inl hl
  | recorded hl => exact Or.inl hl
  | promoted hl hl' =>
    rw [hl, hl']
    exact Or.inr .serve
  | ended hl =>
    rcases hl with hl | ⟨hl, hl'⟩
    · exact Or.inl hl
    · rw [hl, hl']
      exact Or.inr .refuse
  | lost hl hl' =>
    rw [hl']
    cases hc : c.life with
    | starting => exact Or.inr .refuse
    | running => exact Or.inr .lose
    | _ => simp [hc, Lifecycle.isActive] at hl
  | stopped hl =>
    rw [hl]
    exact Or.inr (.stop _)

theorem failed (p : Progress c h c') (hl : c.life = .failed ∨ c.life = .stopped) :
    c'.life = .failed ∨ c'.life = .stopped := by
  rcases p.moves with heq | hm
  · exact heq ▸ hl
  · exact Or.inr (hm.eq_stopped hl)

theorem isActive (p : Progress c h c') (hs : c.session.isSome)
    (hl : c'.life.isActive) : c.life.isActive := by
  cases p with
  | none hsame => exact hsame ▸ hl
  | begun _ _ hx =>
    rw [Client.exchange?, Option.map_eq_none_iff] at hx
    simp [hx] at hs
  | greeted hsame => exact hsame ▸ hl
  | announced _ _ hsame => exact hsame ▸ hl
  | recorded hsame => exact hsame ▸ hl
  | promoted hstarting => rw [hstarting]; rfl
  | ended hend =>
    rcases hend with hsame | ⟨hstarting, -⟩
    · exact hsame ▸ hl
    · rw [hstarting]; rfl
  | lost hactive => exact hactive
  | stopped hstopped => rw [hstopped] at hl; cases hl

theorem stopped_of_stopped (p : Progress c h c') (hl : c.life = .stopped) :
    c'.life = .stopped := by
  rcases p.moves with heq | hm
  · exact heq.trans hl
  · exact hm.eq_stopped (Or.inr hl)

theorem capabilities_eq_some (p : Progress c h c') {capabilities : Json}
    (hc : c.capabilities = some capabilities) : c'.capabilities = some capabilities := by
  cases p with
  | recorded hl hx hx' hcap => rw [hcap, hc, Option.some_or]
  | _ => simp_all

theorem rank_le (p : Progress c h c') : c.rank ≤ c'.rank := by
  cases p with
  | none hl hx => exact Nat.le_of_eq (by rw [Client.rank, Client.rank, hx])
  | begun hl hl' hx =>
    rw [Client.rank, hx]
    exact Nat.zero_le _
  | greeted hl hx hx' =>
    rw [Client.rank_of_exchange hx, Client.rank_of_exchange hx']
    simp [Handshake.rank]
  | announced hh hd hl hx hx' =>
    rw [Client.rank_of_exchange hx, Client.rank_of_exchange hx']
    simp [Handshake.rank]
  | recorded hl hx hx' =>
    rw [Client.rank_of_exchange hx, Client.rank_of_exchange hx']
    simp [Handshake.rank]
  | promoted hl hl' hx hx' =>
    rw [Client.rank_of_exchange hx, Client.rank_of_exchange hx']
    simp [Handshake.rank]
  | ended hl hx hx' =>
    obtain ⟨x, hx⟩ := Option.isSome_iff_exists.mp hx
    rw [Client.rank_of_exchange hx, Client.rank_of_exchange hx']
    exact x.rank_le_ended
  | lost hl hl' hx => exact Nat.le_of_eq (by rw [Client.rank, Client.rank, hx])
  | stopped hl hx =>
    rw [Client.rank, Client.rank, hx]
    cases hc : c.exchange? with
    | none => exact Nat.le_refl _
    | some x => exact x.rank_le_brokenOff

end Progress

theorem run_keeps {P : Client → Prop} (hP : ∀ {c c' h}, Progress c h c' → P c → P c')
    (s : Course) (before more : List Happening) (h : P (s.run before).client) :
    P (s.run (before ++ more)).client := by
  rw [run_append]
  exact run_induction (P := fun s => P s.client) (fun e => hP e.progress) h more

section Answers

theorem rank_of_awaitsAnswer (ha : s.AwaitsAnswer) : s.client.rank = 1 := by
  obtain ⟨session, id, hs, hh⟩ := ha
  rw [Client.rank_of_exchange (Client.exchange?_of_session hs), hh, Handshake.rank]

theorem rank_of_answer (ha : s.AwaitsAnswer) (answer : Except RemoteError Json) :
    1 < (s.step (.answer answer)).client.rank := by
  obtain ⟨session, id, hs, hh⟩ := ha
  have hfail : s.client.failHandshake.rank = 5 := by
    simp [Client.failHandshake, Client.rank, Client.exchange?, hs, Handshake.rank]
  obtain ⟨root, url, connected, child, handshake, nextId, watcher, forwarder⟩ := session
  obtain rfl : handshake = .waiting id := hh
  simp only [step, setClient, Client.hearAnswer, hs]
  cases decodeAnswer Protocol.initializeResult answer with
  | error e => simp [hfail]
  | ok result =>
    simp only [Client.announce, hs]
    cases connected with
    | false => simp [hfail]
    | true =>
      have hc := Client.isConnected_of_session hs
      simp [Client.rank, Client.exchange?, Client.handNotification, hc, hs, Handshake.rank]

variable (s)

theorem not_awaitsAnswer_again {before : List Happening} (ha : (s.run before).AwaitsAnswer)
    (answer : Except RemoteError Json) (more : List Happening) :
    ¬ (s.run (before ++ .answer answer :: more)).AwaitsAnswer := by
  intro hagain
  have hrank : 1 < (s.run (before ++ [.answer answer])).client.rank := by
    rw [run_concat]
    exact rank_of_answer ha answer
  have hlater : 1 < (s.run (before ++ [.answer answer] ++ more)).client.rank :=
    run_keeps (P := fun c => 1 < c.rank) (fun p hlt => Nat.lt_of_lt_of_le hlt p.rank_le) s _ _ hrank
  rw [List.append_assoc, List.singleton_append, rank_of_awaitsAnswer hagain] at hlater
  exact Nat.lt_irrefl 1 hlater

theorem heard_once {before before' after after' : List Happening}
    {answer answer' : Except RemoteError Json}
    (h : before ++ .answer answer :: after = before' ++ .answer answer' :: after')
    (ha : (s.run before).AwaitsAnswer) (ha' : (s.run before').AwaitsAnswer) :
    before = before' := by
  rcases List.append_eq_append_iff.mp h with ⟨more, rfl, hmore⟩ | ⟨more, rfl, hmore⟩
  · cases more with
    | nil => simp
    | cons h' more =>
      obtain rfl := (List.cons.inj hmore).1
      exact absurd ha' (not_awaitsAnswer_again s ha answer more)
  · cases more with
    | nil => simp
    | cons h' more =>
      obtain rfl := (List.cons.inj hmore).1
      exact absurd ha (not_awaitsAnswer_again s ha' answer' more)

/-- In a run a good answer to the first request was heard while it was awaited, and these are the
capabilities that it told of. -/
def Answered (hs : List Happening) (capabilities : Json) : Prop :=
  ∃ before answer result after, hs = before ++ .answer answer :: after ∧
    (s.run before).AwaitsAnswer ∧
    decodeAnswer Protocol.initializeResult answer = .ok result ∧
    capabilities = (result.get? "capabilities").getD .null

variable {s}

theorem Answered.concat {hs : List Happening} {capabilities : Json}
    (ha : s.Answered hs capabilities) (h : Happening) : s.Answered (hs ++ [h]) capabilities := by
  obtain ⟨before, answer, result, after, rfl, hrest⟩ := ha
  exact ⟨before, answer, result, after ++ [h], by simp, hrest⟩

end Answers

/-- What the client knows of the server's capabilities it knows from a good answer, and it knows
them when it runs. -/
structure Knows (s : Course) (hs : List Happening) (c : Client) : Prop where
  early : c.rank < 3 → c.capabilities = none
  announced : ∀ capabilities, c.exchange? = some (.announced capabilities) →
    s.Answered hs capabilities
  answered : ∀ capabilities, c.capabilities = some capabilities → s.Answered hs capabilities
  recorded : c.exchange? = some .recorded → c.capabilities.isSome
  running : c.life = .running → c.capabilities.isSome

namespace Knows

variable {hs : List Happening} {c c' : Client}

theorem keep (k : Knows s hs c) (p : Progress c h c') (hc : c'.capabilities = c.capabilities)
    (ha : ∀ capabilities, c'.exchange? = some (.announced capabilities) →
      s.Answered (hs ++ [h]) capabilities)
    (hx : c'.exchange? = some .recorded → c.exchange? = some .recorded)
    (hl : c'.life = .running → c.life = .running ∨ c.exchange? = some .recorded) :
    Knows s (hs ++ [h]) c' where
  early hr := hc.trans (k.early (Nat.lt_of_le_of_lt p.rank_le hr))
  announced := ha
  answered capabilities hcap := (k.answered capabilities (hc.symm.trans hcap)).concat h
  recorded hrec := by
    rw [hc]
    exact k.recorded (hx hrec)
  running hr := by
    rw [hc]
    exact (hl hr).elim k.running k.recorded

/-- A step that neither records capabilities nor makes the client run. -/
theorem keep_stage (k : Knows s hs c) (p : Progress c h c')
    (hc : c'.capabilities = c.capabilities) (hl : c'.life = .running → c.life = .running)
    (hx : ∀ x, c'.exchange? = some x → c.exchange? = some x ∨ x.rank < 2 ∨ 3 < x.rank) :
    Knows s (hs ++ [h]) c' := by
  refine k.keep p hc (fun capabilities ha => ?_) (fun hrec => ?_) fun hr => Or.inl (hl hr)
  · rcases hx _ ha with hsame | hlt | hgt
    · exact (k.announced capabilities hsame).concat h
    · simp [Handshake.rank] at hlt
    · simp [Handshake.rank] at hgt
  · rcases hx _ hrec with hsame | hlt | hgt
    · exact hsame
    · simp [Handshake.rank] at hlt
    · simp [Handshake.rank] at hgt

theorem step (k : Knows s hs (s.run hs).client) (p : Progress (s.run hs).client h c') :
    Knows s (hs ++ [h]) c' := by
  have hstage := k.keep_stage p
  have hkeep := k.keep p
  have hrank := p.rank_le
  cases p with
  | none hl hx hc => exact hstage hc (fun hr => hl ▸ hr) fun x hx' => Or.inl (hx ▸ hx')
  | begun hl hl' hx hx' hc =>
    refine hstage hc (fun hr => by cases hl'.symm.trans hr) fun x hx₁ => ?_
    obtain rfl := Option.some.inj (hx'.symm.trans hx₁)
    exact Or.inr (Or.inl (by simp [Handshake.rank]))
  | greeted hl hx hx' hc =>
    refine hstage hc (fun hr => hl ▸ hr) fun x hx₁ => ?_
    obtain rfl := Option.some.inj (hx'.symm.trans hx₁)
    exact Or.inr (Or.inl (by simp [Handshake.rank]))
  | announced hh hd hl hx hx' hc =>
    obtain ⟨session, hs', hw⟩ := Option.map_eq_some_iff.mp hx
    subst hh
    refine hkeep hc (fun capabilities ha => ?_) (fun hrec => ?_) fun hr => Or.inl (hl ▸ hr)
    · obtain rfl := Handshake.announced.inj (Option.some.inj (hx'.symm.trans ha))
      exact ⟨hs, _, _, [], rfl, ⟨session, _, hs', hw⟩, hd, rfl⟩
    · cases hx'.symm.trans hrec
  | recorded hl hx hx' hc =>
    have hnone : (s.run hs).client.capabilities = Option.none :=
      k.early (by rw [Client.rank_of_exchange hx]; simp [Handshake.rank])
    rw [hnone, Option.none_or] at hc
    refine ⟨fun hr => ?_, fun _ ha => ?_, fun _ hcap => ?_, fun _ => ?_, fun _ => ?_⟩
    · rw [Client.rank_of_exchange hx'] at hr
      simp [Handshake.rank] at hr
    · cases hx'.symm.trans ha
    · obtain rfl := Option.some.inj (hc.symm.trans hcap)
      exact (k.announced _ hx).concat h
    · simp [hc]
    · simp [hc]
  | promoted hl hl' hx hx' hc =>
    refine hkeep hc (fun _ ha => ?_) (fun _ => hx) fun _ => Or.inr hx
    cases hx'.symm.trans ha
  | ended hl hx hx' hc =>
    refine hstage hc (fun hr => ?_) fun x hx₁ => ?_
    · rcases hl with hl | ⟨-, hl⟩
      · exact hl ▸ hr
      · cases hl.symm.trans hr
    · obtain rfl := Option.some.inj (hx'.symm.trans hx₁)
      exact Or.inr (Or.inr (by simp [Handshake.rank]))
  | lost hl hl' hx hc =>
    exact hstage hc (fun hr => by cases hl'.symm.trans hr) fun x hx' => Or.inl (hx ▸ hx')
  | stopped hl hx hc =>
    refine hstage hc (fun hr => by cases hl.symm.trans hr) fun x hx' => ?_
    obtain ⟨x', hbefore, rfl⟩ := Option.map_eq_some_iff.mp (hx.symm.trans hx')
    rcases x'.brokenOff_cases with hsame | hended
    · exact Or.inl (by rw [hsame, hbefore])
    · exact Or.inr (Or.inr (by simp [hended, Handshake.rank]))

end Knows

theorem knows_ofSettings (settings : ClientSettings) :
    Knows (ofSettings settings) [] (ofSettings settings).client where
  early _ := rfl
  announced _ h := by cases h
  answered _ h := by cases h
  recorded h := by cases h
  running h := by cases h

theorem knows_run (settings : ClientSettings) (hs : List Happening) :
    Knows (ofSettings settings) hs ((ofSettings settings).run hs).client := by
  induction hs using List.reverseRecOn with
  | nil => exact knows_ofSettings settings
  | append_singleton hs h ih =>
    obtain ⟨ms, e⟩ := effect_step ((ofSettings settings).run hs) h
    rw [run_concat]
    exact ih.step e.progress

theorem initialized_mem_of_running (settings : ClientSettings) {hs : List Happening}
    (hl : ((ofSettings settings).run hs).client.life = .running) :
    .initialized ∈ ((ofSettings settings).run hs).client.wire := by
  obtain ⟨p, hp⟩ := inPhase_run settings hs
  obtain rfl := hp.running hl
  obtain ⟨n, hroles⟩ := Phase.said_of_after hp.said
  have hmem : Role.initialized ∈ ((ofSettings settings).run hs).client.wire.map Outgoing.role := by
    simp [hroles]
  obtain ⟨m, hm, hr⟩ := List.mem_map.mp hmem
  cases m <;> cases hr
  exact hm

/-- Whatever happens, in whatever order, the life of a client only moves along the moves. A client
that has failed can only be stopped, and one that has been stopped stays so. Capabilities that are
known are never forgotten or replaced. A client that runs has told the server that it is
initialized, and knows the capabilities of the one good answer that was heard while it was
awaited. -/
theorem life_run (settings : ClientSettings) (hs : List Happening) :
    let course := (ofSettings settings).run
    let client := fun hs => (course hs).client
    (∀ h, (client (hs ++ [h])).life = (client hs).life ∨
      (client hs).life.Moves (client (hs ++ [h])).life) ∧
    (∀ more,
      ((client hs).life = .failed →
        (client (hs ++ more)).life = .failed ∨ (client (hs ++ more)).life = .stopped) ∧
      ((client hs).life = .stopped → (client (hs ++ more)).life = .stopped) ∧
      ∀ capabilities, (client hs).capabilities = some capabilities →
        (client (hs ++ more)).capabilities = some capabilities) ∧
    ((client hs).life = .running → .initialized ∈ (client hs).wire ∧
      ∃ before answer result after, hs = before ++ .answer answer :: after ∧
        (course before).AwaitsAnswer ∧
        decodeAnswer Protocol.initializeResult answer = .ok result ∧
        (client hs).capabilities = some ((result.get? "capabilities").getD .null) ∧
        ∀ before' answer' after', hs = before' ++ .answer answer' :: after' →
          (course before').AwaitsAnswer → before' = before) := by
  intro course client
  refine ⟨fun h => ?_, fun more => ⟨fun hl => ?_, fun hl => ?_, fun capabilities hc => ?_⟩,
    fun hl => ⟨initialized_mem_of_running settings hl, ?_⟩⟩
  · obtain ⟨ms, e⟩ := effect_step (course hs) h
    have hmoves := e.progress.moves
    rwa [← run_concat] at hmoves
  · exact run_keeps (P := fun c => c.life = .failed ∨ c.life = .stopped) (·.failed) _ hs more
      (Or.inl hl)
  · exact run_keeps (P := fun c => c.life = .stopped) (·.stopped_of_stopped) _ hs more hl
  · exact run_keeps (P := fun c => c.capabilities = some capabilities) (·.capabilities_eq_some) _
      hs more hc
  · have hk := knows_run settings hs
    obtain ⟨capabilities, hc⟩ := Option.isSome_iff_exists.mp (hk.running hl)
    obtain ⟨before, answer, result, after, rfl, ha, hd, rfl⟩ := hk.answered capabilities hc
    refine ⟨before, answer, result, after, rfl, ha, hd, hc, ?_⟩
    intro before' answer' after' hsplit ha'
    exact (heard_once _ hsplit ha ha').symm

/-- A client loses its server while it runs, and another is stopped before its exchange is over. -/
theorem life_run_lost :
    let settings : ClientSettings :=
      { id := "a", name := "a", server := .same { command := "a" }, options := {} }
    let tree : FileTree := { entries := [], current := [] }
    let heard : List Happening :=
      [.startOver tree (Path.ofString "/"), .greet .null,
        .answer (.ok (.obj [("capabilities", .obj [])]))]
    let c := fun hs => ((ofSettings settings).run (heard ++ hs)).client
    (c [.record, .promote]).life = .running ∧ .initialized ∈ (c [.record, .promote]).wire ∧
      (∀ more, (c ([.record, .promote, .disconnect, .fail] ++ more)).life = .failed ∨
        (c ([.record, .promote, .disconnect, .fail] ++ more)).life = .stopped) ∧
      ∀ more, (c ([.stop, .record, .promote] ++ more)).life = .stopped ∧
        (c ([.stop, .record, .promote] ++ more)).capabilities = some (.obj []) := by
  intro settings tree heard c
  have hruns : (c [.record, .promote]).life = .running := by decide +kernel
  obtain ⟨-, -, hserves⟩ := life_run settings (heard ++ [.record, .promote])
  refine ⟨hruns, (hserves hruns).1, fun more => ?_, fun more => ?_⟩
  · obtain ⟨-, hlater, -⟩ := life_run settings (heard ++ [.record, .promote, .disconnect, .fail])
    have hfailed := (hlater more).1 (by decide +kernel)
    rwa [List.append_assoc] at hfailed
  · obtain ⟨-, hlater, -⟩ := life_run settings (heard ++ [.stop, .record, .promote])
    obtain ⟨-, hstopped, hknown⟩ := hlater more
    rw [List.append_assoc] at hstopped hknown
    exact ⟨hstopped (by decide +kernel), hknown _ rfl⟩

end Course
end LspHost
