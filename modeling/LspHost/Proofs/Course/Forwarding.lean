import LspHost.Proofs.Course.Effect
import LspHost.Proofs.Documents.Table
import LspHost.Proofs.FileEvent.Presence

/-!
# File events reach the server as they happened

Between the watcher and the server events are merged twice, first by the batch in which they were
seen and then by the batches that the forwarder has gathered. What the watcher has seen falls into
two parts at any moment: the messages sent so far are a faithful account of the first, and as long
as the forwarder is there it carries a faithful account of the second. Every step of the course
keeps it so, whatever is done in between by others.
-/

namespace LspHost

open FileEvent (Faithful Distinct coalesce)

/-- Batches that give account of events one after another. -/
inductive Forwarder.Accounts : List FileEvent → List (List FileEvent) → Prop
  | nil {raw : List FileEvent} (h : Faithful raw []) : Accounts raw []
  | cons {raw raws batch : List FileEvent} {batches : List (List FileEvent)}
      (h : Faithful raw batch) (hs : Accounts raws batches) :
      Accounts (raw ++ raws) (batch :: batches)

namespace Forwarder

theorem Accounts.append {raw raw' : List FileEvent} {batches batches' : List (List FileEvent)}
    (h : Accounts raw batches) (h' : Accounts raw' batches') :
    Accounts (raw ++ raw') (batches ++ batches') := by
  induction h with
  | nil h =>
    cases h' with
    | nil h' => exact .nil (h.append h')
    | cons h' hs => exact List.append_assoc .. ▸ .cons (h.append h') hs
  | cons h hs ih => exact List.append_assoc .. ▸ .cons h ih

theorem Accounts.concat {raw raw' batch : List FileEvent} {batches : List (List FileEvent)}
    (h : Accounts raw batches) (h' : Faithful raw' batch) :
    Accounts (raw ++ raw') (batches ++ [batch]) :=
  h.append (List.append_nil raw' ▸ .cons h' (.nil (.refl [])))

theorem Accounts.faithful {raw : List FileEvent} {batches : List (List FileEvent)}
    (h : Accounts raw batches) : Faithful raw batches.flatten := by
  induction h with
  | nil h => exact h
  | cons h hs ih => exact h.append ih

/-- Everything that a forwarder has and has not sent. -/
def held (f : Forwarder) : List FileEvent :=
  f.inHand.getD [] ++ f.queue.flatten

/-- The forwarder has an account of events, the first of them in hand and the others queued. -/
def Carries (f : Forwarder) (unsent : List FileEvent) : Prop :=
  ∃ hand queued, unsent = hand ++ queued ∧ Faithful hand (f.inHand.getD []) ∧
    Accounts queued f.queue

namespace Carries

variable {f : Forwarder} {unsent : List FileEvent}

theorem nothing : Carries {} [] :=
  ⟨[], [], rfl, .refl [], .nil (.refl [])⟩

theorem faithful (h : f.Carries unsent) : Faithful unsent f.held := by
  obtain ⟨hand, queued, rfl, hhand, hqueued⟩ := h
  exact hhand.append hqueued.faithful

theorem silent (h : f.Carries unsent) {raw : List FileEvent} (hr : Faithful raw []) :
    f.Carries (unsent ++ raw) := by
  obtain ⟨hand, queued, rfl, hhand, hqueued⟩ := h
  refine ⟨hand, queued ++ raw, List.append_assoc .., hhand, ?_⟩
  rw [← List.append_nil f.queue]
  exact hqueued.append (.nil hr)

theorem enqueue (h : f.Carries unsent) {raw batch : List FileEvent} (hr : Faithful raw batch) :
    (f.enqueue batch).Carries (unsent ++ raw) := by
  obtain ⟨hand, queued, rfl, hhand, hqueued⟩ := h
  exact ⟨hand, queued ++ raw, List.append_assoc .., hhand, hqueued.concat hr⟩

theorem take (h : f.Carries unsent) : f.take.Carries unsent := by
  obtain ⟨hand, queued, rfl, hhand, hqueued⟩ := h
  obtain ⟨queue, inHand⟩ := f
  cases inHand with
  | some events => exact ⟨hand, queued, rfl, hhand, hqueued⟩
  | none =>
    cases hqueued with
    | nil hr => exact ⟨hand, _, rfl, hhand, .nil hr⟩
    | cons hr hqueued => exact ⟨_, _, (List.append_assoc ..).symm, hhand.append hr, hqueued⟩

theorem gather (h : f.Carries unsent) : f.gather.Carries unsent := by
  obtain ⟨hand, queued, rfl, hhand, hqueued⟩ := h
  obtain ⟨queue, inHand⟩ := f
  cases inHand with
  | none => exact ⟨hand, queued, rfl, hhand, hqueued⟩
  | some events =>
    cases hqueued with
    | nil hr => exact ⟨hand, _, rfl, hhand, .nil hr⟩
    | cons hr hqueued => exact ⟨_, _, (List.append_assoc ..).symm, hhand.append hr, hqueued⟩

theorem release (h : f.Carries unsent) :
    ∃ seen unsent', unsent = seen ++ unsent' ∧ Faithful seen f.release.2 ∧
      f.release.1.Carries unsent' := by
  obtain ⟨hand, queued, rfl, hhand, hqueued⟩ := h
  exact ⟨hand, queued, rfl, hhand.trans (.coalesce _), [], queued, rfl, .refl [], hqueued⟩

end Carries

theorem distinct_release (f : Forwarder) : Distinct f.release.2 :=
  FileEvent.distinct_coalesce _

end Forwarder

def Outgoing.batch? : Outgoing → Option (List FileEvent)
  | .filesChanged events => some events
  | _ => none

def batchesIn (ms : List Outgoing) : List (List FileEvent) :=
  ms.filterMap Outgoing.batch?

theorem batchesIn_append (ms ms' : List Outgoing) :
    batchesIn (ms ++ ms') = batchesIn ms ++ batchesIn ms' := by
  simp [batchesIn]

theorem batchesIn_eq_nil {ms : List Outgoing} {url : Url}
    (h : ∀ m ∈ ms, m.document? = some url) : batchesIn ms = [] := by
  rw [batchesIn, List.filterMap_eq_nil_iff]
  intro m hm
  have hd := h m hm
  cases m <;> simp [Outgoing.document?] at hd <;> rfl

namespace Client

def forwarder? (c : Client) : Option Forwarder :=
  c.session.bind (·.forwarder)

theorem forwarder?_of_session {c : Client} {session : Session} (hs : c.session = some session) :
    c.forwarder? = session.forwarder := by
  simp [forwarder?, hs]

theorem forwarder?_of_forwarding {c : Client} {f : Forwarder} (hf : c.forwarding? = some f) :
    c.forwarder? = some f := by
  obtain ⟨session, hs, -, hsf⟩ := exists_session_of_forwarding hf
  rw [forwarder?_of_session hs, hsf]

theorem forwarder?_setForwarder {c : Client} {f : Forwarder} (hf : c.forwarding? = some f)
    (f' : Forwarder) : (c.setForwarder f').forwarder? = some f' := by
  obtain ⟨session, hs, -⟩ := exists_session_of_forwarding hf
  simp [forwarder?, setForwarder, hs]

theorem forwarder?_queueEvents (c : Client) (events : List FileEvent) :
    (c.queueEvents events).forwarder? = c.forwarder?.map (·.enqueue events) := by
  cases hs : c.session <;> simp [forwarder?, queueEvents, hs]

theorem forwarder?_editSession (c : Client) {f : Session → Session}
    (h : ∀ session, (f session).forwarder = session.forwarder) :
    (c.editSession f).forwarder? = c.forwarder? := by
  cases hs : c.session <;> simp [forwarder?, hs, h]

theorem forwarder?_closed (c : Client) {f : Session → Session}
    (h : ∀ session, (f session).forwarder = none) : (c.editSession f).forwarder? = none := by
  cases hs : c.session <;> simp [forwarder?, hs, h]

end Client

namespace Course

/-- What one step does to a forwarder: the batches that it sends and the events that come in. -/
structure Passes (raw : List FileEvent) (told : List (List FileEvent)) (f f' : Forwarder) :
    Prop where
  wellFormed : ∀ batch ∈ told, batch ≠ [] ∧ Distinct batch
  carries : ∀ unsent, f.Carries unsent → ∃ seen unsent', unsent ++ raw = seen ++ unsent' ∧
    Faithful seen told.flatten ∧ f'.Carries unsent'

theorem Passes.of_silence {raw : List FileEvent} {f f' : Forwarder}
    (h : ∀ unsent, f.Carries unsent → f'.Carries (unsent ++ raw)) : Passes raw [] f f' where
  wellFormed batch hb := by cases hb
  carries unsent hu := ⟨[], unsent ++ raw, rfl, .refl [], h unsent hu⟩

theorem Passes.of_nothing {raw : List FileEvent} (hr : coalesce raw = []) (f : Forwarder) :
    Passes raw [] f f :=
  .of_silence fun _ hu => hu.silent (hr ▸ .coalesce raw)

theorem Passes.refl (f : Forwarder) : Passes [] [] f f :=
  .of_nothing rfl f

theorem Passes.release {f : Forwarder} (he : f.release.2 ≠ []) :
    Passes [] [f.release.2] f f.release.1 where
  wellFormed batch hb := by
    rw [List.mem_singleton.mp hb]
    exact ⟨he, f.distinct_release⟩
  carries unsent hu := by
    obtain ⟨seen, unsent', hsplit, hseen, hleft⟩ := hu.release
    refine ⟨seen, unsent', (List.append_nil unsent).trans hsplit, ?_, hleft⟩
    rw [List.flatten_singleton]
    exact hseen

theorem Passes.release_nothing {f : Forwarder} (he : f.release.2 = []) :
    Passes [] [] f f.release.1 where
  wellFormed batch hb := by cases hb
  carries unsent hu := by
    obtain ⟨seen, unsent', hsplit, hseen, hleft⟩ := hu.release
    rw [he] at hseen
    exact ⟨seen, unsent', (List.append_nil unsent).trans hsplit, hseen, hleft⟩

theorem passes_of_same {s s' : Course} {raw : List FileEvent} {ms : List Outgoing}
    (h : s'.client.forwarder? = s.client.forwarder?) (hr : raw = []) (hb : batchesIn ms = [])
    {f' : Forwarder} (hf' : s'.client.forwarder? = some f') :
    ∃ f, s.client.forwarder? = some f ∧ Passes raw (batchesIn ms) f f' := by
  refine ⟨f', h ▸ hf', ?_⟩
  rw [hr, hb]
  exact .refl f'

/-- A forwarder that is there after a step was there before it, and has passed on what it lost. -/
theorem Effect.passes {s s' : Course} {h : Happening} {ms : List Outgoing} (e : Effect s h ms s')
    (hs : s.client.session.isSome) {f' : Forwarder} (hf' : s'.client.forwarder? = some f') :
    ∃ f, s.client.forwarder? = some f ∧ Passes h.raw (batchesIn ms) f f' := by
  cases e with
  | nothing _ hr => exact ⟨f', hf', .of_nothing hr f'⟩
  | begun _ hr root url child watcher hn hl => simp [hn] at hs
  | called _ hr => exact passes_of_same rfl hr rfl hf'
  | moved _ hr => exact passes_of_same rfl hr rfl hf'
  | @opened t i url language text o hi ho =>
    subst ho
    exact passes_of_same rfl rfl
      (batchesIn_eq_nil (Documents.document?_of_sent_openText _ url language text)) hf'
  | @changed t i url text o hi ho =>
    subst ho
    exact passes_of_same rfl rfl
      (batchesIn_eq_nil (Documents.document?_of_sent_changeText _ url text)) hf'
  | taken => exact passes_of_same rfl rfl rfl hf'
  | @closed t i url o hi ho =>
    subst ho
    exact passes_of_same rfl rfl
      (batchesIn_eq_nil (Documents.document?_of_sent_sendClose _ url)) hf'
  | requested t hi hses =>
    refine passes_of_same ?_ rfl rfl hf'
    exact (Client.forwarder?_of_session hses).symm
  | greeted process params hses =>
    refine passes_of_same ?_ rfl rfl hf'
    exact (Client.forwarder?_of_session hses).symm
  | unanswered _ hr hses =>
    exact absurd (hf'.symm.trans (s.client.forwarder?_closed fun _ => rfl)) (by simp)
  | announced capabilities hses =>
    refine passes_of_same ?_ rfl rfl hf'
    exact (Client.forwarder?_of_session hses).symm
  | recorded hses =>
    refine passes_of_same ?_ rfl rfl hf'
    exact (Client.forwarder?_of_session hses).symm
  | promoted hses =>
    refine passes_of_same ?_ rfl rfl hf'
    exact (Client.forwarder?_of_session hses).symm
  | passedOver hses => cases hf'
  | reported events he =>
    have hq := (s.client.forwarder?_queueEvents _).symm.trans hf'
    obtain ⟨f, hf, rfl⟩ := Option.map_eq_some_iff.mp hq
    exact ⟨f, hf, .of_silence fun _ hu => hu.enqueue (.coalesce events)⟩
  | took hf =>
    obtain rfl := Option.some.inj ((Client.forwarder?_setForwarder hf _).symm.trans hf')
    exact ⟨_, Client.forwarder?_of_forwarding hf, .of_silence fun _ hu => hu.take.silent (.refl [])⟩
  | gathered hf =>
    obtain rfl := Option.some.inj ((Client.forwarder?_setForwarder hf _).symm.trans hf')
    exact ⟨_, Client.forwarder?_of_forwarding hf,
      .of_silence fun _ hu => hu.gather.silent (.refl [])⟩
  | heldNothing hf he =>
    obtain rfl := Option.some.inj ((Client.forwarder?_setForwarder hf _).symm.trans hf')
    exact ⟨_, Client.forwarder?_of_forwarding hf, .release_nothing he⟩
  | sent hf he hc =>
    obtain rfl := Option.some.inj ((Client.forwarder?_setForwarder hf _).symm.trans hf')
    exact ⟨_, Client.forwarder?_of_forwarding hf, .release he⟩
  | lost hf he hc =>
    exact absurd (hf'.symm.trans (s.client.forwarder?_closed fun _ => rfl)) (by simp)
  | disconnected =>
    refine passes_of_same ?_ rfl rfl hf'
    exact s.client.forwarder?_editSession fun _ => rfl
  | noticed hc =>
    refine passes_of_same ?_ rfl rfl hf'
    simp only [setClient, Client.markFailed]
    split <;> rfl
  | stoppedUnstarted hn ho hses => simp [hses] at hs
  | stoppedRunning hn ho hses => cases hf'
  | stoppedOtherwise hn ho hses => cases hf'
  | exited wait => exact passes_of_same rfl rfl rfl hf'
  | waitedFor wait hst hc =>
    refine passes_of_same ?_ rfl rfl hf'
    obtain ⟨f, hf, hsame⟩ := Client.advanceStop_of_unsent hc wait
    rw [hf]
    exact s.client.forwarder?_editSession fun session => (hsame session).2

theorem Effect.batchesIn_of_lost {s s' : Course} {h : Happening} {ms : List Outgoing}
    (e : Effect s h ms s') (hn : s'.client.forwarder? = none) : batchesIn ms = [] := by
  cases e with
  | @opened t i url language text o hi ho =>
    subst ho
    exact batchesIn_eq_nil (Documents.document?_of_sent_openText _ url language text)
  | @changed t i url text o hi ho =>
    subst ho
    exact batchesIn_eq_nil (Documents.document?_of_sent_changeText _ url text)
  | @closed t i url o hi ho =>
    subst ho
    exact batchesIn_eq_nil (Documents.document?_of_sent_sendClose _ url)
  | sent hf he hc => cases hn.symm.trans (Client.forwarder?_setForwarder hf _)
  | _ => rfl

/-- Of all that the watcher has seen the messages tell the first part, and the forwarder carries the
second one as long as it is there. -/
structure Relays (c : Client) (raw : List FileEvent) (told : List (List FileEvent)) : Prop where
  started : c.session.isSome
  wellFormed : ∀ batch ∈ told, batch ≠ [] ∧ Distinct batch
  account : ∃ seen unsent, raw = seen ++ unsent ∧ Faithful seen told.flatten ∧
    ∀ f, c.forwarder? = some f → f.Carries unsent

theorem Relays.start {c : Client} (hf : c.forwarder? = some {}) : Relays c [] [] where
  started := by
    obtain ⟨session, hs, -⟩ := Option.bind_eq_some_iff.mp hf
    simp [hs]
  wellFormed batch hb := by cases hb
  account := by
    refine ⟨[], [], rfl, .refl [], fun f hf' => ?_⟩
    obtain rfl := Option.some.inj (hf.symm.trans hf')
    exact .nothing

theorem Relays.step {s s' : Course} {h : Happening} {ms : List Outgoing} (e : Effect s h ms s')
    {raw : List FileEvent} {told : List (List FileEvent)} (hr : Relays s.client raw told) :
    Relays s'.client (raw ++ h.raw) (told ++ batchesIn ms) := by
  obtain ⟨seen, unsent, rfl, hseen, hunsent⟩ := hr.account
  cases hf' : s'.client.forwarder? with
  | none =>
    rw [e.batchesIn_of_lost hf', List.append_nil]
    refine ⟨e.session_isSome hr.started, hr.wellFormed, seen, unsent ++ h.raw,
      List.append_assoc .., hseen, ?_⟩
    simp [hf']
  | some f' =>
    obtain ⟨f, hf, hp⟩ := e.passes hr.started hf'
    obtain ⟨more, unsent', hsplit, hmore, hcarries⟩ := hp.carries unsent (hunsent f hf)
    refine ⟨e.session_isSome hr.started, ?_, seen ++ more, unsent', ?_, ?_, ?_⟩
    · intro batch hb
      exact (List.mem_append.mp hb).elim (hr.wellFormed batch) (hp.wellFormed batch)
    · rw [List.append_assoc, hsplit, List.append_assoc]
    · rw [List.flatten_append]
      exact hseen.append hmore
    · intro g hg
      obtain rfl := Option.some.inj (hf'.symm.trans hg)
      exact hcarries

theorem relays_run {s : Course} (hf : s.client.forwarder? = some {}) (hs : List Happening) :
    ∃ ms, (s.run hs).client.wire = s.client.wire ++ ms ∧
      Relays (s.run hs).client (hs.flatMap Happening.raw) (batchesIn ms) := by
  induction hs using List.reverseRecOn with
  | nil => exact ⟨[], (List.append_nil _).symm, .start hf⟩
  | append_singleton hs h ih =>
    obtain ⟨ms, hw, hr⟩ := ih
    obtain ⟨ms', e⟩ := effect_step (s.run hs) h
    refine ⟨ms ++ ms', ?_, ?_⟩
    · rw [run_concat, e.wire_eq, hw, List.append_assoc]
    · rw [run_concat, batchesIn_append, List.flatMap_append, List.flatMap_singleton]
      exact hr.step e

def told (s : Course) (hs : List Happening) : List (List FileEvent) :=
  batchesIn ((s.run hs).client.wire.drop s.client.wire.length)

def seen (hs : List Happening) : List FileEvent :=
  hs.flatMap Happening.raw

/-- From a new forwarder on, the messages sent tell of the beginning of what was seen, and of all of
it together with what a forwarder that is still there has left, merged. No message is empty or names
a file twice. -/
theorem faithfully_told (s : Course) (hs : List Happening) (hf : s.client.forwarder? = some {}) :
    (∀ batch ∈ s.told hs, batch ≠ [] ∧ (batch.map FileEvent.url).Nodup) ∧
      (∃ before, before <+: seen hs ∧ Faithful before (s.told hs).flatten) ∧
      ∀ f, (s.run hs).client.forwarder? = some f →
        Faithful (seen hs) ((s.told hs).flatten ++ coalesce f.held) := by
  obtain ⟨ms, hw, hr⟩ := relays_run hf hs
  have htold : s.told hs = batchesIn ms := by rw [told, hw, List.drop_left]
  obtain ⟨before, unsent, hsplit, hbefore, hunsent⟩ := hr.account
  rw [htold, seen]
  refine ⟨hr.wellFormed, ⟨before, ⟨unsent, hsplit.symm⟩, hbefore⟩, fun f hf' => ?_⟩
  rw [hsplit]
  exact hbefore.append ((hunsent f hf').faithful.trans (.coalesce f.held))

/-- A file that is created before the exchange is over and written to afterwards is told of once,
and its removal is still to come. -/
theorem faithfully_told_created :
    let settings : ClientSettings :=
      { id := "a", name := "a", server := .same { command := "a" },
        options := { synchronize := some { glob := "**/.clientrc" } } }
    let s := (ofSettings settings).step
      (.startOver { entries := [], current := [] } (Path.ofString "/"))
    let url : Url := { scheme := "file", authority := none, path := "/.clientrc" }
    let hs : List Happening :=
      [.report [⟨url, FileEvent.created⟩], .greet .null,
        .answer (.ok (.obj [("capabilities", .obj [])])), .record, .promote, .take,
        .report [⟨url, FileEvent.changed⟩], .gather, .send, .report [⟨url, FileEvent.deleted⟩]]
    let f : Forwarder := { queue := [[⟨url, FileEvent.deleted⟩]] }
    s.client.forwarder? = some {} ∧ (s.run hs).client.forwarder? = some f ∧
      s.told hs = [[⟨url, FileEvent.created⟩]] ∧
      Faithful (seen hs) ((s.told hs).flatten ++ coalesce f.held) := by
  intro settings s url hs f
  have hs₀ : s.client.forwarder? = some {} := by decide +kernel
  have hf : (s.run hs).client.forwarder? = some f := by decide +kernel
  exact ⟨hs₀, hf, by decide +kernel, (faithfully_told s hs hs₀).2.2 f hf⟩

end Course
end LspHost
