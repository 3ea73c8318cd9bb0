import LspHost.Proofs.Course.Documents

/-!
# Calls that return an error

A call about a document that returns an error has sent nothing, and it has left the table of
documents as it was unless it is forfeited: it has changed the table for an open document and only
then meets the end of the connection. `Goes` lists what such a call can do between two points at
which it can be overtaken, and `Stage` what it has done so far, in a run in which everything else
goes on as well.
-/

namespace LspHost

def Ask.isRequest : Ask → Bool
  | .request _ _ => true
  | _ => false

namespace Call

/-- A call that the host has just made about a document. -/
inductive IsNew : Call → Prop
  | openFile (path : Path) : IsNew (.seeking path)
  | openText (url : Url) (language text : String) : IsNew (.asked (.openText url language text))
  | changeText (url : Url) (text : String) : IsNew (.asked (.changeText url text))
  | close (url : Url) : IsNew (.asked (.close url))

def isPending : Call → Bool
  | seeking _ => true
  | reading _ _ => true
  | asked a => !a.isRequest
  | ready a => !a.isRequest
  | _ => false

theorem IsNew.isPending {call : Call} (h : call.IsNew) : call.isPending := by
  cases h <;> rfl

end Call

namespace Client

/-- The call has a text for an open document or has taken one out, and the connection is over. -/
inductive Forfeits (c : Client) : Call → Prop
  | text {a : Ask} {url : Url} (ha : a.textUrl? = some url)
      (hv : (c.documents.version? url).isSome) (hc : c.isConnected = false) : Forfeits c (.ready a)
  | close {url : Url} (hc : c.isConnected = false) : Forfeits c (.closing url)

/-- What a call about a document can do until it can be overtaken. -/
inductive Goes (c : Client) : Call → Client → Call → Prop
  | on {call call' : Call} (hp : call.isPending) (hp' : call'.isPending)
      (hno : ¬ c.Forfeits call) : Goes c call c call'
  | granted {call : Call} (c' : Client) (b : Bool) : Goes c call c' (.returned (.ok b))
  | refused {call : Call} (e : ClientError) (hp : call.isPending) (hno : ¬ c.Forfeits call) :
      Goes c call c (.returned (.error e))
  | takes {url : Url} {v : Int32} (hv : c.documents.version? url = some v) :
      Goes c (.ready (.close url)) { c with documents := c.documents.erase url } (.closing url)
  | textForfeited {a : Ask} {url : Url} {v : Int32} (reason : String) (ha : a.textUrl? = some url)
      (hv : c.documents.version? url = some v) (hc : c.isConnected = false) :
      Goes c (.ready a) { c with documents := c.documents.insert url (v + 1) }
        (.returned (.error (.requestFailed reason)))
  | closeForfeited {url : Url} (reason : String) (hc : c.isConnected = false) :
      Goes c (.closing url) c (.returned (.error (.requestFailed reason)))

section

variable {c : Client}

theorem not_forfeits_early {call : Call} (hready : ∀ a, call ≠ .ready a)
    (hclosing : ∀ url, call ≠ .closing url) : ¬ c.Forfeits call := by
  intro h
  cases h with
  | text => exact hready _ rfl
  | close => exact hclosing _ rfl

theorem not_forfeits_of_closed {a : Ask} (h : ∀ url, a.textUrl? = some url →
    c.documents.version? url = none) : ¬ c.Forfeits (.ready a) := by
  intro hf
  cases hf with
  | text ha hv hc => simp [h _ ha] at hv

theorem goes_enter {a : Ask} (ha : a.isRequest = false) : Goes c (.asked a) c (c.enter a) := by
  have hp : (Call.asked a).isPending := by simp [Call.isPending, ha]
  have hno : ¬ c.Forfeits (.asked a) := not_forfeits_early (by simp) (by simp)
  unfold enter
  split
  · exact .on hp hp hno
  · exact .on hp (by simp [Call.isPending, ha]) hno
  · exact .refused _ hp hno

theorem goes_change {a : Ask} {url : Url} {v : Int32} {text : String} (ha : a.textUrl? = some url)
    (hv : c.documents.version? url = some v) {α : Type} {value : α} {b : Bool}
    {f : Except ClientError α → Except ClientError Bool} (hok : f (.ok value) = .ok b)
    (herror : ∀ e, f (.error e) = .error e) :
    let done := c.applyOutcome (c.documents.sendChange c.isConnected url v text value)
    Goes c (.ready a) done.1 (.returned (f done.2)) := by
  intro done
  simp only [done, applyOutcome_sendChange]
  cases hc : c.isConnected with
  | true =>
    rw [if_pos rfl, if_pos rfl, hok]
    exact .granted _ b
  | false =>
    rw [if_neg nofun, if_neg nofun, herror, List.append_nil]
    exact .textForfeited _ ha hv hc

theorem goes_act {a : Ask} (ha : a.isRequest = false) :
    Goes c (.ready a) (c.act a).1 (c.act a).2 := by
  cases a with
  | openText url language text =>
    cases hv : c.documents.version? url with
    | some v =>
      simp only [act, openText, Documents.openText_of_open hv, Prod.map]
      exact goes_change (f := id) rfl hv rfl fun _ => rfl
    | none =>
      simp only [act, openText, Prod.map]
      cases hc : c.isConnected with
      | true =>
        rw [Documents.openText_of_closed hv]
        exact .granted _ true
      | false =>
        rw [Documents.openText_of_closed_lost hv, applyOutcome_hand_lost]
        refine .refused _ rfl (not_forfeits_of_closed fun url' h => ?_)
        obtain rfl := Option.some.inj h
        exact hv
  | changeText url text =>
    cases hv : c.documents.version? url with
    | some v =>
      simp only [act, changeText, Documents.changeText_of_open hv, Prod.map]
      exact goes_change (f := fun r => r.map fun _ => true) rfl hv rfl fun _ => rfl
    | none =>
      simp only [act, changeText_of_closed hv, Prod.map]
      refine .refused _ rfl (not_forfeits_of_closed fun url' h => ?_)
      obtain rfl := Option.some.inj h
      exact hv
  | close url =>
    simp only [act, takeDocument, Documents.take]
    cases hv : c.documents.version? url with
    | some v => exact .takes hv
    | none => exact .refused _ rfl (not_forfeits_of_closed (by simp [Ask.textUrl?]))
  | request method params => cases ha

theorem goes_close (url : Url) :
    Goes c (.closing url) ((c.sendClose url).map id fun r => Call.returned (r.map fun _ => true)).1
      ((c.sendClose url).map id fun r => Call.returned (r.map fun _ => true)).2 := by
  cases hc : c.isConnected with
  | true =>
    simp only [sendClose, Documents.sendClose, Documents.hand, hc]
    exact .granted _ true
  | false =>
    rw [sendClose, Documents.sendClose, hc, applyOutcome_hand_lost]
    exact .closeForfeited _ hc

/-- Whatever a call about a document does until it can be overtaken is one of these. -/
theorem goes_advance (t : FileTree) {call : Call}
    (h : call.isPending ∨ ∃ url, call = .closing url) :
    Goes c call (c.advance t call).1 (c.advance t call).2 := by
  cases call with
  | seeking path =>
    have hno : ¬ c.Forfeits (.seeking path) := not_forfeits_early (by simp) (by simp)
    simp only [advance]
    split
    · exact .on rfl rfl hno
    · exact .refused _ rfl hno
  | reading url path =>
    have hno : ¬ c.Forfeits (.reading url path) := not_forfeits_early (by simp) (by simp)
    simp only [advance]
    split
    · exact .on rfl rfl hno
    · exact .refused _ rfl hno
  | asked a =>
    have ha : a.isRequest = false := by simpa [Call.isPending] using h
    cases a with
    | openText url language text =>
      simp only [advance]
      split
      · exact goes_enter rfl
      · exact .granted _ false
    | changeText url text => exact goes_enter rfl
    | close url => exact goes_enter rfl
    | request method params => cases ha
  | ready a => exact goes_act (by simpa [Call.isPending] using h)
  | closing url => exact goes_close url
  | returned r => simp [Call.isPending] at h
  | dropped => simp [Call.isPending] at h

end

end Client

namespace Course

section

variable (s : Course) (i : Nat)

/-- Something holds of every step that a call takes in a run. -/
def EachStep (hs : List Happening) (Q : Course → Course → Prop) : Prop :=
  ∀ before t, before ++ [.goOn t i] <+: hs → Q (s.run before) (s.run (before ++ [.goOn t i]))

def SaysNothing (hs : List Happening) : Prop :=
  s.EachStep i hs fun s s' => s'.client.wire = s.client.wire

def SparesTable (hs : List Happening) : Prop :=
  s.EachStep i hs fun s s' => s'.client.documents = s.client.documents

def Unforfeited (hs : List Happening) : Prop :=
  s.EachStep i hs fun s _ => ∀ call, s.calls[i]? = some call → ¬ s.client.Forfeits call

def Alone (hs : List Happening) : Prop :=
  ∀ t j, Happening.goOn t j ∈ hs → j = i

variable {s i} {hs : List Happening} {h : Happening} {Q : Course → Course → Prop}

theorem eachStep_nil : s.EachStep i [] Q := by
  intro before t hb
  simp at hb

theorem eachStep_concat_of_ne (hne : ∀ t, h ≠ .goOn t i) :
    s.EachStep i (hs ++ [h]) Q ↔ s.EachStep i hs Q := by
  constructor
  · exact fun he before t hb => he before t (hb.trans ⟨[h], rfl⟩)
  · intro he before t hb
    rcases List.prefix_concat_iff.mp hb with heq | hb
    · exact absurd (List.singleton_inj.mp (List.append_inj' heq rfl).2).symm (hne t)
    · exact he before t hb

theorem eachStep_concat (t : FileTree) : s.EachStep i (hs ++ [.goOn t i]) Q ↔
    s.EachStep i hs Q ∧ Q (s.run hs) ((s.run hs).step (.goOn t i)) := by
  constructor
  · intro he
    have hlast := he hs t List.prefix_rfl
    rw [run_concat] at hlast
    exact ⟨fun before t' hb => he before t' (hb.trans ⟨_, rfl⟩), hlast⟩
  · rintro ⟨he, hlast⟩ before t' hb
    rcases List.prefix_concat_iff.mp hb with heq | hb
    · obtain ⟨rfl, hh⟩ := List.append_inj' heq rfl
      rw [List.singleton_inj.mp hh, run_concat]
      exact hlast
    · exact he before t' hb

theorem Effect.documents_eq {s s' : Course} {ms : List Outgoing} (e : Effect s h ms s')
    (hne : ∀ t j, h ≠ .goOn t j) : s'.client.documents = s.client.documents := by
  cases e with
  | opened t => exact absurd rfl (hne t _)
  | changed t => exact absurd rfl (hne t _)
  | taken t => exact absurd rfl (hne t _)
  | closed t => exact absurd rfl (hne t _)
  | noticed => simp only [setClient, Client.markFailed, apply_ite Client.documents, ite_self]
  | waitedFor wait hst hc =>
    obtain ⟨f, hf, -⟩ := Client.advanceStop_of_unsent hc wait
    simp [hf]
  | _ => rfl

theorem calls_step_of_goOn {s : Course} {call : Call} (hi : s.calls[i]? = some call)
    (t : FileTree) : s.step (.goOn t i) =
      { s with
        client := (s.client.advance t call).1
        calls := s.calls.set i (s.client.advance t call).2 } := by
  rw [step, goOn, hi]

theorem getElem?_calls_step_of_ne {s : Course} {call : Call} (hi : s.calls[i]? = some call)
    (hne : ∀ t, h ≠ .goOn t i) :
    (s.step h).calls[i]? = some call ∨ (s.step h).calls[i]? = some .dropped := by
  have hlt : i < s.calls.length := (List.getElem?_eq_some_iff.mp hi).1
  have happend : ∀ call', (s.calls ++ [call'])[i]? = some call := fun call' =>
    (List.getElem?_append_left hlt).trans hi
  cases h with
  | ask a => exact Or.inl (happend _)
  | askFile path => exact Or.inl (happend _)
  | goOn t j =>
    have hj : j ≠ i := fun hj => hne t (hj ▸ rfl)
    rw [step, goOn]
    split
    · exact Or.inl ((List.getElem?_set_ne hj).trans hi)
    · exact Or.inl hi
  | giveUp j =>
    rw [step, giveUp]
    split
    · exact Or.inl hi
    · by_cases hj : j = i
      · subst hj
        exact Or.inr (List.getElem?_set_self hlt)
      · exact Or.inl ((List.getElem?_set_ne hj).trans hi)
    · exact Or.inl hi
  | _ =>
    rw [calls_step_of_not_isCall rfl]
    exact Or.inl hi

end

/-- What a call has done in a run so far: it has said nothing, it has spared the table or not, and
it has been forfeited or not. -/
structure Conduct (s : Course) (i : Nat) (hs : List Happening) (spared unforfeited : Prop) :
    Prop where
  silent : s.SaysNothing i hs
  spares_iff : s.SparesTable i hs ↔ spared
  unforfeited_iff : s.Unforfeited i hs ↔ unforfeited
  documents_iff : Alone i hs → ((s.run hs).client.documents = s.client.documents ↔ spared)

namespace Conduct

variable {s : Course} {i : Nat} {hs : List Happening} {h : Happening} {spared unforfeited : Prop}

theorem nil (s : Course) (i : Nat) : Conduct s i [] True True where
  silent := eachStep_nil
  spares_iff := iff_true_intro eachStep_nil
  unforfeited_iff := iff_true_intro eachStep_nil
  documents_iff _ := iff_true_intro rfl

theorem other (cd : Conduct s i hs spared unforfeited) (hne : ∀ t, h ≠ .goOn t i) :
    Conduct s i (hs ++ [h]) spared unforfeited where
  silent := (eachStep_concat_of_ne hne).mpr cd.silent
  spares_iff := (eachStep_concat_of_ne hne).trans cd.spares_iff
  unforfeited_iff := (eachStep_concat_of_ne hne).trans cd.unforfeited_iff
  documents_iff ha := by
    have hnone : ∀ t j, h ≠ .goOn t j := by
      rintro t j rfl
      exact hne t (by rw [ha t j (by simp)])
    obtain ⟨ms, e⟩ := effect_step (s.run hs) h
    rw [run_concat, e.documents_eq hnone]
    exact cd.documents_iff fun t j hj => ha t j (List.mem_append_left _ hj)

/-- The call goes on: it can change the table only once. -/
theorem own (cd : Conduct s i hs spared unforfeited) {t : FileTree} {call : Call} {c' : Client}
    {spares unforfeits : Prop} (hi : (s.run hs).calls[i]? = some call)
    (hc : ((s.run hs).client.advance t call).1 = c') (hw : c'.wire = (s.run hs).client.wire)
    (hd : c'.documents = (s.run hs).client.documents ↔ spares)
    (hf : ¬ (s.run hs).client.Forfeits call ↔ unforfeits) (honce : spared ∨ spares) :
    Conduct s i (hs ++ [.goOn t i]) (spared ∧ spares) (unforfeited ∧ unforfeits) := by
  have hstep : ((s.run hs).step (.goOn t i)).client = c' := by
    rw [calls_step_of_goOn hi, hc]
  refine ⟨?_, ?_, ?_, fun ha => ?_⟩
  · rw [SaysNothing, eachStep_concat, hstep]
    exact ⟨cd.silent, hw⟩
  · rw [SparesTable, eachStep_concat, hstep]
    exact and_congr cd.spares_iff hd
  · rw [Unforfeited, eachStep_concat]
    refine and_congr cd.unforfeited_iff (Iff.trans ?_ hf)
    simp [hi]
  · have hbefore := cd.documents_iff fun t j hj => ha t j (List.mem_append_left _ hj)
    rw [run_concat, hstep]
    by_cases hspared : spared
    · rw [← hbefore.mpr hspared, hd]
      simp [hspared]
    · have hspares := honce.resolve_left hspared
      rw [hd.mpr hspares, hbefore]
      simp [hspares]

theorem spare (cd : Conduct s i hs spared unforfeited) {t : FileTree} {call : Call}
    (hi : (s.run hs).calls[i]? = some call)
    (hc : ((s.run hs).client.advance t call).1 = (s.run hs).client)
    (hno : ¬ (s.run hs).client.Forfeits call) :
    Conduct s i (hs ++ [.goOn t i]) spared unforfeited := by
  have hown := cd.own hi hc rfl (iff_true_intro rfl) (iff_true_intro hno) (Or.inr trivial)
  rwa [and_true, and_true] at hown

end Conduct

/-- What a call about a document has done so far, by the stage that it has reached. -/
inductive Stage (s : Course) (i : Nat) (hs : List Happening) : Call → Prop
  | pending {call : Call} (hp : call.isPending) (cd : Conduct s i hs True True) : Stage s i hs call
  | closing {url : Url} (cd : Conduct s i hs False True) : Stage s i hs (.closing url)
  | refused {e : ClientError} (forfeited : Prop) (cd : Conduct s i hs (¬ forfeited) (¬ forfeited))
      (he : forfeited → ∃ reason, e = .requestFailed reason) :
      Stage s i hs (.returned (.error e))
  | granted (b : Bool) : Stage s i hs (.returned (.ok b))
  | dropped : Stage s i hs .dropped

namespace Stage

variable {s : Course} {i : Nat} {hs : List Happening} {h : Happening} {call : Call}

theorem other (st : Stage s i hs call) (hne : ∀ t, h ≠ .goOn t i) : Stage s i (hs ++ [h]) call := by
  cases st with
  | pending hp cd => exact .pending hp (cd.other hne)
  | closing cd => exact .closing (cd.other hne)
  | refused forfeited cd he => exact .refused forfeited (cd.other hne) he
  | granted b => exact .granted b
  | dropped => exact .dropped

theorem own (st : Stage s i hs call) (hi : (s.run hs).calls[i]? = some call) (t : FileTree) :
    Stage s i (hs ++ [.goOn t i]) ((s.run hs).client.advance t call).2 := by
  cases st with
  | pending hp cd =>
    have hg := (s.run hs).client.goes_advance t (Or.inl hp)
    generalize hadv : (s.run hs).client.advance t call = r at hg ⊢
    have hc : ((s.run hs).client.advance t call).1 = r.1 := congrArg Prod.fst hadv
    obtain ⟨c', call'⟩ := r
    cases hg with
    | on _ hp' hno => exact .pending hp' (cd.spare hi hc hno)
    | granted c' b => exact .granted b
    | refused e _ hno =>
      refine .refused False ?_ nofun
      rw [not_false_iff]
      exact cd.spare hi hc hno
    | @takes url _ hv =>
      refine .closing ?_
      have hd := Documents.erase_ne_self (Option.isSome_of_eq_some hv)
      have hno : ¬ (s.run hs).client.Forfeits (.ready (.close url)) :=
        Client.not_forfeits_of_closed nofun
      simpa using cd.own hi hc rfl (iff_false_intro hd) (iff_true_intro hno) (Or.inl trivial)
    | textForfeited reason ha hv hcon =>
      refine .refused True ?_ fun _ => ⟨reason, rfl⟩
      have hd := Documents.insert_succ_ne_self hv
      have hf := Client.Forfeits.text ha (Option.isSome_of_eq_some hv) hcon
      simpa using cd.own hi hc rfl (iff_false_intro hd) (iff_false_intro (not_not_intro hf))
        (Or.inl trivial)
    | closeForfeited => cases hp
  | @closing url cd =>
    have hg := (s.run hs).client.goes_advance t (Or.inr ⟨url, rfl⟩)
    generalize hadv : (s.run hs).client.advance t (.closing url) = r at hg ⊢
    have hc : ((s.run hs).client.advance t (.closing url)).1 = r.1 := congrArg Prod.fst hadv
    obtain ⟨c', call'⟩ := r
    cases hg with
    | on hp => cases hp
    | granted c' b => exact .granted b
    | refused e hp => cases hp
    | closeForfeited reason hcon =>
      refine .refused True ?_ fun _ => ⟨reason, rfl⟩
      have hf : (s.run hs).client.Forfeits (.closing url) := .close hcon
      simpa using cd.own hi hc rfl (iff_true_intro rfl) (iff_false_intro (not_not_intro hf))
        (Or.inr trivial)
  | refused forfeited cd he => exact .refused forfeited (cd.spare hi rfl nofun) he
  | granted b => exact .granted b
  | dropped => exact .dropped

/-- Every call that the host makes about a document stands at one of the stages in every run. -/
theorem of_isNew (hi : s.calls[i]? = some call) (hb : call.IsNew) (hs : List Happening) :
    ∃ call', (s.run hs).calls[i]? = some call' ∧ Stage s i hs call' := by
  induction hs using List.reverseRecOn with
  | nil => exact ⟨call, hi, .pending hb.isPending (Conduct.nil s i)⟩
  | append_singleton hs h ih =>
    obtain ⟨call', hi', st⟩ := ih
    rw [run_concat]
    by_cases hown : ∃ t, h = .goOn t i
    · obtain ⟨t, rfl⟩ := hown
      refine ⟨_, ?_, st.own hi' t⟩
      rw [calls_step_of_goOn hi']
      exact List.getElem?_set_self (List.getElem?_eq_some_iff.mp hi').1
    · have hne : ∀ t, h ≠ .goOn t i := fun t ht => hown ⟨t, ht⟩
      rcases getElem?_calls_step_of_ne hi' hne with hsame | hdropped
      · exact ⟨call', hsame, st.other hne⟩
      · exact ⟨.dropped, hdropped, .dropped⟩

end Stage

/-- A call about a document that returns an error has put nothing on the wire in any of its steps,
whatever else went on. It has left the table of documents as it was in every step exactly if it was
not forfeited, and it is forfeited only if its notification could not be handed over. -/
theorem refused_call {s : Course} {i : Nat} {call : Call} (hi : s.calls[i]? = some call)
    (hb : call.IsNew) {hs : List Happening} {e : ClientError}
    (hr : (s.run hs).calls[i]? = some (.returned (.error e))) :
    s.SaysNothing i hs ∧
    (s.SparesTable i hs ↔ s.Unforfeited i hs) ∧
    ((∀ reason, e ≠ .requestFailed reason) → s.Unforfeited i hs) ∧
    (Alone i hs → ((s.run hs).client.documents = s.client.documents ↔ s.Unforfeited i hs)) := by
  obtain ⟨call', hi', st⟩ := Stage.of_isNew hi hb hs
  obtain rfl := Option.some.inj (hi'.symm.trans hr)
  cases st with
  | pending hp => cases hp
  | refused forfeited cd he =>
    refine ⟨cd.silent, cd.spares_iff.trans cd.unforfeited_iff.symm, fun hother => ?_,
      fun ha => (cd.documents_iff ha).trans cd.unforfeited_iff.symm⟩
    refine cd.unforfeited_iff.mpr fun hf => ?_
    obtain ⟨reason, rfl⟩ := he hf
    exact hother reason rfl

/-- A text for an open document, of which the client stops knowing the server's end. -/
theorem refused_call_lost :
    let settings : ClientSettings :=
      { id := "a", name := "a", server := .same { command := "a" },
        options := { selector := { filters := [{}] } } }
    let tree : FileTree := { entries := [], current := [] }
    let url : Url := { scheme := "file", authority := none, path := "/a" }
    let s : Course :=
      { client :=
          { settings, life := .running, documents := ⟨[(url, 1)]⟩,
            session := some { root := Path.ofString "/", url, handshake := .forwarding } },
        calls := [.asked (.openText url "a" "two")] }
    let hs : List Happening := [.goOn tree 0, .disconnect, .goOn tree 0]
    (s.calls[0]? = some (.asked (.openText url "a" "two")) ∧
      (s.run hs).calls[0]? = some (.returned (.error
        (.requestFailed "didChange notification failed: service stopped")))) ∧
    s.SaysNothing 0 hs ∧ (s.run hs).client.documents.version? url = some 2 ∧
      ¬ s.SparesTable 0 hs ∧ ¬ s.Unforfeited 0 hs := by
  intro settings tree url s hs
  have hr : (s.run hs).calls[0]? = some (.returned (.error
      (.requestFailed "didChange notification failed: service stopped"))) := rfl
  have ha : Alone 0 hs := by
    intro t j hj
    have hgo : t = tree ∧ j = 0 := by simpa [hs] using hj
    exact hgo.2
  have hversion : (s.run hs).client.documents.version? url = some 2 := by decide +kernel
  obtain ⟨hsilent, hspares, -, halone⟩ :=
    refused_call (s := s) (i := 0) rfl (.openText url "a" "two") hr
  have hlost : ¬ s.Unforfeited 0 hs := by
    intro hu
    rw [(halone ha).mpr hu] at hversion
    exact absurd hversion (by decide +kernel)
  exact ⟨⟨rfl, hr⟩, hsilent, hversion, fun h => hlost (hspares.mp h), hlost⟩

end Course
end LspHost
