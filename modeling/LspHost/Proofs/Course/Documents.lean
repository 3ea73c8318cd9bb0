import LspHost.Proofs.Course.Effect
import LspHost.Proofs.Documents.Store

/-!
# Documents under calls that overtake each other

Opening and changing hold the table while their message is handed over, closing lets go of it
before. As long as no mishap has happened, a document either has one version in the table and at the
server, or a single close of it is under way: the table has forgotten it and the server still has it
open. Each mishap breaks this at once, so that the mishaps are exactly what keeps the server's
documents from being those of the table.
-/

namespace LspHost

def Ask.textUrl? : Ask → Option Url
  | .openText url _ _ => some url
  | .changeText url _ => some url
  | _ => none

namespace Course

/-- The calls that have taken their document out and have not told the server yet. -/
def Closing (s : Course) (url : Url) : Prop :=
  ∃ i : Nat, s.calls[i]? = some (.closing url)

/-- What may go wrong when a call goes on: a document is opened again before the server has been
told of its close, the connection is over but the table is changed, or there is no next version. -/
inductive Mishap (s : Course) : Happening → Prop
  | overtaken {t : FileTree} {i : Nat} {url : Url} {language text : String}
      (hi : s.calls[i]? = some (.ready (.openText url language text)))
      (hv : s.client.documents.version? url = none) (hc : s.client.isConnected)
      (hcl : s.Closing url) : Mishap s (.goOn t i)
  | textLost {t : FileTree} {i : Nat} {a : Ask} {url : Url} {v : Int32}
      (hi : s.calls[i]? = some (.ready a)) (ha : a.textUrl? = some url)
      (hv : s.client.documents.version? url = some v) (hc : s.client.isConnected = false) :
      Mishap s (.goOn t i)
  | overrun {t : FileTree} {i : Nat} {a : Ask} {url : Url}
      (hi : s.calls[i]? = some (.ready a)) (ha : a.textUrl? = some url)
      (hv : s.client.documents.version? url = some Int32.maxValue) (hc : s.client.isConnected) :
      Mishap s (.goOn t i)
  | closeLost {t : FileTree} {i : Nat} {url : Url} (hi : s.calls[i]? = some (.closing url))
      (hc : s.client.isConnected = false) : Mishap s (.goOn t i)

/-- The server has taken all that it was told about documents, and has open what the table says,
apart from documents of which a close is under way. -/
def Mirrored (s : Course) : Prop :=
  ∃ st, Store.empty.receiveAll? s.client.wire = some st ∧
    ∀ url, ¬ s.Closing url → s.client.documents.Matches st url

/-- Why the server's documents stay those of the table. -/
structure Mirrors (s : Course) (st : Store) : Prop where
  received : Store.empty.receiveAll? s.client.wire = some st
  settled : ∀ url, ¬ s.Closing url → s.client.documents.Matches st url
  taken : ∀ url, s.Closing url → s.client.documents.version? url = none ∧ (st url).isSome
  alone : ∀ {i j : Nat} {url : Url}, s.calls[i]? = some (.closing url) →
    s.calls[j]? = some (.closing url) → i = j

theorem Mirrors.mirrored {s : Course} {st : Store} (hm : Mirrors s st) : Mirrored s :=
  ⟨st, hm.received, hm.settled⟩

def SameClosing (s s' : Course) : Prop :=
  ∀ (i : Nat) (url : Url), s'.calls[i]? = some (.closing url) ↔ s.calls[i]? = some (.closing url)

section

variable {s s' : Course} {st st' : Store} {ms : List Outgoing}

theorem SameClosing.closing_iff (hs : SameClosing s s') (url : Url) :
    s'.Closing url ↔ s.Closing url :=
  exists_congr fun i => hs i url

theorem sameClosing_of_eq (h : s'.calls = s.calls) : SameClosing s s' := by
  intro i url
  rw [h]

theorem closing_set {calls : List Call} {i : Nat} {call : Call} (hi : calls[i]? = some call)
    (call' : Call) (j : Nat) (url : Url) :
    (calls.set i call')[j]? = some (.closing url) ↔
      i = j ∧ call' = .closing url ∨ i ≠ j ∧ calls[j]? = some (.closing url) := by
  by_cases hj : i = j
  · subst hj
    have hlt : i < calls.length := (List.getElem?_eq_some_iff.mp hi).1
    simp [List.getElem?_set_self hlt]
  · simp [List.getElem?_set_ne hj, hj]

theorem sameClosing_set {i : Nat} {call call' : Call} (hi : s.calls[i]? = some call)
    (hfrom : ∀ url, call ≠ .closing url) (hto : ∀ url, call' ≠ .closing url)
    (h : s'.calls = s.calls.set i call') : SameClosing s s' := by
  intro j url
  rw [h, closing_set hi]
  constructor
  · rintro (⟨-, hcall⟩ | ⟨-, hj⟩)
    · exact absurd hcall (hto url)
    · exact hj
  · intro hj
    refine Or.inr ⟨?_, hj⟩
    rintro rfl
    exact hfrom url (Option.some.inj (hi.symm.trans hj))

theorem sameClosing_concat {call : Call} (hc : call.isUnderWay = false)
    (h : s'.calls = s.calls ++ [call]) : SameClosing s s' := by
  intro i url
  rw [h]
  rcases Nat.lt_trichotomy i s.calls.length with hlt | rfl | hgt
  · rw [List.getElem?_append_left hlt]
  · have hne : call ≠ .closing url := by
      rintro rfl
      cases hc
    simp [hne]
  · have hlen : (s.calls ++ [call]).length ≤ i := by
      simp only [List.length_append, List.length_singleton]
      omega
    rw [List.getElem?_eq_none hlen, List.getElem?_eq_none (Nat.le_of_lt hgt)]

namespace Mirrors

theorem keep (hm : Mirrors s st) (hw : s'.client.wire = s.client.wire ++ ms)
    (hd : ∀ m ∈ ms, m.document? = none) (ht : s'.client.documents = s.client.documents)
    (hc : SameClosing s s') : Mirrors s' st where
  received := by
    rw [hw, Store.receiveAll?_append, hm.received, Option.bind_some]
    clear hw
    induction ms with
    | nil => rfl
    | cons m ms ih =>
      have hm := st.receive?_of_document_none (hd m List.mem_cons_self)
      rw [Store.receiveAll?, List.foldlM_cons, hm]
      exact ih fun m' hm' => hd m' (List.mem_cons_of_mem _ hm')
  settled url hn := by
    rw [ht]
    exact hm.settled url fun hcl => hn ((hc.closing_iff url).mpr hcl)
  taken url hcl := by
    rw [ht]
    exact hm.taken url ((hc.closing_iff url).mp hcl)
  alone hi hj := hm.alone ((hc _ _).mp hi) ((hc _ _).mp hj)

theorem write (hm : Mirrors s st) {url : Url} {v : Int32} {text : String} {m : Outgoing}
    (hw : s'.client.wire = s.client.wire ++ [m])
    (hr : st.receive? m = some (st.put url (some ⟨v.toInt, text⟩)))
    (ht : s'.client.documents = s.client.documents.insert url v) (hn : ¬ s.Closing url)
    (hc : SameClosing s s') : Mirrors s' (st.put url (some ⟨v.toInt, text⟩)) where
  received := by
    rw [hw, Store.receiveAll?_append, hm.received, Option.bind_some, Store.receiveAll?_singleton,
      hr]
  settled other hcl := by
    rw [ht]
    by_cases ho : other = url
    · subst ho
      exact Documents.matches_insert v text
    · have hother := hm.settled other fun h => hcl ((hc.closing_iff other).mpr h)
      exact Documents.matches_of_ne hother ho (Documents.version?_insert_of_ne _ ho v) _
  taken other hcl := by
    have hother := (hc.closing_iff other).mp hcl
    have ho : other ≠ url := fun h => hn (h ▸ hother)
    rw [ht, Documents.version?_insert_of_ne _ ho, st.put_of_ne ho]
    exact hm.taken other hother
  alone hi hj := hm.alone ((hc _ _).mp hi) ((hc _ _).mp hj)

theorem take (hm : Mirrors s st) {i : Nat} {url : Url} {v : Int32} {call : Call}
    (hi : s.calls[i]? = some call) (hfrom : ∀ url, call ≠ .closing url)
    (hv : s.client.documents.version? url = some v) :
    Mirrors { s with
      client := { s.client with documents := s.client.documents.erase url }
      calls := s.calls.set i (.closing url) } st := by
  have hn : ¬ s.Closing url := by
    intro hcl
    cases hv.symm.trans (hm.taken url hcl).1
  have hset := closing_set hi (.closing url)
  refine ⟨hm.received, fun other hcl => ?_, fun other hcl => ?_, fun {j k other} hj hk => ?_⟩
  · have ho : other ≠ url := fun h => hcl ⟨i, (hset i other).mpr (Or.inl ⟨rfl, h ▸ rfl⟩)⟩
    rw [Documents.Matches, Documents.version?_erase_of_ne _ ho]
    refine hm.settled other ?_
    rintro ⟨j, hj⟩
    refine hcl ⟨j, (hset j other).mpr (Or.inr ⟨?_, hj⟩)⟩
    rintro rfl
    exact hfrom other (Option.some.inj (hi.symm.trans hj))
  · by_cases ho : other = url
    · subst ho
      exact ⟨Documents.version?_erase_self .., (hm.settled other hn).isSome_iff.mpr (by simp [hv])⟩
    · obtain ⟨j, hj⟩ := hcl
      rw [Documents.version?_erase_of_ne _ ho]
      rcases (hset j other).mp hj with ⟨-, hu⟩ | ⟨-, hj⟩
      · exact absurd (Call.closing.inj hu).symm ho
      · exact hm.taken other ⟨j, hj⟩
  · rcases (hset j other).mp hj with ⟨hij, hu⟩ | ⟨-, hj⟩ <;>
      rcases (hset k other).mp hk with ⟨hik, hu'⟩ | ⟨-, hk⟩
    · exact hij.symm.trans hik
    · exact absurd ⟨k, Call.closing.inj hu ▸ hk⟩ hn
    · exact absurd ⟨j, Call.closing.inj hu' ▸ hj⟩ hn
    · exact hm.alone hj hk

theorem close (hm : Mirrors s st) {i : Nat} {url : Url} {r : Except ClientError Bool}
    (hi : s.calls[i]? = some (.closing url)) :
    Mirrors { s with
      client := s.client.tell [.didClose url]
      calls := s.calls.set i (.returned r) } (st.put url none) := by
  obtain ⟨hv, hst⟩ := hm.taken url ⟨i, hi⟩
  have hset := closing_set hi (.returned r)
  have hleft : ∀ {j : Nat} {other : Url}, (s.calls.set i (.returned r))[j]? =
      some (.closing other) → other ≠ url ∧ s.calls[j]? = some (.closing other) := by
    intro j other hj
    rcases (hset j other).mp hj with ⟨-, hu⟩ | ⟨hij, hj⟩
    · cases hu
    · refine ⟨?_, hj⟩
      rintro rfl
      exact hij (hm.alone hi hj)
  refine ⟨?_, fun other hcl => ?_, fun other hcl => ?_, fun hj hk => ?_⟩
  · rw [Client.tell, Store.receiveAll?_append, hm.received, Option.bind_some,
      Store.receiveAll?_singleton, Store.receive?_didClose hst]
  · by_cases ho : other = url
    · subst ho
      simp [Documents.Matches, Store.version?, hv, Client.tell]
    · refine Documents.matches_of_ne (hm.settled other ?_) ho rfl none
      rintro ⟨j, hj⟩
      refine hcl ⟨j, (hset j other).mpr (Or.inr ⟨?_, hj⟩)⟩
      rintro rfl
      exact ho (Call.closing.inj (Option.some.inj (hj.symm.trans hi)))
  · obtain ⟨j, hj⟩ := hcl
    obtain ⟨ho, hj⟩ := hleft hj
    rw [st.put_of_ne ho]
    exact hm.taken other ⟨j, hj⟩
  · exact hm.alone (hleft hj).2 (hleft hk).2

theorem change (hm : Mirrors s st) {α : Type} {value : α} {t : FileTree} {i : Nat} {a : Ask}
    {url : Url} {v : Int32} {text : String} {r : Except ClientError Bool}
    (hi : s.calls[i]? = some (.ready a)) (ha : a.textUrl? = some url)
    (hv : s.client.documents.version? url = some v) (hno : ¬ Mishap s (.goOn t i)) :
    ∃ st', Mirrors { s with
      client := (s.client.applyOutcome
        (s.client.documents.sendChange s.client.isConnected url v text value)).1
      calls := s.calls.set i (.returned r) } st' := by
  have hc : s.client.isConnected = true := by
    by_contra hc
    exact hno (.textLost hi ha hv (by simpa using hc))
  have hne : v ≠ Int32.maxValue := by
    rintro rfl
    exact hno (.overrun hi ha hv hc)
  have hn : ¬ s.Closing url := by
    intro hcl
    cases hv.symm.trans (hm.taken url hcl).1
  have hst := (hm.settled url hn).eq_some hv
  refine ⟨_, hm.write ?_ (Store.receive?_next hst hne text) ?_ hn
    (sameClosing_set hi (by simp) (by simp) rfl)⟩
  · simp [Client.applyOutcome, Documents.sendChange, Documents.hand, hc]
  · simp [Client.applyOutcome, Documents.sendChange, Documents.hand, hc]

theorem step (hm : Mirrors s st) {h : Happening} (e : Effect s h ms s') (hno : ¬ Mishap s h) :
    ∃ st', Mirrors s' st' := by
  have hw := e.wire_eq
  cases e with
  | nothing => exact ⟨st, hm⟩
  | called _ hr call hc =>
    exact ⟨st, hm.keep hw (List.forall_mem_nil _) rfl (sameClosing_concat hc rfl)⟩
  | moved _ hr hi hfrom hto hready =>
    exact ⟨st, hm.keep hw (List.forall_mem_nil _) rfl (sameClosing_set hi hfrom hto rfl)⟩
  | @opened t i url language text o hi ho =>
    subst ho
    cases hv : s.client.documents.version? url with
    | some v =>
      rw [Documents.openText_of_open hv]
      exact hm.change hi rfl hv hno
    | none =>
      cases hc : s.client.isConnected with
      | true =>
        have hn : ¬ s.Closing url := fun hcl => hno (.overtaken hi hv hc hcl)
        have hst := (hm.settled url hn).eq_none hv
        rw [Documents.openText_of_closed hv]
        exact ⟨_, hm.write rfl (Store.receive?_didOpen hst language 1 text) rfl hn
          (sameClosing_set hi (by simp) (by simp) rfl)⟩
      | false =>
        rw [hc, Documents.openText_of_closed_lost hv] at hw
        rw [Documents.openText_of_closed_lost hv]
        exact ⟨st, hm.keep hw (by simp [Documents.hand]) rfl
          (sameClosing_set hi (by simp) (by simp) rfl)⟩
  | @changed t i url text o hi ho =>
    subst ho
    cases hv : s.client.documents.version? url with
    | some v =>
      rw [Documents.changeText_of_open hv]
      exact hm.change hi rfl hv hno
    | none =>
      rw [Documents.changeText_of_closed hv] at hw ⊢
      exact ⟨st, hm.keep hw (List.forall_mem_nil _) rfl
        (sameClosing_set hi (by simp) (by simp) rfl)⟩
  | taken t hi hv => exact ⟨st, hm.take hi (by simp) hv⟩
  | @closed t i url o hi ho =>
    subst ho
    have hc : s.client.isConnected = true := by
      by_contra hc
      exact hno (.closeLost hi (by simpa using hc))
    rw [Documents.sendClose, Documents.hand, if_pos hc]
    exact ⟨_, hm.close hi⟩
  | requested t hi hs hc =>
    exact ⟨st, hm.keep hw (by simp [Outgoing.document?]) rfl
      (sameClosing_set hi (by simp) (by simp) rfl)⟩
  | greeted => exact ⟨st, hm.keep hw (by simp [Outgoing.document?]) rfl (sameClosing_of_eq rfl)⟩
  | announced => exact ⟨st, hm.keep hw (by simp [Outgoing.document?]) rfl (sameClosing_of_eq rfl)⟩
  | sent => exact ⟨st, hm.keep hw (by simp [Outgoing.document?]) rfl (sameClosing_of_eq rfl)⟩
  | noticed =>
    refine ⟨st, hm.keep hw (List.forall_mem_nil _) ?_ (sameClosing_of_eq rfl)⟩
    simp only [setClient, Client.markFailed, apply_ite Client.documents, ite_self]
  | stoppedRunning =>
    exact ⟨st, hm.keep hw (by simp [Outgoing.document?]) rfl (sameClosing_of_eq rfl)⟩
  | exited => exact ⟨st, hm.keep hw (by simp [Outgoing.document?]) rfl (sameClosing_of_eq rfl)⟩
  | waitedFor wait hst hc =>
    obtain ⟨f, hf, -⟩ := Client.advanceStop_of_unsent hc wait
    exact ⟨st, hm.keep hw (List.forall_mem_nil _) (by rw [hf]; rfl) (sameClosing_of_eq rfl)⟩
  | _ => exact ⟨st, hm.keep hw (List.forall_mem_nil _) rfl (sameClosing_of_eq rfl)⟩

end Mirrors

theorem step_text {t : FileTree} {i : Nat} {a : Ask} {url : Url} {v : Int32}
    (hi : s.calls[i]? = some (.ready a)) (ha : a.textUrl? = some url)
    (hv : s.client.documents.version? url = some v) :
    ∃ text r, s.step (.goOn t i) =
      { s with
        client := { s.client with
          documents := s.client.documents.insert url (v + 1)
          wire := s.client.wire ++
            if s.client.isConnected then [.didChange url (v + 1) text] else [] }
        calls := s.calls.set i (.returned r) } := by
  cases a with
  | openText u language text =>
    obtain rfl := Option.some.inj ha
    refine ⟨text, (s.client.openText u language text).2, ?_⟩
    rw [step, goOn, hi]
    cases hc : s.client.isConnected <;>
      simp [Client.advance, Client.act, Client.openText, Client.applyOutcome,
        Documents.openText_of_open hv, Documents.sendChange, Documents.hand, hc]
  | changeText u text =>
    obtain rfl := Option.some.inj ha
    refine ⟨text, (s.client.changeText u text).2.map fun _ => true, ?_⟩
    rw [step, goOn, hi]
    cases hc : s.client.isConnected <;>
      simp [Client.advance, Client.act, Client.changeText, Client.applyOutcome,
        Documents.changeText_of_open hv, Documents.sendChange, Documents.hand, hc]
  | close u => cases ha
  | request method params => cases ha

/-- A mishap makes the server's documents others than those of the table, at once. -/
theorem Mishap.not_mirrored {h : Happening} (hmis : Mishap s h) (hm : Mirrors s st) :
    ¬ Mirrored (s.step h) := by
  rintro ⟨st', hst', hsettled⟩
  cases hmis with
  | @overtaken t i url language text hi hv hc hcl =>
    have hw : (s.step (.goOn t i)).client.wire =
        s.client.wire ++ [.didOpen url language 1 text] := by
      simp [step, goOn, hi, Client.advance, Client.act, Client.openText, hc,
        Documents.openText_of_closed hv, Client.applyOutcome]
    rw [hw, Store.receiveAll?_append, hm.received, Option.bind_some, Store.receiveAll?_singleton,
      Store.receive?_didOpen_again (hm.taken url hcl).2] at hst'
    cases hst'
  | @textLost t i a url v hi ha hv hc =>
    obtain ⟨text, r, hstep⟩ := step_text (t := t) hi ha hv
    have hn : ¬ s.Closing url := by
      intro hcl
      cases hv.symm.trans (hm.taken url hcl).1
    simp only [hstep, hc, Bool.false_eq_true, if_false, List.append_nil] at hst' hsettled
    obtain rfl := Option.some.inj (hm.received.symm.trans hst')
    refine Documents.not_matches_insert ((hm.settled url hn).eq_some hv) (hsettled url ?_)
    have hsame : SameClosing s { s with calls := s.calls.set i (.returned r) } :=
      sameClosing_set hi (by simp) (by simp) rfl
    exact fun hcl => hn ((hsame.closing_iff url).mp hcl)
  | @overrun t i a url hi ha hv hc =>
    obtain ⟨text, r, hstep⟩ := step_text (t := t) hi ha hv
    have hn : ¬ s.Closing url := by
      intro hcl
      cases hv.symm.trans (hm.taken url hcl).1
    have hst := (hm.settled url hn).eq_some hv
    simp only [hstep, hc, if_true] at hst'
    rw [Store.receiveAll?_append, hm.received, Option.bind_some, Store.receiveAll?_singleton,
      Store.receive?_overrun hst] at hst'
    cases hst'
  | @closeLost t i url hi hc =>
    obtain ⟨hv, hst⟩ := hm.taken url ⟨i, hi⟩
    simp only [step, goOn, hi, Client.advance, Client.sendClose, Documents.sendClose,
      Documents.hand, hc, Client.applyOutcome, Bool.false_eq_true, if_false, Prod.map,
      List.append_nil, id_eq] at hst' hsettled
    obtain rfl := Option.some.inj (hm.received.symm.trans hst')
    have hmatch := hsettled url ?_
    · rw [hmatch.isSome_iff, hv] at hst
      cases hst
    · rintro ⟨j, hj⟩
      rcases (closing_set hi _ j url).mp hj with ⟨-, hu⟩ | ⟨hij, hj⟩
      · cases hu
      · exact hij (hm.alone hi hj)

end

theorem mirrors_ofSettings (settings : ClientSettings) :
    Mirrors (ofSettings settings) .empty where
  received := rfl
  settled _ _ := rfl
  taken url hcl := by
    obtain ⟨i, hi⟩ := hcl
    cases hi
  alone hi := by cases hi

/-- As long as no mishap happens, the server's documents stay those of the table. -/
theorem mirrors_run (settings : ClientSettings) (hs : List Happening)
    (hno : ∀ before h, before ++ [h] <+: hs → ¬ Mishap ((ofSettings settings).run before) h) :
    ∃ st, Mirrors ((ofSettings settings).run hs) st := by
  induction hs using List.reverseRecOn with
  | nil => exact ⟨_, mirrors_ofSettings settings⟩
  | append_singleton hs h ih =>
    obtain ⟨st, hm⟩ := ih fun before h' hb => hno before h' (hb.trans ⟨[h], rfl⟩)
    obtain ⟨ms, e⟩ := effect_step ((ofSettings settings).run hs) h
    rw [run_concat]
    exact hm.step e (hno hs h List.prefix_rfl)

/-- The server has open what the table says, apart from closes that are under way, throughout a run
exactly if no mishap happens in it. -/
theorem mirrored_iff (settings : ClientSettings) (hs : List Happening) :
    (∀ before, before <+: hs → Mirrored ((ofSettings settings).run before)) ↔
      ∀ before h, before ++ [h] <+: hs → ¬ Mishap ((ofSettings settings).run before) h := by
  constructor
  · intro hall
    -- the first mishap of a run finds the documents still in step
    induction hs using List.reverseRecOn with
    | nil => exact fun before h hb => by simp at hb
    | append_singleton hs h ih =>
      have hno := ih fun before hb => hall before (hb.trans ⟨[h], rfl⟩)
      intro before h' hb
      rcases List.prefix_concat_iff.mp hb with heq | hb
      · obtain ⟨rfl, hh⟩ := List.append_inj' heq rfl
        obtain rfl := List.singleton_inj.mp hh
        obtain ⟨st, hm⟩ := mirrors_run settings before hno
        intro hmis
        refine hmis.not_mirrored hm ?_
        rw [← run_concat]
        exact hall _ List.prefix_rfl
      · exact hno before h' hb
  · intro hno before hb
    obtain ⟨st, hm⟩ := mirrors_run settings before fun b h hb' => hno b h (hb'.trans hb)
    exact hm.mirrored

/-- A document is opened again while a close of it has not reached the server yet. -/
theorem not_mirrored_overtaken :
    let settings : ClientSettings :=
      { id := "a", name := "a", server := .same { command := "a" },
        options := { selector := { filters := [{}] } } }
    let tree : FileTree := { entries := [], current := [] }
    let url : Url := { scheme := "file", authority := none, path := "/a" }
    let s := (ofSettings settings).run
      [.startOver tree (Path.ofString "/"), .greet .null,
        .answer (.ok (.obj [("capabilities", .obj [])])), .record, .promote,
        .ask (.openText url "a" "one"), .goOn tree 0, .goOn tree 0,
        .ask (.close url), .goOn tree 1, .goOn tree 1,
        .ask (.openText url "a" "two"), .goOn tree 2, .goOn tree 2, .goOn tree 1]
    s.client.life = .running ∧ s.calls.all Call.isOver ∧
      (Store.empty.receiveAll? s.client.wire).isNone := by
  decide +kernel

end Course
end LspHost
