import LspHost.Proofs.Course.Life
import LspHost.Proofs.Course.Refused
import LspHost.Proofs.Documents.Opening
import LspHost.Proofs.Launch.Activation

/-!
# Files that are opened one after another

A host that opens one file after another asks for the next one when no call is left, drops none and
reads every file from one tree. Everything else goes on as it likes, the first exchange included, so
that the first call may have to wait. As long as the client has not failed and the connection
stands, the server has been told of every file asked for but the last, and that one is under way or
has been told as well.
-/

namespace LspHost

namespace Happening

def file? : Happening → Option Path
  | .askFile path => some path
  | _ => none

theorem file?_of_not_isCall {h : Happening} (hq : h.isCall = false) : h.file? = none := by
  cases h <;> first | rfl | cases hq

end Happening

/-- A call that is about to open a file, with what it has found so far. -/
inductive Call.IsOpening (t : FileTree) (p : Path) : Call → Prop
  | seeking : IsOpening t p (.seeking p)
  | reading {url : Url} (hu : Document.urlOfPath t p = .ok url) : IsOpening t p (.reading url p)
  | asked {url : Url} {language text : String}
      (hd : Client.readDocument t p = .ok (url, language, text)) :
      IsOpening t p (.asked (.openText url language text))
  | ready {o : Opening} (ho : Document.opening? t p = some o) :
      IsOpening t p (.ready (.openText o.url "margarine" o.text))

namespace Call

theorem IsOpening.not_isOver {t : FileTree} {p : Path} {call : Call} (h : call.IsOpening t p) :
    call.isOver = false := by
  cases h <;> rfl

def OnlyLeft (calls : List Call) (i : Nat) : Prop :=
  ∀ j other, calls[j]? = some other → j ≠ i → other.isOver

variable {calls : List Call} {i : Nat}

theorem onlyLeft_concat (h : calls.all isOver) (call : Call) :
    OnlyLeft (calls ++ [call]) calls.length := by
  intro j other hj hne
  have hlt : j < calls.length := by
    have hle := (List.getElem?_eq_some_iff.mp hj).1
    rw [List.length_append, List.length_singleton] at hle
    omega
  rw [List.getElem?_append_left hlt] at hj
  exact List.all_eq_true.mp h other (List.mem_of_getElem? hj)

theorem OnlyLeft.set (h : OnlyLeft calls i) (call : Call) : OnlyLeft (calls.set i call) i := by
  intro j other hj hne
  rw [List.getElem?_set_ne hne.symm] at hj
  exact h j other hj hne

theorem OnlyLeft.over {call : Call} (h : OnlyLeft calls i) (hi : calls[i]? = some call)
    (hover : call.isOver) : calls.all isOver := by
  refine List.all_eq_true.mpr fun other hother => ?_
  obtain ⟨j, hj⟩ := List.mem_iff_getElem?.mp hother
  by_cases hji : j = i
  · subst hji
    exact Option.some.inj (hi.symm.trans hj) ▸ hover
  · exact h j other hj hji

end Call

namespace Client

/-- The client may still come to serve its host, or does so already. -/
structure Alive (c : Client) : Prop where
  active : c.life.isActive
  connected : c.isConnected

/-- The client has been started, with the selector that a configuration has on its own. -/
structure Launched (c : Client) : Prop where
  session : c.session.isSome
  selector : c.IsDefault

variable {t : FileTree} {p : Path} {c : Client} {call : Call} {os : List Opening}

theorem Alive.starting_or_running (h : c.Alive) : c.life = .starting ∨ c.life = .running := by
  have hactive := h.active
  cases hl : c.life <;> simp [hl, Lifecycle.isActive] at hactive ⊢

/-- A call that opens a file comes closer to that, or it returns and the file has been told of
exactly if it opens a document. -/
theorem Tells.advance (h : Tells t os c) (ha : c.Alive) (hd : c.IsDefault)
    (hc : call.IsOpening t p) :
    (c.advance t call).1 = c ∧ (c.advance t call).2.IsOpening t p ∨
      (c.advance t call).2.isOver ∧
        Tells t (os ++ (Document.opening? t p).toList) (c.advance t call).1 := by
  cases hc with
  | seeking =>
    simp only [Client.advance]
    cases hu : Document.urlOfPath t p with
    | ok url => exact Or.inl ⟨rfl, .reading hu⟩
    | error e =>
      have hunread : readDocument t p = .error e := by rw [readDocument, hu]; rfl
      exact Or.inr ⟨rfl, h.pass (Document.opening?_of_unread hunread)⟩
  | reading hu =>
    simp only [Client.advance]
    cases htext : Document.readText t p with
    | ok text =>
      exact Or.inl ⟨rfl, .asked (Document.readDocument_eq_ok_iff.mpr ⟨hu, htext, rfl⟩)⟩
    | error e =>
      have hunread : readDocument t p = .error e := by rw [readDocument, hu, htext]; rfl
      exact Or.inr ⟨rfl, h.pass (Document.opening?_of_unread hunread)⟩
  | @asked url language text hread =>
    have hselects := hd.selects_read_iff hread
    simp only [Client.advance]
    rcases Document.readDocument_cases hread with ⟨hmar, hnone⟩ | ⟨rfl, file, hsome⟩
    · rw [if_neg fun hsel => hmar (hselects.mp hsel)]
      exact Or.inr ⟨rfl, h.pass hnone⟩
    · rw [if_pos (hselects.mpr rfl)]
      refine Or.inl ⟨rfl, ?_⟩
      rcases ha.starting_or_running with hl | hl
      · simp only [enter, readiness, hl]
        exact .asked hread
      · simp only [enter, readiness, hl]
        exact .ready hsome
  | ready ho =>
    have hopened := h.openText (Document.opening?_eq_some_iff.mp ho) ha.connected
    refine Or.inr ⟨rfl, ?_⟩
    rw [ho]
    exact hopened

theorem Tells.congr {c' : Client} {ms : List Outgoing} (h : Tells t os c)
    (hw : c'.wire = c.wire ++ ms) (hms : ∀ m ∈ ms, m.document? = none)
    (hd : c'.documents = c.documents) : Tells t os c' where
  opened := h.opened
  told := by
    have hsilent : ms.filter (·.document?.isSome) = [] :=
      List.filter_eq_nil_iff.mpr fun m hm => by simp [hms m hm]
    rw [hw, List.filter_append, hsilent, List.append_nil, h.told]
  unknown url hurl := hd ▸ h.unknown url hurl
  known url n hurl := hd ▸ h.known url n hurl

end Client

namespace Course

/-- Whether a happening may come next while the host opens one file after another. -/
def Awaits (t : FileTree) (s : Course) : Happening → Prop
  | .askFile _ => s.calls.all Call.isOver
  | .goOn t' _ => t' = t
  | .ask _ => False
  | .giveUp _ => False
  | _ => True

/-- A run in which the host opens one file after another. -/
def InTurn (t : FileTree) : Course → List Happening → Prop
  | _, [] => True
  | s, h :: hs => s.Awaits t h ∧ InTurn t (s.step h) hs

section Steps

variable {s s' : Course} {h : Happening} {ms : List Outgoing}

theorem Effect.launched (e : Effect s h ms s') (hl : s.client.Launched) : s'.client.Launched :=
  ⟨e.session_isSome hl.session, by rw [Client.IsDefault, e.settings_eq]; exact hl.selector⟩

theorem Effect.alive (e : Effect s h ms s') (hs : s.client.session.isSome)
    (ha : s'.client.Alive) : s.client.Alive :=
  ⟨e.progress.isActive hs ha.active, e.isConnected hs ha.connected⟩

theorem alive_of_run {hs : List Happening} (hl : s.client.session.isSome)
    (ha : (s.run hs).client.Alive) : s.client.Alive := by
  induction hs generalizing s with
  | nil => exact ha
  | cons h hs ih =>
    obtain ⟨ms, e⟩ := effect_step s h
    exact e.alive hl (ih (e.session_isSome hl) ha)

theorem goOn_of_over {t : FileTree} {i : Nat} (hi : ∀ call, s.calls[i]? = some call → call.isOver) :
    s.goOn t i = s := by
  unfold goOn
  cases hcall : s.calls[i]? with
  | none => rfl
  | some call =>
    have hover := hi call hcall
    have hset : s.calls.set i call = s.calls := by
      obtain ⟨hlt, rfl⟩ := List.getElem?_eq_some_iff.mp hcall
      exact List.set_getElem_self hlt
    cases call <;> simp [Call.isOver] at hover <;> simp [Client.advance, hset]

theorem tells_step_of_not_isCall {t : FileTree} {os : List Opening} (hq : h.isCall = false)
    (ht : s.client.Tells t os) : (s.step h).client.Tells t os := by
  obtain ⟨ms, e⟩ := effect_step s h
  apply ht.congr e.wire_eq (e.document?_eq_none hq)
  apply e.documents_eq
  rintro t' i rfl
  cases hq

theorem tells_run_of_not_isCall {t : FileTree} {os : List Opening} {hs : List Happening}
    (hq : ∀ h ∈ hs, h.isCall = false) (ht : s.client.Tells t os) :
    (s.run hs).client.Tells t os := by
  induction hs generalizing s with
  | nil => exact ht
  | cons h hs ih =>
    have hnow := tells_step_of_not_isCall (hq h List.mem_cons_self) ht
    exact ih (fun h' hh' => hq h' (List.mem_cons_of_mem h hh')) hnow

end Steps

/-- The server has been told of the files that the host has asked for, apart from the last one if a
call for that is still under way. -/
inductive Opened (t : FileTree) (s : Course) : List Path → Prop
  | settled {ps : List Path} (hover : s.calls.all Call.isOver)
      (h : s.client.Tells t (ps.filterMap (Document.opening? t))) : Opened t s ps
  | opening {ps : List Path} {p : Path} {i : Nat} {call : Call} (hi : s.calls[i]? = some call)
      (hc : call.IsOpening t p) (hleft : Call.OnlyLeft s.calls i)
      (h : s.client.Tells t (ps.filterMap (Document.opening? t))) : Opened t s (ps ++ [p])

namespace Opened

variable {t : FileTree} {s : Course} {ps : List Path} {h : Happening}

theorem tells (ho : Opened t s ps) (hover : s.calls.all Call.isOver) :
    s.client.Tells t (ps.filterMap (Document.opening? t)) := by
  cases ho with
  | settled _ htells => exact htells
  | opening hi hc =>
    have hlast := List.all_eq_true.mp hover _ (List.mem_of_getElem? hi)
    rw [hc.not_isOver] at hlast
    cases hlast

theorem step_askFile (ho : Opened t s ps) (hover : s.calls.all Call.isOver) (p : Path) :
    Opened t (s.step (.askFile p)) (ps ++ [p]) := by
  have hlast : (s.step (.askFile p)).calls[s.calls.length]? = some (.seeking p) :=
    List.getElem?_concat_length
  exact .opening hlast .seeking (Call.onlyLeft_concat hover _) (ho.tells hover)

theorem step_goOn (ho : Opened t s ps) (ha : s.client.Alive) (hd : s.client.IsDefault) (i : Nat) :
    Opened t (s.step (.goOn t i)) ps := by
  cases ho with
  | settled hover htells =>
    have hidle : s.step (.goOn t i) = s :=
      goOn_of_over fun call hi => List.all_eq_true.mp hover call (List.mem_of_getElem? hi)
    rw [hidle]
    exact .settled hover htells
  | @opening before p j call hj hc hleft htells =>
    by_cases hij : i = j
    · subst hij
      rw [calls_step_of_goOn hj]
      have hset : ∀ call', (s.calls.set i call')[i]? = some call' := fun _ =>
        List.getElem?_set_self (List.getElem?_eq_some_iff.mp hj).1
      rcases htells.advance ha hd hc with ⟨hsame, hopening⟩ | ⟨hover, htold⟩
      · refine .opening (hset _) hopening (hleft.set _) ?_
        rw [hsame]
        exact htells
      · refine .settled ((hleft.set _).over (hset _) hover) ?_
        rw [List.filterMap_append]
        cases hp : Document.opening? t p <;> simpa [hp] using htold
    · have hidle : s.step (.goOn t i) = s := goOn_of_over fun other hi => hleft i other hi hij
      rw [hidle]
      exact .opening hj hc hleft htells

theorem step_of_not_isCall (ho : Opened t s ps) (hq : h.isCall = false) :
    Opened t (s.step h) ps := by
  have hcalls := s.calls_step_of_not_isCall hq
  cases ho with
  | settled hover htells => exact .settled (hcalls ▸ hover) (tells_step_of_not_isCall hq htells)
  | opening hi hc hleft htells =>
    exact .opening (hcalls ▸ hi) hc (hcalls ▸ hleft) (tells_step_of_not_isCall hq htells)

theorem step (ho : Opened t s ps) (ha : s.client.Alive) (hd : s.client.IsDefault)
    (haw : s.Awaits t h) : Opened t (s.step h) (ps ++ h.file?.toList) := by
  by_cases hq : h.isCall = false
  · rw [Happening.file?_of_not_isCall hq, Option.toList_none, List.append_nil]
    exact ho.step_of_not_isCall hq
  · cases h with
    | ask a => exact haw.elim
    | askFile p => exact ho.step_askFile haw p
    | goOn t' i =>
      obtain rfl : t' = t := haw
      have hsame : ps ++ (Happening.goOn t' i).file?.toList = ps := List.append_nil ps
      rw [hsame]
      exact ho.step_goOn ha hd i
    | giveUp i => exact haw.elim
    | _ => exact absurd rfl hq

theorem run {hs : List Happening} (ho : Opened t s ps) (hl : s.client.Launched)
    (hturn : InTurn t s hs) (ha : (s.run hs).client.Alive) :
    Opened t (s.run hs) (ps ++ hs.filterMap Happening.file?) := by
  induction hs generalizing s ps with
  | nil => simpa using ho
  | cons h hs ih =>
    obtain ⟨haw, hrest⟩ := hturn
    obtain ⟨ms, e⟩ := effect_step s h
    -- what is alive at the end has been alive all along
    have hnow : s.client.Alive := alive_of_run hl.session ha
    have hafter := ih (ho.step hnow hl.selector haw) (e.launched hl) hrest ha
    rw [List.append_assoc] at hafter
    have hfiles : (h :: hs).filterMap Happening.file? =
        h.file?.toList ++ hs.filterMap Happening.file? := by
      cases hfile : h.file? <;> simp [hfile]
    rw [hfiles]
    exact hafter

end Opened

/-- A client that has just been activated has told of no file. -/
theorem opened_of_activated {a : Activation} {host : Environment} {t₀ : FileTree}
    {spawn : Invocation → Except SystemError Unit} {c : Client}
    (h : a.start {} host t₀ spawn = .ok c) (t : FileTree) :
    c.Launched ∧ Opened t { client := c } [] := by
  obtain ⟨command, root, url, child, watcher, rfl⟩ := a.exists_connect {} host t₀ spawn h
  exact ⟨⟨rfl, rfl⟩, .settled rfl (Client.tells_nil t rfl rfl)⟩

/-- Files that the host has opened one after another by the time that the client runs, and more that
it opens then, are told to the server in their order: those that have a canonical form, hold text
and are asked for by a name that ends in `.mar` after something else, each with its text, as a new
document when its file is asked for the first time and as version `k` when it is the `k`-th time. No
other file is told of or counted, and nothing more is said of documents when the client is stopped
or loses its connection afterwards. -/
theorem files_told_in_turn {a : Activation} {host : Environment} {t₀ t : FileTree}
    {spawn : Invocation → Except SystemError Unit} {c : Client}
    (hstart : a.start {} host t₀ spawn = .ok c) {hs : List Happening}
    (hturn : InTurn t { client := c } hs)
    (hover : (run { client := c } hs).calls.all Call.isOver)
    (hrunning : (run { client := c } hs).client.life = .running)
    (hconnected : (run { client := c } hs).client.isConnected) (files : List Path) :
    let s := run { client := c } hs
    let opened := s.setClient (s.client.openFiles t files).1
    let told := (hs.filterMap Happening.file? ++ files).filterMap (Document.opening? t)
    (∀ more, (∀ h ∈ more, h.isCall = false) →
      (opened.run more).client.wire.filter (·.document?.isSome) = Opening.messages told) ∧
    (∀ p, ((Document.opening? t p).isSome ↔
        (∃ file, Document.canonicalPath t p = .ok file) ∧
        (∃ text, t.readFile p = .ok (Utf8.encode text)) ∧
        ∃ stem, stem ≠ [] ∧ p.fileName? = some (stem ++ Utf8.encode ".mar")) ∧
      ∀ o, Document.opening? t p = some o → Document.canonicalPath t p = .ok o.file ∧
        Url.ofFilePath? o.file = some o.url ∧ t.readFile p = .ok (Utf8.encode o.text)) ∧
    ∀ k ≤ 2147483647, (Int32.ofNat k).toInt = k := by
  intro s opened told
  obtain ⟨hlaunched, hnone⟩ := opened_of_activated hstart t
  have halive : s.client.Alive := ⟨by rw [hrunning]; rfl, hconnected⟩
  have htells := (hnone.run hlaunched hturn halive).tells hover
  have hselector : s.client.IsDefault :=
    (run_induction (P := fun s => s.client.Launched) (fun e => e.launched) hlaunched hs).selector
  refine ⟨fun more hmore => ?_, fun p => ⟨Document.opening?_isSome_iff, fun o ho => ?_⟩,
    fun k hk => Int32.toInt_ofNat_of_lt (Nat.lt_succ_of_le hk)⟩
  · have hall := htells.openFiles ⟨hrunning, hconnected, hselector⟩ files
    rw [← List.filterMap_append] at hall
    exact (tells_run_of_not_isCall (s := opened) hmore hall).told
  · have hopens := Document.opening?_eq_some_iff.mp ho
    exact ⟨hopens.file, hopens.url, hopens.text⟩

/-- A file that is asked for while the client is starting, then twice more and once by a link, among
files that are missing, hold no text, have another ending or nothing before it. -/
theorem files_told_in_turn_repeated :
    let file (name : String) (contents : Bytes) : Place × Entry :=
      ([Utf8.encode name], .file contents false)
    let t : FileTree :=
      { entries := [file "a.mar" (Utf8.encode "x"), file "b.mar" [0xFF], file ".mar" [],
          file "n.txt" [], file "c.mar" [], ([Utf8.encode "l.mar"], .link (Path.ofString "a.mar"))]
        current := [] }
    let a : Activation := { extension := Path.ofString "/e", workspace := Path.ofString "/" }
    let hs : List Happening :=
      [.askFile (Path.ofString "/a.mar"), .greet .null, .goOn t 0, .goOn t 0, .goOn t 0,
        .answer (.ok (.obj [("capabilities", .obj [])])), .record, .promote, .goOn t 0, .goOn t 0]
    let files := ["b.mar", "a.mar", "n.txt", "missing.mar", "c.mar", ".mar", "l.mar", "./a.mar"].map
      Path.ofString
    let url (name : String) : Url :=
      { scheme := "file", authority := some {}, path := "/" ++ name }
    ∃ c, a.start {} .empty t (fun _ => .ok ()) = .ok c ∧ InTurn t { client := c } hs ∧
      (run { client := c } hs).calls.all Call.isOver ∧
      (run { client := c } hs).client.life = .running ∧
      (run { client := c } hs).client.isConnected ∧
      ((run { client := c } hs).client.openFiles t files).1.wire.filter (·.document?.isSome) =
        [.didOpen (url "a.mar") "margarine" 1 "x", .didChange (url "a.mar") 2 "x",
          .didOpen (url "c.mar") "margarine" 1 "", .didChange (url "a.mar") 3 "x",
          .didChange (url "a.mar") 4 "x"] := by
  intro file t a hs files url
  have hreaches : (match a.start {} .empty t (fun _ => .ok ()) with
      | .ok c => (run { client := c } hs).calls.all Call.isOver &&
          decide ((run { client := c } hs).client.life = .running) &&
          (run { client := c } hs).client.isConnected
      | .error _ => false) = true := by decide +kernel
  let told : List Opening :=
    [⟨Path.ofString "/a.mar", url "a.mar", "x"⟩, ⟨Path.ofString "/a.mar", url "a.mar", "x"⟩,
      ⟨Path.ofString "/c.mar", url "c.mar", ""⟩, ⟨Path.ofString "/a.mar", url "a.mar", "x"⟩,
      ⟨Path.ofString "/a.mar", url "a.mar", "x"⟩]
  have htold : (hs.filterMap Happening.file? ++ files).filterMap (Document.opening? t) = told := by
    decide +kernel
  have hmessages : Opening.messages told =
      [.didOpen (url "a.mar") "margarine" 1 "x", .didChange (url "a.mar") 2 "x",
        .didOpen (url "c.mar") "margarine" 1 "", .didChange (url "a.mar") 3 "x",
        .didChange (url "a.mar") 4 "x"] := by
    rfl
  cases hstart : a.start {} .empty t (fun _ => .ok ()) with
  | error e =>
    rw [hstart] at hreaches
    cases hreaches
  | ok c =>
    simp only [hstart, Bool.and_eq_true, decide_eq_true_eq] at hreaches
    obtain ⟨⟨hover, hrunning⟩, hconnected⟩ := hreaches
    have hturn : InTurn t { client := c } hs := by simp [hs, InTurn, Awaits]
    obtain ⟨hall, -⟩ := files_told_in_turn hstart hturn hover hrunning hconnected files
    have hnow := hall [] (by simp)
    rw [htold, hmessages, run_nil] at hnow
    simp only [setClient] at hnow
    exact ⟨c, rfl, hturn, hover, hrunning, hconnected, hnow⟩

end Course
end LspHost
