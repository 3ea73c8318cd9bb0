import LspHost.CommandLine.Files
import LspHost.Proofs.Client.Basic
import LspHost.Proofs.Document.Identity

/-!
# The documents that files open

A file argument opens a document if it has a canonical form, holds text and has a name that ends in
`.mar` with something before that. The first argument for a file is told to the server as opening it
and every further one as a new version of the whole text, however the arguments name the file.
`Tells` says that this is what a client has told and what its table knows.
-/

namespace LspHost

structure Opening where
  file : Path
  url : Url
  text : String
deriving DecidableEq

namespace Opening

/-- What the server is told when a file is opened for the given time. -/
def message (o : Opening) (time : Nat) : Outgoing :=
  if time = 1 then .didOpen o.url "margarine" 1 o.text
  else .didChange o.url (Int32.ofNat time) o.text

/-- What the server is told of documents that are opened one after another. An argument is for a
file the time that it takes to count the arguments for that file up to it. -/
def messages (os : List Opening) : List Outgoing :=
  os.mapIdx fun i o => o.message ((os.take (i + 1)).countP (·.file = o.file))

theorem messages_concat (os : List Opening) (o : Opening) :
    messages (os ++ [o]) =
      messages os ++ [o.message (os.countP (·.file = o.file) + 1)] := by
  have hall : (os ++ [o]).take (os.length + 1) = os ++ [o] :=
    List.take_of_length_le (by simp)
  have hfront : messages os =
      os.mapIdx fun i o' => o'.message (((os ++ [o]).take (i + 1)).countP (·.file = o'.file)) := by
    refine List.mapIdx_eq_mapIdx_iff.mpr fun i hi => ?_
    rw [List.take_append_of_le_length hi]
  rw [messages, List.mapIdx_concat, hall, hfront, List.countP_append]
  simp

theorem message_one (o : Opening) : o.message 1 = .didOpen o.url "margarine" 1 o.text := rfl

theorem message_again (o : Opening) (time : Nat) :
    o.message (time + 2) = .didChange o.url (Int32.ofNat (time + 1) + 1) o.text := by
  have hnext : Int32.ofNat (time + 2) = Int32.ofNat (time + 1) + 1 := Int32.ofNat_add (time + 1) 1
  rw [message, if_neg (by omega), hnext]

end Opening

namespace Document

variable {t : FileTree} {p : Path}

theorem readText_eq_ok_iff {text : String} :
    readText t p = .ok text ↔ t.readFile p = .ok (Utf8.encode text) := by
  unfold readText
  cases t.readFile p with
  | error e => simp
  | ok bytes =>
    simp only [Except.ok.injEq, ← Utf8.decode?_eq_some_iff]
    cases Utf8.decode? bytes <;> simp

theorem languageOf_eq_iff : languageOf p = "margarine" ↔
    ∃ stem, stem ≠ [] ∧ p.fileName? = some (stem ++ Utf8.encode ".mar") := by
  have hdot : Path.dot ∉ Utf8.encode "mar" := by decide
  have hlanguage : languageOf p = "margarine" ↔ p.extension? = some (Utf8.encode "mar") := by
    unfold languageOf
    split <;> simp [*]
  rw [hlanguage, Path.extension?, Option.bind_eq_some_iff]
  constructor
  · rintro ⟨name, hname, hext⟩
    obtain ⟨stem, hstem, rfl⟩ := (Path.extensionOf?_eq_some_iff hdot).mp hext
    exact ⟨stem, hstem, hname⟩
  · rintro ⟨stem, hstem, hname⟩
    exact ⟨_, hname, (Path.extensionOf?_eq_some_iff hdot).mpr ⟨stem, hstem, rfl⟩⟩

/-- What an argument has to be to open a document. -/
structure Opens (t : FileTree) (p : Path) (o : Opening) : Prop where
  file : canonicalPath t p = .ok o.file
  url : Url.ofFilePath? o.file = some o.url
  text : t.readFile p = .ok (Utf8.encode o.text)
  name : ∃ stem, stem ≠ [] ∧ p.fileName? = some (stem ++ Utf8.encode ".mar")

/-- The document that an argument opens, if it opens one. -/
def opening? (t : FileTree) (p : Path) : Option Opening :=
  match canonicalPath t p, Client.readDocument t p with
  | .ok file, .ok (url, language, text) =>
    if language = "margarine" then some { file, url, text } else none
  | _, _ => none

theorem readDocument_eq_ok_iff {url : Url} {language text : String} :
    Client.readDocument t p = .ok (url, language, text) ↔
      urlOfPath t p = .ok url ∧ readText t p = .ok text ∧ languageOf p = language := by
  unfold Client.readDocument
  cases urlOfPath t p with
  | error e => simp [bind, Except.bind]
  | ok u =>
    cases readText t p with
    | error e => simp [bind, Except.bind]
    | ok s => simp [bind, Except.bind, and_comm]

theorem opening?_eq_some_iff {o : Opening} : opening? t p = some o ↔ Opens t p o := by
  unfold opening?
  constructor
  · intro h
    split at h
    · next file url language text hfile hread =>
      obtain ⟨hurl, htext, hlanguage⟩ := readDocument_eq_ok_iff.mp hread
      split at h
      · next hmar =>
        obtain rfl := Option.some.inj h
        obtain ⟨c, hc, hu⟩ := urlOfPath_eq_ok_iff.mp hurl
        obtain rfl := Except.ok.inj (hfile.symm.trans hc)
        exact ⟨hfile, hu, readText_eq_ok_iff.mp htext, languageOf_eq_iff.mp (hlanguage.trans hmar)⟩
      · cases h
    · cases h
  · intro h
    have hurl : urlOfPath t p = .ok o.url := urlOfPath_eq_ok_iff.mpr ⟨o.file, h.file, h.url⟩
    have hread : Client.readDocument t p = .ok (o.url, "margarine", o.text) :=
      readDocument_eq_ok_iff.mpr
        ⟨hurl, readText_eq_ok_iff.mpr h.text, languageOf_eq_iff.mpr h.name⟩
    rw [h.file, hread]
    exact if_pos rfl

theorem readDocument_cases {url : Url} {language text : String}
    (h : Client.readDocument t p = .ok (url, language, text)) :
    language ≠ "margarine" ∧ opening? t p = none ∨
      language = "margarine" ∧ ∃ file, opening? t p = some ⟨file, url, text⟩ := by
  obtain ⟨hurl, -, -⟩ := readDocument_eq_ok_iff.mp h
  obtain ⟨file, hfile, -⟩ := urlOfPath_eq_ok_iff.mp hurl
  unfold opening?
  rw [hfile, h]
  by_cases hmar : language = "margarine"
  · exact Or.inr ⟨hmar, file, if_pos hmar⟩
  · exact Or.inl ⟨hmar, if_neg hmar⟩

theorem opening?_of_unread {e : ClientError} (h : Client.readDocument t p = .error e) :
    opening? t p = none := by
  unfold opening?
  rw [h]
  cases canonicalPath t p <;> rfl

theorem Opens.url_eq_iff {q : Path} {o o' : Opening} (h : Opens t p o) (h' : Opens t q o') :
    o.url = o'.url ↔ o.file = o'.file := by
  rw [← ofFilePath?_eq_iff_of_canonicalPath h.file h'.file, h.url, h'.url, Option.some.injEq]

theorem scheme_of_urlOfPath {url : Url} (h : urlOfPath t p = .ok url) : url.scheme = "file" := by
  obtain ⟨file, hfile, hurl⟩ := urlOfPath_eq_ok_iff.mp h
  rw [Url.ofFilePath?, if_pos (isAbsolute_of_canonicalPath hfile)] at hurl
  exact Option.some.inj hurl ▸ rfl

/-- A file in canonical form has a URL, so that an argument opens a document if the file is there,
holds text and is asked for by a fitting name. -/
theorem opening?_isSome_iff : (opening? t p).isSome ↔
    (∃ file, canonicalPath t p = .ok file) ∧ (∃ text, t.readFile p = .ok (Utf8.encode text)) ∧
      ∃ stem, stem ≠ [] ∧ p.fileName? = some (stem ++ Utf8.encode ".mar") := by
  rw [Option.isSome_iff_exists]
  constructor
  · rintro ⟨o, ho⟩
    have h := opening?_eq_some_iff.mp ho
    exact ⟨⟨_, h.file⟩, ⟨_, h.text⟩, h.name⟩
  · rintro ⟨⟨file, hfile⟩, ⟨text, htext⟩, hname⟩
    have hurl : ∃ url, Url.ofFilePath? file = some url :=
      ⟨_, if_pos (isAbsolute_of_canonicalPath hfile)⟩
    obtain ⟨url, hurl⟩ := hurl
    exact ⟨⟨file, url, text⟩, opening?_eq_some_iff.mpr ⟨hfile, hurl, htext, hname⟩⟩

end Document

/-- The selector of a client is the one that a configuration has on its own. -/
def Client.IsDefault (c : Client) : Prop :=
  c.settings.options.selector = ({} : Config).clientOptions.selector

/-- A client has told its server of the documents in turn, each the time that it is opened for, and
knows the version it told last. -/
structure Client.Tells (t : FileTree) (os : List Opening) (c : Client) : Prop where
  opened : ∀ o ∈ os, ∃ p, Document.Opens t p o
  told : c.wire.filter (·.document?.isSome) = Opening.messages os
  unknown : ∀ url, os.countP (·.url = url) = 0 → c.documents.version? url = none
  known : ∀ url n, os.countP (·.url = url) = n + 1 →
    c.documents.version? url = some (Int32.ofNat (n + 1))

namespace Client

variable {t : FileTree} {os : List Opening} {c : Client} {p : Path} {o : Opening}

theorem IsDefault.selects_iff (hd : c.IsDefault) {url : Url} {language : String} :
    c.selects url language ↔ url.scheme = "file" ∧ language = "margarine" := by
  unfold selects
  rw [hd]
  simp only [Config.clientOptions, DocumentSelector.selects, DocumentFilter.isMatch, List.any_cons,
    List.any_nil, Option.all_some, Option.all_none, Bool.and_true, Bool.or_false, Bool.and_eq_true,
    decide_eq_true_eq]
  exact and_congr eq_comm eq_comm

theorem IsDefault.selects_read_iff (hd : c.IsDefault) {url : Url} {language text : String}
    (hread : readDocument t p = .ok (url, language, text)) :
    c.selects url language ↔ language = "margarine" := by
  have hurl := (Document.readDocument_eq_ok_iff.mp hread).1
  rw [hd.selects_iff]
  exact and_iff_right (Document.scheme_of_urlOfPath hurl)

theorem tells_nil (t : FileTree) (hw : c.wire = []) (hd : c.documents = {}) : Tells t [] c where
  opened := nofun
  told := by
    rw [hw]
    rfl
  unknown url _ := by
    rw [hd]
    rfl
  known url n hurl := by cases hurl

theorem Tells.countP_url (h : Tells t os c) (ho : Document.Opens t p o) :
    os.countP (·.url = o.url) = os.countP (·.file = o.file) := by
  refine List.countP_congr fun o' ho' => ?_
  obtain ⟨q, hq⟩ := h.opened o' ho'
  simpa using hq.url_eq_iff ho

theorem Tells.concat {c' : Client} (h : Tells t os c) (ho : Document.Opens t p o)
    (hw : c'.wire = c.wire ++ [o.message (os.countP (·.url = o.url) + 1)])
    (hd : c'.documents =
      c.documents.insert o.url (Int32.ofNat (os.countP (·.url = o.url) + 1))) :
    Tells t (os ++ [o]) c' := by
  have hcount : ∀ url, (os ++ [o]).countP (·.url = url) =
      os.countP (·.url = url) + if o.url = url then 1 else 0 := by
    intro url
    rw [List.countP_append, List.countP_singleton]
    simp
  have habout : ∀ time, (o.message time).document?.isSome := by
    intro time
    unfold Opening.message
    split <;> rfl
  refine ⟨fun o' ho' => ?_, ?_, fun url hurl => ?_, fun url n hurl => ?_⟩
  · rcases List.mem_append.mp ho' with hold | hnew
    · exact h.opened o' hold
    · exact List.mem_singleton.mp hnew ▸ ⟨p, ho⟩
  · rw [hw, List.filter_append, h.told, Opening.messages_concat, h.countP_url ho]
    simp [habout]
  · have hne : url ≠ o.url := by
      rintro rfl
      simp [hcount] at hurl
    rw [hcount, if_neg hne.symm] at hurl
    rw [hd, Documents.version?_insert_of_ne _ hne, h.unknown url hurl]
  · by_cases heq : url = o.url
    · subst heq
      rw [hcount, if_pos rfl] at hurl
      rw [hd, Documents.version?_insert_self, hurl]
    · rw [hcount, if_neg (Ne.symm heq)] at hurl
      rw [hd, Documents.version?_insert_of_ne _ heq, h.known url n hurl]

theorem Tells.openText (h : Tells t os c) (ho : Document.Opens t p o) (hc : c.isConnected) :
    Tells t (os ++ [o]) (c.openText o.url "margarine" o.text).1 := by
  unfold Client.openText
  rw [hc]
  cases hn : os.countP (·.url = o.url) with
  | zero =>
    have hv := h.unknown o.url hn
    rw [Documents.openText_of_closed hv]
    exact h.concat ho (by rw [hn, Opening.message_one]; rfl) (by rw [hn]; rfl)
  | succ n =>
    have hv := h.known o.url n hn
    have hversion : Int32.ofNat (n + 1 + 1) = Int32.ofNat (n + 1) + 1 := Int32.ofNat_add (n + 1) 1
    rw [Documents.openText_of_open hv, applyOutcome_sendChange]
    exact h.concat ho (by rw [hn, Opening.message_again]; rfl) (by rw [hn, hversion])

/-- A client that serves the documents of its host. -/
structure Serves (c : Client) : Prop where
  running : c.life = .running
  connected : c.isConnected
  selector : c.IsDefault

theorem Tells.pass (h : Tells t os c) (hnone : Document.opening? t p = none) :
    Tells t (os ++ (Document.opening? t p).toList) c := by
  rw [hnone, Option.toList_none, List.append_nil]
  exact h

theorem Tells.openFile (h : Tells t os c) (hs : c.Serves) (p : Path) :
    Tells t (os ++ (Document.opening? t p).toList) (c.openFile t p).1 := by
  unfold Client.openFile
  cases hread : readDocument t p with
  | error e => exact h.pass (Document.opening?_of_unread hread)
  | ok found =>
    obtain ⟨url, language, text⟩ := found
    have hselects := hs.selector.selects_read_iff hread
    simp only [didOpen]
    rcases Document.readDocument_cases hread with ⟨hmar, hnone⟩ | ⟨rfl, file, hsome⟩
    · rw [if_neg fun hsel => hmar (hselects.mp hsel)]
      exact h.pass hnone
    · rw [if_pos (hselects.mpr rfl), whenReady_of_running hs.running, hsome]
      exact h.openText (Document.opening?_eq_some_iff.mp hsome) hs.connected

theorem Serves.openFile (hs : c.Serves) (t : FileTree) (p : Path) : (c.openFile t p).1.Serves := by
  unfold Client.openFile
  cases readDocument t p with
  | error e => exact hs
  | ok found =>
    simp only [didOpen, whenReady_of_running hs.running]
    split
    · exact ⟨hs.running, hs.connected, hs.selector⟩
    · exact hs

theorem Tells.openFiles (h : Tells t os c) (hs : c.Serves) (files : List Path) :
    Tells t (os ++ files.filterMap (Document.opening? t)) (c.openFiles t files).1 := by
  induction files generalizing c os with
  | nil => simpa [Client.openFiles] using h
  | cons file rest ih =>
    have hrest := ih (h.openFile hs file) (hs.openFile t file)
    rw [List.append_assoc] at hrest
    cases ho : Document.opening? t file <;> simpa [Client.openFiles, ho] using hrest

end Client
end LspHost
