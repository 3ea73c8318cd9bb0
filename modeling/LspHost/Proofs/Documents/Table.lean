import LspHost.Client.Documents

/-!
# The table of open documents

The table is known by the version it has for each URL. An operation changes the version of its own
document only, and all that it hands over is about that document.
-/

namespace LspHost

def Outgoing.document? : Outgoing → Option Url
  | .didOpen url _ _ _ => some url
  | .didChange url _ _ => some url
  | .didClose url => some url
  | _ => none

namespace Documents

variable (d : Documents)

theorem version?_insert_self (url : Url) (v : Int32) :
    (d.insert url v).version? url = some v := by
  obtain ⟨versions⟩ := d
  induction versions with
  | nil => simp [insert, setVersion, version?]
  | cons entry rest ih =>
    by_cases h : entry.1 = url
    · simp [insert, setVersion, version?, h]
    · simpa [insert, setVersion, version?, h] using ih

theorem version?_insert_of_ne {url other : Url} (h : other ≠ url) (v : Int32) :
    (d.insert url v).version? other = d.version? other := by
  obtain ⟨versions⟩ := d
  induction versions with
  | nil => simp [insert, setVersion, version?, h.symm]
  | cons entry rest ih =>
    by_cases he : entry.1 = url
    · simp [insert, setVersion, version?, he, h.symm]
    · by_cases ho : entry.1 = other
      · simp [insert, setVersion, version?, ho, h]
      · simpa [insert, setVersion, version?, he, ho] using ih

theorem version?_erase_self (url : Url) : (d.erase url).version? url = none := by
  simp [erase, version?]

theorem version?_erase_of_ne {url other : Url} (h : other ≠ url) :
    (d.erase url).version? other = d.version? other := by
  obtain ⟨versions⟩ := d
  induction versions with
  | nil => rfl
  | cons entry rest ih =>
    by_cases ho : entry.1 = other
    · simp [erase, version?, ho, h]
    · by_cases he : entry.1 = url
      · simpa [erase, version?, he, h.symm] using ih
      · simpa [erase, version?, he, ho] using ih

variable {d}

theorem insert_succ_ne_self {url : Url} {v : Int32} (hv : d.version? url = some v) :
    d.insert url (v + 1) ≠ d := by
  intro h
  rw [← h, version?_insert_self] at hv
  simp at hv

theorem erase_ne_self {url : Url} (hv : (d.version? url).isSome) : d.erase url ≠ d := by
  intro h
  rw [← h, version?_erase_self] at hv
  cases hv

theorem openText_of_closed {url : Url} (hv : d.version? url = none) (language text : String) :
    d.openText true url language text =
      { documents := d.insert url 1, sent := [.didOpen url language 1 text],
        result := .ok true } := by
  simp [openText, hv, hand]

theorem openText_of_closed_lost {url : Url} (hv : d.version? url = none) (language text : String) :
    d.openText false url language text =
      d.hand false "didOpen" (.didOpen url language 1 text) true := by
  simp [openText, hv, hand]

theorem openText_of_open {url : Url} {v : Int32} (hv : d.version? url = some v) (connected : Bool)
    (language text : String) :
    d.openText connected url language text = d.sendChange connected url v text true := by
  simp [openText, hv]

theorem changeText_of_open {url : Url} {v : Int32} (hv : d.version? url = some v)
    (connected : Bool) (text : String) :
    d.changeText connected url text = d.sendChange connected url v text () := by
  simp [changeText, hv]

theorem changeText_of_closed {url : Url} (hv : d.version? url = none) (connected : Bool)
    (text : String) :
    d.changeText connected url text =
      { documents := d, sent := [], result := .error (notOpen url) } := by
  simp [changeText, hv]

theorem document?_of_sent_hand {α : Type} {connected : Bool} {name : String} {m : Outgoing}
    {value : α} {url : Url} (hm : m.document? = some url) :
    ∀ m' ∈ (d.hand connected name m value).sent, m'.document? = some url := by
  cases connected <;> simp [hand, hm]

theorem document?_of_sent_openText (connected : Bool) (url : Url) (language text : String) :
    ∀ m ∈ (d.openText connected url language text).sent, m.document? = some url := by
  cases hv : d.version? url with
  | some v =>
    rw [openText_of_open hv]
    exact document?_of_sent_hand rfl
  | none =>
    cases connected with
    | true => simp [openText_of_closed hv, Outgoing.document?]
    | false =>
      rw [openText_of_closed_lost hv]
      exact document?_of_sent_hand rfl

theorem document?_of_sent_changeText (connected : Bool) (url : Url) (text : String) :
    ∀ m ∈ (d.changeText connected url text).sent, m.document? = some url := by
  cases hv : d.version? url with
  | some v =>
    rw [changeText_of_open hv]
    exact document?_of_sent_hand rfl
  | none => simp [changeText_of_closed hv]

theorem document?_of_sent_sendClose (connected : Bool) (url : Url) :
    ∀ m ∈ (d.sendClose connected url).sent, m.document? = some url :=
  document?_of_sent_hand rfl

end Documents
end LspHost
