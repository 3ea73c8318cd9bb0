import LspHost.Proofs.Documents.Table
import Mathlib.Data.List.Induction

/-!
# The documents that a server has open

A server keeps each open document with its version and its text. It takes a document to open only
if that is not open, a change only of an open document and with the next version, and a close only
of an open document. A table matches such a store about a document if both know it by the same
version or not at all. Edits that are known to have been accepted lead from one store to the next
without any messages: each text of a document counts one up from its opening.
-/

namespace LspHost

structure Held where
  version : Int
  text : String
deriving Repr, DecidableEq

def Store := Url → Option Held

namespace Store

def empty : Store := fun _ => none

def put (st : Store) (url : Url) (held : Option Held) : Store :=
  fun other => if other = url then held else st other

@[simp] theorem put_self (st : Store) (url : Url) (held : Option Held) :
    st.put url held url = held := if_pos rfl

theorem put_of_ne (st : Store) {url other : Url} (h : other ≠ url) (held : Option Held) :
    st.put url held other = st other := if_neg h

/-- The store after a message, unless that demands what cannot be. -/
def receive? (st : Store) : Outgoing → Option Store
  | .didOpen url _ version text =>
    if (st url).isNone then some (st.put url (some ⟨version.toInt, text⟩)) else none
  | .didChange url version text =>
    match st url with
    | some held =>
      if version.toInt = held.version + 1 then some (st.put url (some ⟨version.toInt, text⟩))
      else none
    | none => none
  | .didClose url => if (st url).isSome then some (st.put url none) else none
  | _ => some st

def receiveAll? (st : Store) (ms : List Outgoing) : Option Store :=
  ms.foldlM receive? st

@[simp] theorem receiveAll?_singleton (st : Store) (m : Outgoing) :
    st.receiveAll? [m] = st.receive? m := by
  simp [receiveAll?]

theorem receiveAll?_append (st : Store) (ms ms' : List Outgoing) :
    st.receiveAll? (ms ++ ms') = (st.receiveAll? ms).bind fun st' => st'.receiveAll? ms' := by
  simp [receiveAll?, List.foldlM_append]

theorem receive?_of_document_none (st : Store) {m : Outgoing} (hm : m.document? = none) :
    st.receive? m = some st := by
  cases m <;> simp [Outgoing.document?] at hm <;> rfl

def version? (st : Store) (url : Url) : Option Int :=
  (st url).map Held.version

theorem receive?_didOpen {st : Store} {url : Url} (h : st url = none) (language : String)
    (version : Int32) (text : String) :
    st.receive? (.didOpen url language version text) =
      some (st.put url (some ⟨version.toInt, text⟩)) := by
  simp [receive?, h]

theorem receive?_didOpen_again {st : Store} {url : Url} (h : (st url).isSome) (language : String)
    (version : Int32) (text : String) :
    st.receive? (.didOpen url language version text) = none := by
  obtain ⟨held, hh⟩ := Option.isSome_iff_exists.mp h
  simp [receive?, hh]

theorem receive?_didChange {st : Store} {url : Url} {version : Int32}
    (h : st.version? url = some (version.toInt - 1)) (text : String) :
    st.receive? (.didChange url version text) =
      some (st.put url (some ⟨version.toInt, text⟩)) := by
  obtain ⟨held, hh, hv⟩ := Option.map_eq_some_iff.mp h
  simp [receive?, hh, hv]

theorem receive?_didChange_wrong {st : Store} {url : Url} {version : Int32} {last : Int}
    (h : st.version? url = some last) (hne : version.toInt ≠ last + 1) (text : String) :
    st.receive? (.didChange url version text) = none := by
  obtain ⟨held, hh, hv⟩ := Option.map_eq_some_iff.mp h
  simp [receive?, hh, hv, hne]

theorem receive?_didClose {st : Store} {url : Url} (h : (st url).isSome) :
    st.receive? (.didClose url) = some (st.put url none) :=
  if_pos h

end Store

theorem toInt_next_version (v : Int32) : (v + 1).toInt = v.toInt + 1 ↔ v ≠ Int32.maxValue := by
  constructor
  · rintro h rfl
    exact absurd h (by decide)
  · intro hne
    have hmax : v.toInt ≠ 2 ^ 31 - 1 := fun h => hne (Int32.toInt.inj h)
    have hlo := v.le_toInt
    have hhi := v.toInt_lt
    rw [Int32.toInt_add, Int32.toInt_one]
    exact Int.bmod_eq_of_le (by omega) (by omega)

namespace Documents

/-- The table and the store know a document by the same version. -/
def Matches (d : Documents) (st : Store) (url : Url) : Prop :=
  st.version? url = (d.version? url).map Int32.toInt

section

variable {d : Documents} {st : Store} {url : Url}

theorem matches_insert (v : Int32) (text : String) :
    (d.insert url v).Matches (st.put url (some ⟨v.toInt, text⟩)) url := by
  simp [Matches, Store.version?, version?_insert_self]

theorem matches_erase : (d.erase url).Matches (st.put url none) url := by
  simp [Matches, Store.version?, version?_erase_self]

theorem matches_of_ne {d' : Documents} {other : Url} (h : d.Matches st other) (hne : other ≠ url)
    (hd : d'.version? other = d.version? other) (held : Option Held) :
    d'.Matches (st.put url held) other := by
  rw [Matches, Store.version?, st.put_of_ne hne, hd]
  exact h

theorem Matches.isSome_iff (h : d.Matches st url) : (st url).isSome ↔ (d.version? url).isSome := by
  have hsome := congrArg Option.isSome h
  simpa [Store.version?] using iff_of_eq (congrArg (· = true) hsome)

theorem Matches.eq_none (h : d.Matches st url) (hv : d.version? url = none) : st url = none := by
  rw [Matches, hv] at h
  exact Option.map_eq_none_iff.mp h

theorem Matches.eq_some (h : d.Matches st url) {v : Int32} (hv : d.version? url = some v) :
    st.version? url = some v.toInt := by
  rw [h, hv, Option.map_some]

theorem not_matches_insert {v : Int32} (hst : st.version? url = some v.toInt) :
    ¬ (d.insert url (v + 1)).Matches st url := by
  intro h
  rw [Matches, hst, version?_insert_self, Option.map_some] at h
  have hv : v = v + 1 := Int32.toInt.inj (Option.some.inj h)
  simp at hv

theorem not_matches_erase (hst : (st url).isSome) : ¬ (d.erase url).Matches st url := by
  intro h
  rw [h.isSome_iff, version?_erase_self] at hst
  cases hst

end

end Documents

namespace Store

variable {st : Store} {url : Url} {v : Int32}

theorem receive?_next (h : st.version? url = some v.toInt) (hne : v ≠ Int32.maxValue)
    (text : String) : st.receive? (.didChange url (v + 1) text) =
      some (st.put url (some ⟨(v + 1).toInt, text⟩)) := by
  refine receive?_didChange ?_ text
  rw [h, (toInt_next_version v).mpr hne, Int.add_sub_cancel]

theorem receive?_overrun (h : st.version? url = some Int32.maxValue.toInt) (text : String) :
    st.receive? (.didChange url (Int32.maxValue + 1) text) = none :=
  receive?_didChange_wrong h (fun h => (toInt_next_version _).mp h rfl) text

end Store

/-- What a turn does to a document. -/
inductive Edit where
  | text (url : Url) (text : String)
  | close (url : Url)
deriving Repr, DecidableEq

def Edit.url : Edit → Url
  | text url _ => url
  | close url => url

namespace Store

def edit (st : Store) : Edit → Store
  | .text url text => st.put url (some ⟨(st.version? url).getD 0 + 1, text⟩)
  | .close url => st.put url none

def edits (st : Store) (es : List Edit) : Store :=
  es.foldl edit st

/-- No document has had more texts since its opening than there are versions. -/
def Bounded (st : Store) : Prop :=
  ∀ url held, st url = some held → held.version ≤ Int32.maxValue.toInt

section

variable {st : Store} {url : Url}

theorem edits_first_text (h : st url = none) (text : String) :
    st.edits [.text url text] = st.put url (some ⟨(1 : Int32).toInt, text⟩) := by
  simp [edits, edit, version?, h]

theorem edits_next_text {v : Int32} (h : st.version? url = some v.toInt) (text : String) :
    st.edits [.text url text] = st.put url (some ⟨v.toInt + 1, text⟩) := by
  simp [edits, edit, h]

theorem ne_maxValue_of_bounded {v : Int32} (h : st.version? url = some v.toInt) {text : String}
    (hb : (st.edits [.text url text]).Bounded) : v ≠ Int32.maxValue := by
  rintro rfl
  rw [edits_next_text h] at hb
  exact Int.not_lt.mpr (hb url _ (put_self ..)) (Int.lt_succ _)

theorem version?_edit (st : Store) (e : Edit) (url : Url) :
    (st.edit e).version? url = st.version? url ∨
      (st.edit e).version? url = some ((st.version? url).getD 0 + 1) ∨
        (st.edit e).version? url = none := by
  by_cases hu : url = e.url
  · subst hu
    cases e with
    | text u text => exact Or.inr (Or.inl (congrArg (Option.map Held.version) (st.put_self u _)))
    | close u => exact Or.inr (Or.inr (congrArg (Option.map Held.version) (st.put_self u _)))
  · cases e with
    | text u text => exact Or.inl (congrArg (Option.map Held.version) (st.put_of_ne hu _))
    | close u => exact Or.inl (congrArg (Option.map Held.version) (st.put_of_ne hu _))

theorem version_le_length (es : List Edit) (url : Url) :
    0 ≤ ((empty.edits es).version? url).getD 0 ∧
      ((empty.edits es).version? url).getD 0 ≤ es.length := by
  induction es using List.reverseRecOn with
  | nil => exact ⟨Int.le_refl 0, Int.le_refl 0⟩
  | append_singleton es e ih =>
    rw [edits, List.foldl_append, List.foldl_cons, List.foldl_nil, List.length_append,
      List.length_singleton]
    rw [edits] at ih
    rcases version?_edit (List.foldl edit empty es) e url with h | h | h <;> rw [h]
    · omega
    · rw [Option.getD_some]
      omega
    · rw [Option.getD_none]
      omega

theorem edits_close : st.edits [.close url] = st.put url none := rfl

end

end Store
end LspHost
