import LspHost.Proofs.Documents.Concern

/-!
# Calls that take turns keep the server's documents those of the table

What the accepted turns come to is known without the table. The messages of any sequence of turns
lead the server there, and the table follows as long as no turn about an open document meets the end
of the connection.
-/

namespace LspHost.Client

def edits (c : Client) : List Turn → List Edit
  | [] => []
  | t :: ts => (c.accepted? t).toList ++ edits (c.turn t).1 ts

/-- What the accepted turns come to, for a client that starts without documents. -/
def kept (c : Client) (ts : List Turn) : Store :=
  Store.empty.edits (c.edits ts)

section

variable {c : Client}

@[simp] theorem turns_concat (c : Client) (ts : List Turn) (t : Turn) :
    c.turns (ts ++ [t]) = ((c.turns ts).turn t).1 := by
  simp [turns]

theorem edits_concat (c : Client) (ts : List Turn) (t : Turn) :
    c.edits (ts ++ [t]) = c.edits ts ++ ((c.turns ts).accepted? t).toList := by
  induction ts generalizing c with
  | nil => simp [edits, turns]
  | cons t' ts ih => rw [List.cons_append, edits, ih, edits, List.append_assoc]; rfl

theorem kept_concat (c : Client) (ts : List Turn) (t : Turn) :
    c.kept (ts ++ [t]) = (c.kept ts).edits ((c.turns ts).accepted? t).toList := by
  rw [kept, edits_concat, Store.edits, List.foldl_append]
  rfl

theorem life_turns (hl : c.life = .running) (ts : List Turn) : (c.turns ts).life = .running := by
  induction ts using List.reverseRecOn with
  | nil => exact hl
  | append_singleton ts t ih =>
    rw [turns_concat]
    exact life_turn ih t

theorem sent_concat (hl : c.life = .running) {ts : List Turn} {t : Turn} {ms : List Outgoing}
    (hw : ((c.turns ts).turn t).1.wire = (c.turns ts).wire ++ ms) :
    c.sent (ts ++ [t]) = c.sent ts ++ ms := by
  rw [wire_turns hl ts, List.append_assoc, ← turns_concat] at hw
  exact List.append_cancel_left ((wire_turns hl (ts ++ [t])).symm.trans hw)

/-- No document has more texts than there are versions at any time. -/
def BoundedThroughout (c : Client) (ts : List Turn) : Prop :=
  ∀ before, before <+: ts → (c.kept before).Bounded

theorem BoundedThroughout.start {ts more : List Turn} (hb : c.BoundedThroughout (ts ++ more)) :
    c.BoundedThroughout ts :=
  fun before h => hb before (h.trans ⟨more, rfl⟩)

theorem length_edits_le (c : Client) (ts : List Turn) : (c.edits ts).length ≤ ts.length := by
  induction ts generalizing c with
  | nil => exact Nat.le_refl 0
  | cons t ts ih =>
    have hone : (c.accepted? t).toList.length ≤ 1 := by cases c.accepted? t <;> simp
    have hrest := ih (c.turn t).1
    rw [edits, List.length_append, List.length_cons]
    omega

theorem boundedThroughout_of_length {ts : List Turn}
    (h : (ts.length : Int) ≤ Int32.maxValue.toInt) : c.BoundedThroughout ts := by
  intro before hbefore url held hheld
  have hversion := (Store.version_le_length (c.edits before) url).2
  have hkept : (Store.empty.edits (c.edits before)).version? url = some held.version :=
    congrArg (Option.map Held.version) hheld
  rw [hkept, Option.getD_some] at hversion
  have hedits := length_edits_le c before
  have hlength := hbefore.length_le
  omega

/-- The server is led where the accepted turns lead, and so is the table while the connection
stands. -/
theorem received_turns (hl : c.life = .running) (hd : c.documents = {}) {ts : List Turn}
    (hb : c.BoundedThroughout ts) :
    Store.empty.receiveAll? (c.sent ts) = some (c.kept ts) ∧ Follows (c.turns ts) (c.kept ts) := by
  induction ts using List.reverseRecOn with
  | nil =>
    refine ⟨by simp [sent, turns]; rfl, fun _ url => ?_⟩
    rw [turns, List.foldl_nil, hd]
    rfl
  | append_singleton ts t ih =>
    obtain ⟨hreceived, hfollows⟩ := ih hb.start
    obtain ⟨ms, h⟩ := turn_effect (life_turns hl ts) t
    have hbound := hb _ List.prefix_rfl
    rw [kept_concat] at hbound
    rw [sent_concat hl h.wire_eq, kept_concat, turns_concat, Store.receiveAll?_append, hreceived,
      Option.bind_some]
    exact ⟨h.received hfollows hbound, h.follows hfollows hbound⟩

/-- Throughout a sequence of turns the table is what the accepted turns come to, exactly if no turn
about an open document meets the end of the connection. -/
theorem matches_turns_iff (hl : c.life = .running) (hd : c.documents = {}) {ts : List Turn}
    (hb : c.BoundedThroughout ts) :
    (∀ before, before <+: ts → ∀ url, (c.turns before).documents.Matches (c.kept before) url) ↔
      ∀ before t, before ++ [t] <+: ts → ¬ (c.turns before).Loses t := by
  have hstep : ∀ before t, before ++ [t] <+: ts →
      (∀ url, (c.turns before).documents.Matches (c.kept before) url) →
      ((∀ url, (c.turns (before ++ [t])).documents.Matches (c.kept (before ++ [t])) url) ↔
        ¬ (c.turns before).Loses t) := by
    intro before t hbt hm
    obtain ⟨ms, h⟩ := turn_effect (life_turns hl before) t
    have hbound := hb _ hbt
    rw [kept_concat] at hbound ⊢
    rw [turns_concat]
    exact h.matches_iff hm hbound
  constructor
  · intro hall before t hbt
    exact (hstep before t hbt (hall before ((List.prefix_append _ _).trans hbt))).mp (hall _ hbt)
  · intro hno before
    induction before using List.reverseRecOn with
    | nil =>
      intro _ url
      rw [turns, List.foldl_nil, hd]
      rfl
    | append_singleton before t ih =>
      intro hbt
      have hm := ih ((List.prefix_append _ _).trans hbt)
      exact (hstep before t hbt hm).mpr (hno before t hbt)

/-- A host makes its calls one after another, on a client that runs and has no document open. The
server can take every message, and has every document with the number of texts since its opening as
its version and with the last accepted text. The table matches throughout exactly if no turn about
an open document meets the end of the connection. What is said about a document depends on the turns
that concern it only. -/
theorem documents_of_turns (hl : c.life = .running) (hd : c.documents = {}) (ts : List Turn)
    (hb : c.BoundedThroughout ts) :
    (∀ before, before <+: ts →
      Store.empty.receiveAll? (c.sent before) = some (c.kept before)) ∧
    ((∀ before, before <+: ts → ∀ url, (c.turns before).documents.Matches (c.kept before) url) ↔
      ∀ before t, before ++ [t] <+: ts → ¬ (c.turns before).Loses t) ∧
    ∀ url, ((c.sent ts).filter fun m => m.document? = some url) =
      (c.sent (ts.filter (Turn.concerns url))).filter fun m => m.document? = some url := by
  refine ⟨fun before hbefore => ?_, matches_turns_iff hl hd hb, fun url => ?_⟩
  · exact (received_turns hl hd fun b hb' => hb b (hb'.trans hbefore)).1
  · exact sent_of_concerning ⟨hl, hl, rfl, rfl, rfl⟩ ts

/-- A change that meets the end of the connection counts in the table and not at the server. -/
theorem documents_of_turns_lost :
    let settings : ClientSettings :=
      { id := "a", name := "a", server := .same { command := "a" },
        options := { selector := { filters := [{}] } } }
    let url : Url := { scheme := "file", authority := none, path := "/a" }
    let c : Client :=
      { settings, life := .running,
        session := some { root := Path.ofString "/", url, handshake := .forwarding } }
    let ts : List Turn :=
      [.didOpen url "a" "one", .didOpen url "a" "two", .disconnect, .didChange url "three"]
    (c.life = .running ∧ c.documents = {} ∧ c.BoundedThroughout ts) ∧
      (Store.empty.receiveAll? (c.sent ts) = some (c.kept ts) ∧
        c.kept ts url = some ⟨2, "two"⟩ ∧ (c.turns ts).documents.version? url = some 3) ∧
      ¬ ∀ before, before <+: ts →
        ∀ url, (c.turns before).documents.Matches (c.kept before) url := by
  intro settings url c ts
  have hb : c.BoundedThroughout ts := boundedThroughout_of_length (by decide)
  obtain ⟨hreceived, hiff, -⟩ := documents_of_turns rfl rfl ts hb
  have hkept : c.kept ts url = some ⟨2, "two"⟩ := by decide +kernel
  have hversion : (c.turns ts).documents.version? url = some 3 := by decide +kernel
  refine ⟨⟨rfl, rfl, hb⟩, ⟨hreceived ts List.prefix_rfl, hkept, hversion⟩, fun hall => ?_⟩
  have hlost : (c.turns (ts.take 3)).Loses (.didChange url "three") :=
    ⟨by decide +kernel, .text url "three", rfl, by decide +kernel⟩
  exact hiff.mp hall (ts.take 3) _ List.prefix_rfl hlost

end

end LspHost.Client
