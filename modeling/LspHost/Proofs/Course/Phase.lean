import LspHost.Proofs.Documents.Table
import Mathlib.Data.List.Induction

/-!
# Phases of a conversation

A conversation between a client and its server goes through phases. A small automaton reads messages
by the role they have and gives the phase that they lead to. What can be read in this way is the
beginning of a conversation.
-/

namespace LspHost

/-- What a message is to the conversation. The requests of the host belong to its body, whatever
their methods are. -/
inductive Role where
  | greeting
  | initialized
  | body
  | shutdown
  | exit
deriving Repr, DecidableEq

def Outgoing.role : Outgoing → Role
  | .initializeRequest _ _ => .greeting
  | .initialized => .initialized
  | .didOpen _ _ _ _ => .body
  | .didChange _ _ _ => .body
  | .didClose _ => .body
  | .filesChanged _ => .body
  | .request _ _ _ => .body
  | .shutdown _ => .shutdown
  | .exit => .exit

theorem Outgoing.role_of_document {m : Outgoing} {url : Url} (h : m.document? = some url) :
    m.role = .body := by
  cases m <;> simp [document?] at h <;> rfl

/-- What a client may say from its start to its end. -/
inductive Conversation : List Role → Prop
  | exitAlone : Conversation [.exit]
  | unanswered : Conversation [.greeting, .exit]
  | served (n : Nat) :
      Conversation (.greeting :: .initialized :: (List.replicate n .body ++ [.exit]))
  | shutDown (n : Nat) :
      Conversation (.greeting :: .initialized :: (List.replicate n .body ++ [.shutdown, .exit]))

inductive Phase where
  | silent
  | greeted
  | serving
  | closing
  | finished
deriving Repr, DecidableEq

namespace Phase

def next? : Phase → Role → Option Phase
  | silent, .greeting => some greeted
  | greeted, .initialized => some serving
  | serving, .body => some serving
  | serving, .shutdown => some closing
  | silent, .exit => some finished
  | greeted, .exit => some finished
  | serving, .exit => some finished
  | closing, .exit => some finished
  | _, _ => none

def after? (roles : List Role) : Option Phase :=
  roles.foldlM next? silent

theorem after?_append (roles more : List Role) :
    after? (roles ++ more) = (after? roles).bind fun p => more.foldlM next? p := by
  simp [after?, List.foldlM_append]

theorem next?_exit {p : Phase} (h : p ≠ finished) : p.next? .exit = some finished := by
  cases p <;> first | rfl | exact absurd rfl h

theorem foldlM_body {roles : List Role} (h : ∀ r ∈ roles, r = .body) :
    roles.foldlM next? serving = some serving := by
  induction roles with
  | nil => rfl
  | cons r rest ih =>
    rw [List.foldlM_cons, h r List.mem_cons_self]
    exact ih fun r hr => h r (List.mem_cons_of_mem _ hr)

def Said : Phase → List Role → Prop
  | silent, roles => roles = []
  | greeted, roles => roles = [.greeting]
  | serving, roles => ∃ n, roles = .greeting :: .initialized :: List.replicate n .body
  | closing, roles =>
    ∃ n, roles = .greeting :: .initialized :: (List.replicate n .body ++ [.shutdown])
  | finished, roles => Conversation roles

theorem said_next {p q : Phase} {roles : List Role} {r : Role} (h : p.Said roles)
    (hn : p.next? r = some q) : q.Said (roles ++ [r]) := by
  cases p <;> cases r <;> cases hn
  case silent.greeting =>
    subst h
    rfl
  case silent.exit =>
    subst h
    exact .exitAlone
  case greeted.initialized =>
    subst h
    exact ⟨0, rfl⟩
  case greeted.exit =>
    subst h
    exact .unanswered
  case serving.body =>
    obtain ⟨n, rfl⟩ := h
    exact ⟨n + 1, by simp [List.replicate_succ']⟩
  case serving.shutdown =>
    obtain ⟨n, rfl⟩ := h
    exact ⟨n, rfl⟩
  case serving.exit =>
    obtain ⟨n, rfl⟩ := h
    exact .served n
  case closing.exit =>
    obtain ⟨n, rfl⟩ := h
    have happ := Conversation.shutDown n
    simpa [Said] using happ

theorem said_of_after {p : Phase} {roles : List Role} (h : after? roles = some p) :
    p.Said roles := by
  induction roles using List.reverseRecOn generalizing p with
  | nil =>
    obtain rfl := Option.some.inj h
    rfl
  | append_singleton roles r ih =>
    rw [after?_append] at h
    obtain ⟨q, hq, hn⟩ := Option.bind_eq_some_iff.mp h
    simp only [List.foldlM_cons, List.foldlM_nil, bind_pure] at hn
    exact said_next (ih hq) hn

end Phase

namespace Conversation

end Conversation

namespace Phase

end Phase

end LspHost
