import LspHost.Client.Course
import LspHost.Client.Turns
import LspHost.Proofs.Client.Basic

/-!
# Calls that nothing overtakes

A call of a course goes on step by step, and others may come in between. If nobody does, the steps
come to the same as the turn that makes the call all at once.
-/

namespace LspHost

def Turn.call? : Turn → Option Call
  | didOpen url language text => some (.asked (.openText url language text))
  | didChange url text => some (.asked (.changeText url text))
  | didClose url => some (.asked (.close url))
  | openFile _ path => some (.seeking path)
  | disconnect => none

def Turn.tree? : Turn → Option FileTree
  | openFile t _ => some t
  | _ => none

namespace Client

/-- A call that goes on for some steps without being overtaken. -/
def advanceAlone (t : FileTree) : Nat → Client × Call → Client × Call
  | 0, p => p
  | n + 1, p => advanceAlone t n (p.1.advance t p.2)

theorem advanceAlone_add (t : FileTree) (m n : Nat) (p : Client × Call) :
    advanceAlone t (m + n) p = advanceAlone t n (advanceAlone t m p) := by
  induction m generalizing p with
  | zero => rw [Nat.zero_add, advanceAlone]
  | succ m ih => rw [Nat.succ_add, advanceAlone, ih, advanceAlone]

theorem advanceAlone_returned (t : FileTree) (n : Nat) (c : Client) (r : Except ClientError Bool) :
    advanceAlone t n (c, .returned r) = (c, .returned r) := by
  induction n with
  | zero => rfl
  | succ n ih => exact ih

theorem advanceAlone_over {t : FileTree} {m : Nat} {p : Client × Call} {c : Client}
    {r : Except ClientError Bool} (h : advanceAlone t m p = (c, .returned r)) (n : Nat) :
    advanceAlone t (m + n) p = (c, .returned r) := by
  rw [advanceAlone_add, h, advanceAlone_returned]

section

variable {c : Client}

theorem enter_of_running (hl : c.life = .running) (a : Ask) : c.enter a = .ready a := by
  simp [enter, readiness, hl]

theorem advanceAlone_didOpen (hl : c.life = .running) (t : FileTree) (url : Url)
    (language text : String) :
    advanceAlone t 2 (c, .asked (.openText url language text)) =
      (c.didOpen url language text).map id .returned := by
  rw [didOpen, whenReady_of_running hl]
  by_cases hsel : c.selects url language
  · simp [advanceAlone, advance, hsel, enter_of_running hl, act]
  · simp [advanceAlone, advance, hsel]

theorem advanceAlone_didChange (hl : c.life = .running) (t : FileTree) (url : Url)
    (text : String) :
    advanceAlone t 2 (c, .asked (.changeText url text)) =
      (c.didChange url text).map id fun r => .returned (r.map fun _ => true) := by
  rw [didChange, whenReady_of_running hl]
  simp only [advanceAlone, advance, enter_of_running hl, act]

theorem advanceAlone_didClose (hl : c.life = .running) (t : FileTree) (url : Url) :
    advanceAlone t 3 (c, .asked (.close url)) =
      (c.didClose url).map id fun r => .returned (r.map fun _ => true) := by
  rw [didClose, whenReady_of_running hl, close]
  have hask : c.advance t (.asked (.close url)) = (c, .ready (.close url)) := by
    simp only [advance, enter_of_running hl]
  simp only [advanceAlone, hask]
  cases hv : c.documents.version? url with
  | none =>
    simp [advance, act, takeDocument, Documents.take, hv]
    rfl
  | some v =>
    simp [advance, act, takeDocument, Documents.take, hv]

theorem advanceAlone_openFile (hl : c.life = .running) (t : FileTree) (path : Path) :
    advanceAlone t 4 (c, .seeking path) = (c.openFile t path).map id .returned := by
  rw [openFile, readDocument]
  cases hu : Document.urlOfPath t path with
  | error e =>
    have h : advanceAlone t 1 (c, .seeking path) = (c, .returned (.error e)) := by
      simp only [advanceAlone, advance, hu]
    exact advanceAlone_over h 3
  | ok url =>
    cases hr : Document.readText t path with
    | error e =>
      have h : advanceAlone t 2 (c, .seeking path) = (c, .returned (.error e)) := by
        simp only [advanceAlone, advance, hu, hr]
      exact advanceAlone_over h 2
    | ok text =>
      have h : advanceAlone t 2 (c, .seeking path) =
          (c, .asked (.openText url (Document.languageOf path) text)) := by
        simp only [advanceAlone, advance, hu, hr]
      rw [advanceAlone_add t 2 2, h, advanceAlone_didOpen hl]
      rfl

/-- A call that nothing overtakes is a turn. -/
theorem advanceAlone_turn (hl : c.life = .running) {turn : Turn} {call : Call} {t : FileTree}
    (hc : turn.call? = some call) (ht : ∀ t', turn.tree? = some t' → t' = t) :
    advanceAlone t 4 (c, call) = (c.turn turn).map id .returned := by
  cases turn with
  | didOpen url language text =>
    obtain rfl := Option.some.inj hc
    exact advanceAlone_over (advanceAlone_didOpen hl t url language text) 2
  | didChange url text =>
    obtain rfl := Option.some.inj hc
    exact advanceAlone_over (advanceAlone_didChange hl t url text) 2
  | didClose url =>
    obtain rfl := Option.some.inj hc
    exact advanceAlone_over (advanceAlone_didClose hl t url) 1
  | openFile t' path =>
    obtain rfl := Option.some.inj hc
    obtain rfl := ht t' rfl
    exact advanceAlone_openFile hl t' path
  | disconnect => cases hc

end

end Client
end LspHost
