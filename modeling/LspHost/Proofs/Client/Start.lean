import LspHost.Proofs.Client.Basic
import Mathlib.Data.List.Induction

/-!
# Starting a client

A start gets together what a session needs, stage by stage, and only then begins the session. Each
stage has reasons of its own to fail, which `Hinders` lists without regard to the other stages. A
start reports the reason of the first stage that is hindered, and leaves the client as it was; it
begins the session if no stage is hindered.
-/

namespace LspHost

theorem FileTree.isAbsolute_of_canonicalize {t : FileTree} {p root : Path}
    (h : t.canonicalize p = .ok root) : root.isAbsolute := by
  cases hp : t.reach? p { spelled := true } with
  | error e => simp [canonicalize, hp, Except.map] at h
  | ok place =>
    obtain rfl : pathOf place = root := by simpa [canonicalize, hp, Except.map] using h
    rfl

inductive StartStage where
  | life
  | root
  | glob
  | watcher
  | server
deriving Repr, DecidableEq

def StartStage.rank : StartStage → Nat
  | life => 0
  | root => 1
  | glob => 2
  | watcher => 3
  | server => 4

theorem StartStage.rank_injective : Function.Injective rank := by
  intro stage stage' h
  cases stage <;> cases stage' <;> first | rfl | cases h

namespace Client

/-- Why a stage of a start must fail. -/
inductive Hinders (c : Client) (a : Attempt) : StartStage → ClientError → Prop
  | started (h : c.session.isSome ∨ c.life ≠ .idle) : Hinders c a .life .alreadyStarted
  | root {e : SystemError} (hr : a.tree.canonicalize a.root = .error e) :
      Hinders c a .root
        (.initializationFailed ("failed to canonicalize workspace root: " ++ e.message))
  | glob {sync : FileSync} {e : Glob.Error} (hs : c.settings.options.synchronize = some sync)
      (hg : Glob.ofString sync.glob = .error e) :
      Hinders c a .glob
        (.invalidGlob sync.glob ("error parsing glob '" ++ sync.glob ++ "': " ++ e.reason))
  | noWatcher {sync : FileSync} {reason : String}
      (hs : c.settings.options.synchronize = some sync)
      (hn : a.notifier.unavailable? = some reason) : Hinders c a .watcher (.watcher reason)
  | unwatchable {sync : FileSync} {root : Path} {reason : String}
      (hs : c.settings.options.synchronize = some sync)
      (hr : a.tree.canonicalize a.root = .ok root) (hn : a.notifier.unavailable? = none)
      (hw : a.notifier.refusal? root = some reason) :
      Hinders c a .watcher (.watcher ("failed to watch " ++ root.text ++ ": " ++ reason))
  | server {spawn : Invocation → Except SystemError Unit} {root : Path} {e : SystemError}
      (hp : a.spawn = some spawn) (hr : a.tree.canonicalize a.root = .ok root)
      (he : spawn (c.executable.invocation a.host root) = .error e) :
      Hinders c a .server (.serverStartFailed
        ("failed to spawn '" ++ c.executable.command ++ "': " ++ e.message))

/-- No stage before the given number is hindered. -/
def Clear (c : Client) (a : Attempt) (n : Nat) : Prop :=
  ∀ stage e, c.Hinders a stage e → n ≤ stage.rank

/-- What hinders the first stage that is hindered at all. -/
def FirstHindrance (c : Client) (a : Attempt) (e : ClientError) : Prop :=
  ∃ stage, c.Hinders a stage e ∧ c.Clear a stage.rank

/-- What is got together in a part of the start is there if the stages up to the end of the part are
clear, and otherwise fails for the first hindrance. -/
def Meets {α : Type} (c : Client) (a : Attempt) (n : Nat) : Except ClientError α → Prop
  | .ok _ => c.Clear a n
  | .error e => c.FirstHindrance a e

section

variable {c : Client} {a : Attempt}

theorem Hinders.eq {stage : StartStage} {e e' : ClientError} (h : c.Hinders a stage e)
    (h' : c.Hinders a stage e') : e = e' := by
  cases h <;> cases h' <;> simp_all

theorem FirstHindrance.eq {e e' : ClientError} (h : c.FirstHindrance a e)
    (h' : c.FirstHindrance a e') : e = e' := by
  obtain ⟨stage, hinders, clear⟩ := h
  obtain ⟨stage', hinders', clear'⟩ := h'
  have hrank : stage.rank = stage'.rank :=
    Nat.le_antisymm (clear stage' e' hinders') (clear' stage e hinders)
  obtain rfl := StartStage.rank_injective hrank
  exact hinders.eq hinders'

theorem clear_zero : c.Clear a 0 := fun _ _ _ => Nat.zero_le _

theorem Clear.next (stage : StartStage) (hc : c.Clear a stage.rank)
    (hno : ∀ e, ¬ c.Hinders a stage e) : c.Clear a (stage.rank + 1) := by
  intro stage' e h
  refine Nat.lt_of_le_of_ne (hc stage' e h) fun hrank => ?_
  obtain rfl := StartStage.rank_injective hrank
  exact hno e h

theorem clear_all_iff : c.Clear a 5 ↔ ∀ stage e, ¬ c.Hinders a stage e := by
  constructor
  · intro hc stage e h
    have hle := hc stage e h
    cases stage <;> simp [StartStage.rank] at hle
  · exact fun hno stage e h => absurd h (hno stage e)

theorem Clear.not_first (hc : c.Clear a 5) (e : ClientError) : ¬ c.FirstHindrance a e := by
  rintro ⟨stage, h, -⟩
  exact clear_all_iff.mp hc stage e h

theorem Meets.first {α : Type} {n : Nat} {x : Except ClientError α} {e : ClientError}
    (h : c.Meets a n x) (hx : x = .error e) : c.FirstHindrance a e := by
  rwa [hx] at h

theorem Meets.clear {α : Type} {n : Nat} {x : Except ClientError α} {value : α}
    (h : c.Meets a n x) (hx : x = .ok value) : c.Clear a n := by
  rwa [hx] at h

theorem prepare_ok {t : FileTree} {path : Path} {r : Path × Url}
    (h : c.prepare t path = .ok r) :
    c.session = none ∧ c.life = .idle ∧ t.canonicalize path = .ok r.1 := by
  by_cases hc : c.session.isSome ∨ c.life ≠ .idle
  · simp [prepare, hc, bind, Except.bind] at h
  · simp only [prepare, if_neg hc] at h
    have hidle : c.session = none ∧ c.life = .idle := by simpa using hc
    cases hr : t.canonicalize path with
    | error e => simp [hr] at h
    | ok root =>
      have hurl := FileTree.isAbsolute_of_canonicalize hr
      simp only [hr, Url.ofFilePath?, if_pos hurl] at h
      obtain rfl := Except.ok.inj h
      exact ⟨hidle.1, hidle.2, rfl⟩

theorem prepare_meets (c : Client) (a : Attempt) : c.Meets a 2 (c.prepare a.tree a.root) := by
  by_cases hc : c.session.isSome ∨ c.life ≠ .idle
  · simp only [prepare, if_pos hc]
    exact ⟨.life, .started hc, clear_zero⟩
  · have hlife : c.Clear a 1 := clear_zero.next .life fun e h => by
      cases h with
      | started h => exact hc h
    cases hr : a.tree.canonicalize a.root with
    | error e =>
      simp only [prepare, if_neg hc, hr]
      exact ⟨.root, .root hr, hlife⟩
    | ok root =>
      have hurl := FileTree.isAbsolute_of_canonicalize hr
      simp only [prepare, if_neg hc, hr, Url.ofFilePath?, if_pos hurl]
      exact hlife.next .root fun e h => by
        cases h with
        | root h => cases hr.symm.trans h

theorem spawnWatcher_meets {root : Path} (hc : c.Clear a 2)
    (hr : a.tree.canonicalize a.root = .ok root) :
    c.Meets a 4 (c.spawnWatcher a.notifier root) := by
  unfold spawnWatcher
  cases hs : c.settings.options.synchronize with
  | none =>
    have hglob : c.Clear a 3 := hc.next .glob fun e h => by
      cases h with
      | glob h => cases hs.symm.trans h
    exact hglob.next .watcher fun e h => by
      cases h with
      | noWatcher h => cases hs.symm.trans h
      | unwatchable h => cases hs.symm.trans h
  | some sync =>
    simp only [Watcher.spawnBy, WatchFilter.ofGlob, compileGlob]
    cases hg : Glob.ofString sync.glob with
    | error e => exact ⟨.glob, .glob hs hg, hc⟩
    | ok glob =>
      have hglob : c.Clear a 3 := hc.next .glob fun e h => by
        cases h with
        | glob hs' hg' =>
          obtain rfl := Option.some.inj (hs.symm.trans hs')
          cases hg.symm.trans hg'
      cases hn : a.notifier.unavailable? with
      | some reason => exact ⟨.watcher, .noWatcher hs hn, hglob⟩
      | none =>
        cases hw : a.notifier.refusal? root with
        | some reason => exact ⟨.watcher, .unwatchable hs hr hn hw, hglob⟩
        | none =>
          exact hglob.next .watcher fun e h => by
            cases h with
            | noWatcher hs' hn' => cases hn.symm.trans hn'
            | unwatchable hs' hr' hn' hw' =>
              obtain rfl := Except.ok.inj (hr.symm.trans hr')
              cases hw.symm.trans hw'

theorem spawnServer_meets {root : Path} (hc : c.Clear a 4)
    (hr : a.tree.canonicalize a.root = .ok root) :
    c.Meets a 5 (c.spawnServer a.host a.spawn root) := by
  unfold spawnServer
  cases hp : a.spawn with
  | none =>
    exact hc.next .server fun e h => by
      cases h with
      | server h => cases hp.symm.trans h
  | some spawn =>
    simp only
    cases hx : spawn (c.executable.invocation a.host root) with
    | error e => exact ⟨.server, .server hp hr hx, hc⟩
    | ok _ =>
      exact hc.next .server fun e h => by
        cases h with
        | server hp' hr' he =>
          obtain rfl := Option.some.inj (hp.symm.trans hp')
          obtain rfl := Except.ok.inj (hr.symm.trans hr')
          cases hx.symm.trans he

theorem run_ofExcept {α : Type} (x : Except ClientError α) (c : Client) :
    (ofExcept x : EStateM ClientError Client α).run c =
      match x with
      | .ok value => .ok value c
      | .error e => .error e c := by
  cases x <;> rfl

/-- A start goes through its parts in turn, and changes the client in the last step only. -/
theorem start_eq (c : Client) (a : Attempt) : c.start a =
    match c.prepare a.tree a.root with
    | .error e => (c, .error e)
    | .ok (root, url) =>
      match c.spawnWatcher a.notifier root with
      | .error e => (c, .error e)
      | .ok watcher =>
        match c.spawnServer a.host a.spawn root with
        | .error e => (c, .error e)
        | .ok child => (c.connect root url child watcher, .ok ()) := by
  simp only [start, starting, EStateM.run_bind, EStateM.run_get, run_ofExcept]
  cases c.prepare a.tree a.root with
  | error e => rfl
  | ok r =>
    cases hw : c.spawnWatcher a.notifier r.1 with
    | error e => simp only [hw]
    | ok watcher =>
      cases hx : c.spawnServer a.host a.spawn r.1 with
      | error e => simp only [hw, hx]
      | ok child => simp only [hw, hx, EStateM.run_modify]

/-- A start fails for the first hindrance and leaves the client as it was, or it begins the session
of an idle client. -/
theorem start_cases (c : Client) (a : Attempt) :
    (∃ e, c.start a = (c, .error e) ∧ c.FirstHindrance a e) ∨
    (c.session = none ∧ c.life = .idle ∧ c.Clear a 5 ∧ ∃ root url child watcher,
      c.start a = (c.connect root url child watcher, .ok ())) := by
  have hprepare := c.prepare_meets a
  rw [start_eq]
  cases hp : c.prepare a.tree a.root with
  | error e => exact Or.inl ⟨e, rfl, hprepare.first hp⟩
  | ok r =>
    obtain ⟨root, url⟩ := r
    obtain ⟨hs, hl, hr⟩ := prepare_ok hp
    have hwatcher := spawnWatcher_meets (hprepare.clear hp) hr
    cases hw : c.spawnWatcher a.notifier root with
    | error e => exact Or.inl ⟨e, by simp only [hw], hwatcher.first hw⟩
    | ok watcher =>
      have hserver := spawnServer_meets (hwatcher.clear hw) hr
      cases hx : c.spawnServer a.host a.spawn root with
      | error e => exact Or.inl ⟨e, by simp only [hw, hx], hserver.first hx⟩
      | ok child =>
        exact Or.inr ⟨hs, hl, hserver.clear hx, root, url, child, watcher, by simp only [hw, hx]⟩

theorem start_error_iff {e : ClientError} : (c.start a).2 = .error e ↔ c.FirstHindrance a e := by
  rcases c.start_cases a with
    ⟨e', hstart, hfirst⟩ | ⟨-, -, hclear, root, url, child, watcher, hstart⟩
  · rw [hstart]
    constructor
    · intro he
      exact Except.error.inj he ▸ hfirst
    · intro h
      exact congrArg Except.error (hfirst.eq h)
  · rw [hstart]
    exact iff_of_false nofun (hclear.not_first e)

theorem start_ok_iff : (c.start a).2 = .ok () ↔ ∀ stage e, ¬ c.Hinders a stage e := by
  rcases c.start_cases a with
    ⟨e, hstart, hfirst⟩ | ⟨-, -, hclear, root, url, child, watcher, hstart⟩
  · rw [hstart, ← clear_all_iff]
    exact iff_of_false nofun fun hclear => hclear.not_first e hfirst
  · rw [hstart]
    exact iff_of_true rfl (clear_all_iff.mp hclear)

theorem start_of_failed (h : (c.start a).2 ≠ .ok ()) : (c.start a).1 = c := by
  rcases c.start_cases a with ⟨e, hstart, -⟩ | ⟨-, -, -, root, url, child, watcher, hstart⟩
  · rw [hstart]
  · exact absurd (by rw [hstart]) h

theorem session_isSome_of_started (h : (c.start a).2 = .ok ()) : (c.start a).1.session.isSome := by
  rcases c.start_cases a with ⟨e, hstart, -⟩ | ⟨-, -, -, root, url, child, watcher, hstart⟩
  · rw [hstart] at h
    cases h
  · rw [hstart]
    rfl

theorem start_again (hs : c.session.isSome) (a : Attempt) :
    c.start a = (c, .error .alreadyStarted) := by
  have hagain : (c.start a).2 = .error .alreadyStarted :=
    start_error_iff.mpr ⟨.life, .started (Or.inl hs), clear_zero⟩
  exact Prod.ext (start_of_failed (by rw [hagain]; nofun)) hagain

/-- A start asks nothing of an idle client but its settings. -/
theorem start_of_idle (hs : c.session = none) (hl : c.life = .idle) (a : Attempt) :
    c.start a =
      let new := ({ settings := c.settings } : Client).start a
      ({ c with life := new.1.life, session := new.1.session }, new.2) := by
  let new : Client := { settings := c.settings }
  have hp : c.prepare a.tree a.root = new.prepare a.tree a.root := by simp [prepare, hs, hl, new]
  have hw : c.spawnWatcher = new.spawnWatcher := rfl
  have hx : c.spawnServer = new.spawnServer := rfl
  have hsame : { c with life := new.life, session := new.session } = c := by
    rw [show new.life = c.life from hl.symm, show new.session = c.session from hs.symm]
  rw [start_eq c, hp, hw, hx]
  change _ = ({ c with life := (new.start a).1.life, session := (new.start a).1.session },
    (new.start a).2)
  rw [start_eq new]
  cases new.prepare a.tree a.root with
  | error e => simp only [hsame]
  | ok r =>
    simp only
    cases new.spawnWatcher a.notifier r.1 with
    | error e => simp only [hsame]
    | ok watcher =>
      simp only
      cases new.spawnServer a.host a.spawn r.1 with
      | error e => simp only [hsame]
      | ok child => rfl

def starts (c : Client) (attempts : List Attempt) : Client :=
  attempts.foldl (fun c a => (c.start a).1) c

@[simp] theorem starts_concat (c : Client) (attempts : List Attempt) (a : Attempt) :
    c.starts (attempts ++ [a]) = ((c.starts attempts).start a).1 := by
  simp [starts]

def AllFail (c : Client) (attempts : List Attempt) : Prop :=
  ∀ before a, before ++ [a] <+: attempts → ((c.starts before).start a).2 ≠ .ok ()

theorem starts_of_allFail {attempts : List Attempt} (h : c.AllFail attempts) :
    c.starts attempts = c := by
  induction attempts using List.reverseRecOn with
  | nil => rfl
  | append_singleton attempts a ih =>
    have hbefore := ih fun before a' hb => h before a' (hb.trans ⟨[a], rfl⟩)
    have hlast := h attempts a List.prefix_rfl
    rw [hbefore] at hlast
    rw [starts_concat, hbefore, start_of_failed hlast]

end

end Client
end LspHost
