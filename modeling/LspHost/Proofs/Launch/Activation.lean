import LspHost.Launch.Activation
import LspHost.Proofs.Client.Start
import LspHost.Proofs.Text.Utf8
import Mathlib.Data.List.Sort

/-!
# What an activation launches

Probing a candidate may end in any of three ways, and may end differently each time. `Finds` lists
the commands that an activation can come to, with the probes that lead there. The program that runs
the command gets no arguments and the host's environment with one variable set, in debug mode as
otherwise, and no other program is launched.
-/

namespace LspHost

namespace Environment

theorem lookup_insertVar (name value key : Bytes) (vars : List (Bytes × Bytes)) :
    (insertVar name value vars).lookup key =
      if name = key then some value else vars.lookup key := by
  fun_induction insertVar name value vars <;> grind

theorem get?_insert (e : Environment) (name value key : Bytes) :
    (e.insert name value).get? key = if name = key then some value else e.get? key :=
  lookup_insertVar name value key e.vars

theorem get?_eq_some_iff (e : Environment) {key value : Bytes} :
    e.get? key = some value ↔ (key, value) ∈ e.vars := by
  obtain ⟨vars, sorted⟩ := e
  rw [get?]
  induction vars with
  | nil => simp
  | cons var rest ih =>
    obtain ⟨hfirst, hrest⟩ := List.pairwise_cons.mp sorted
    have hrest := ih hrest
    -- the first name is none of the others, so it is not found among them either
    grind [List.lt_irrefl]

theorem eq_of_get? {e e' : Environment} (h : ∀ key, e.get? key = e'.get? key) : e = e' := by
  have hirrefl : Std.Irrefl fun x y : Bytes × Bytes => x.1 < y.1 := ⟨fun x => List.lt_irrefl x.1⟩
  have hvars : e.vars = e'.vars := e.sorted.eq_of_mem_iff e'.sorted fun ⟨key, value⟩ => by
    rw [← get?_eq_some_iff, ← get?_eq_some_iff, h]
  cases e
  cases e'
  congr

end Environment

theorem Executable.invocation_inherited (command : String) (config : Config)
    (host : Environment) (dir : Path) : (inherited command config).invocation host dir =
      { program := command
        args := []
        env := host.insert (Utf8.encode config.logEnv) (Utf8.encode config.logLevel)
        dir } :=
  rfl

namespace Locator

/-- The environment sets the override variable to a command. -/
def Overridden (l : Locator) (host : Environment) (command : String) : Prop :=
  command ≠ "" ∧ host.get? (Utf8.encode l.overrideEnv) = some (Utf8.encode command)

/-- A probe that is kept on record, and whose outcome may depend on the probes before it. -/
def look (world : List Path → Path → Sighting) (p : Path) : StateM (List Path) Sighting :=
  fun made => (world made p, made ++ [p])

/-- The command that the server is to be run by, and the probes that are made for it. -/
inductive Finds (l : Locator) (host : Environment) (world : List Path → Path → Sighting) :
    String → List Path → Prop
  | override {command : String} (h : l.Overridden host command) : Finds l host world command []
  | release (hno : ∀ command, ¬ l.Overridden host command) (hr : world [] l.release = .present) :
      Finds l host world l.release.text [l.release]
  | unclear (hno : ∀ command, ¬ l.Overridden host command) (hr : world [] l.release = .unknown) :
      Finds l host world l.fallback [l.release]
  | debug (hno : ∀ command, ¬ l.Overridden host command) (hr : world [] l.release = .absent)
      (hd : world [l.release] l.debug = .present) :
      Finds l host world l.debug.text [l.release, l.debug]
  | neither (hno : ∀ command, ¬ l.Overridden host command) (hr : world [] l.release = .absent)
      (hd : world [l.release] l.debug ≠ .present) :
      Finds l host world l.fallback [l.release, l.debug]

section

variable {l : Locator} {host : Environment} {world : List Path → Path → Sighting}

theorem override?_eq_some_iff {command : String} :
    l.override? host = some command ↔ l.Overridden host command := by
  simp only [override?, Option.filter_eq_some_iff, Option.bind_eq_some_iff,
    Utf8.decode?_eq_some_iff, Overridden, decide_eq_true_eq]
  constructor
  · rintro ⟨⟨bytes, hget, rfl⟩, hne⟩
    exact ⟨hne, hget⟩
  · rintro ⟨hne, hget⟩
    exact ⟨⟨_, hget, rfl⟩, hne⟩

theorem run_search_cons (fallback : String) (p : Path) (rest made : List Path) :
    (search fallback (look world) (p :: rest)).run made =
      match world made p with
      | .present => (p.text, made ++ [p])
      | .absent => (search fallback (look world) rest).run (made ++ [p])
      | .unknown => (fallback, made ++ [p]) := by
  rw [search, StateT.run_bind]
  change StateT.run (match world made p with
    | .present => _
    | .absent => _
    | .unknown => _) _ = _
  cases world made p <;> rfl

theorem search_eq_run (fallback : String) (world : Path → Sighting) (ps made : List Path) :
    Id.run (search fallback (fun p => pure (world p)) ps) =
      ((search fallback (look fun _ => world) ps).run made).1 := by
  induction ps generalizing made with
  | nil => rfl
  | cons p rest ih =>
    rw [run_search_cons, search]
    change Id.run (match world p with
      | .present => _
      | .absent => _
      | .unknown => _) = _
    cases world p with
    | present => rfl
    | absent => exact ih (made ++ [p])
    | unknown => rfl

theorem run_find_of_overridden {command : String} (h : l.Overridden host command) :
    (l.find host (look world)).run [] = (command, []) := by
  rw [find, override?_eq_some_iff.mpr h]
  rfl

theorem run_find_of_not_overridden (hno : ∀ command, ¬ l.Overridden host command) :
    (l.find host (look world)).run [] =
      (search l.fallback (look world) [l.release, l.debug]).run [] := by
  have hnone : l.override? host = none :=
    Option.eq_none_iff_forall_ne_some.mpr fun command h => hno command (override?_eq_some_iff.mp h)
  rw [find, hnone]
  rfl

theorem Finds.run_find {command : String} {probes : List Path}
    (h : l.Finds host world command probes) :
    (l.find host (look world)).run [] = (command, probes) := by
  cases h with
  | override h => exact run_find_of_overridden h
  | release hno hr =>
    rw [run_find_of_not_overridden hno, run_search_cons, hr]
    rfl
  | unclear hno hr =>
    rw [run_find_of_not_overridden hno, run_search_cons, hr]
    rfl
  | debug hno hr hd =>
    rw [run_find_of_not_overridden hno, run_search_cons, hr]
    simp only [List.nil_append]
    rw [run_search_cons, hd]
    rfl
  | neither hno hr hd =>
    rw [run_find_of_not_overridden hno, run_search_cons, hr]
    simp only [List.nil_append]
    rw [run_search_cons]
    cases hd' : world [l.release] l.debug with
    | present => exact absurd hd' hd
    | absent => rfl
    | unknown => rfl

variable (l host world)

theorem exists_finds : ∃ command probes, l.Finds host world command probes := by
  by_cases hno : ∀ command, ¬ l.Overridden host command
  · cases hr : world [] l.release with
    | present => exact ⟨_, _, .release hno hr⟩
    | unknown => exact ⟨_, _, .unclear hno hr⟩
    | absent =>
      by_cases hd : world [l.release] l.debug = .present
      · exact ⟨_, _, .debug hno hr hd⟩
      · exact ⟨_, _, .neither hno hr hd⟩
  · obtain ⟨command, h⟩ := not_forall_not.mp hno
    exact ⟨command, [], .override h⟩

theorem resolve_eq_run (t : FileTree) :
    l.resolve host t = ((l.find host (look fun _ => sight t)).run []).1 := by
  rw [resolve, find, find, resolveWith, resolveWith]
  cases l.override? host with
  | some command => rfl
  | none => exact search_eq_run l.fallback (sight t) [l.release, l.debug] []

end

end Locator

theorem Config.executable_client (config : Config) (command : String) (debug : Bool) :
    (config.client command debug).executable = .inherited command config := by
  cases debug <;> rfl

namespace Activation

variable (a : Activation) (config : Config) (host : Environment) (t : FileTree)
  (spawn : Invocation → Except SystemError Unit)

theorem run_startBy (world : List Path → Path → Sighting) :
    (a.startBy config host (Locator.look world) t spawn).run [] =
      let found := ((Locator.ofExtension a.extension config).find host (Locator.look world)).run []
      (a.startWith config host t spawn found.1, found.2) := by
  rw [startBy, StateT.run_bind]
  rfl

theorem start_eq_run : a.start config host t spawn =
    ((a.startBy config host (Locator.look fun _ => Locator.sight t) t spawn).run []).1 := by
  have hstart : a.start config host t spawn = a.startWith config host t spawn
    ((Locator.ofExtension a.extension config).resolve host t) := rfl
  rw [hstart, run_startBy, Locator.resolve_eq_run]

/-- A start for a command either fails without regard to the program that it is to launch, or it
launches that program and does nothing else before the session begins. -/
theorem startWith_cases (extension workspace : Path) (command : String) :
    (∃ e, ∀ debug,
      (config.client command debug).FirstHindrance { tree := t, root := workspace } e ∧
      ∀ spawn, startWith { extension, workspace, debug } config host t spawn command = .error e) ∨
    ∃ root, t.canonicalize workspace = .ok root ∧ ∀ debug, ∃ c, ∀ spawn,
      startWith { extension, workspace, debug } config host t spawn command =
        match spawn
          { program := command
            args := []
            env := host.insert (Utf8.encode config.logEnv) (Utf8.encode config.logLevel)
            dir := root } with
        | .ok () => .ok c
        | .error e => .error (.serverStartFailed
            ("failed to spawn '" ++ command ++ "': " ++ e.message)) := by
  -- what is got together before the program does not depend on the mode
  have hprepare : ∀ debug, (config.client command debug).prepare t workspace =
      (config.client command false).prepare t workspace := fun _ => rfl
  have hwatcher : ∀ debug, (config.client command debug).spawnWatcher =
      (config.client command false).spawnWatcher := fun _ => rfl
  cases hp : (config.client command false).prepare t workspace with
  | error e =>
    refine Or.inl ⟨e, fun debug => ⟨Client.start_error_iff.mp ?_, fun spawn => ?_⟩⟩
    · rw [Client.start_eq, hprepare, hp]
    · rw [startWith, Client.start_eq, hprepare, hp]
  | ok r =>
    obtain ⟨root, url⟩ := r
    cases hw : (config.client command false).spawnWatcher (.ofTree t) root with
    | error e =>
      refine Or.inl ⟨e, fun debug => ⟨Client.start_error_iff.mp ?_, fun spawn => ?_⟩⟩
      · simp only [Client.start_eq, hprepare, hp, hwatcher, hw]
      · simp only [startWith, Client.start_eq, hprepare, hp, hwatcher, hw]
    | ok watcher =>
      refine Or.inr ⟨root, (Client.prepare_ok hp).2.2, fun debug =>
        ⟨(config.client command debug).connect root url (some .running) watcher, fun spawn => ?_⟩⟩
      simp only [startWith, Client.start_eq, hprepare, hp, hwatcher, hw, Client.spawnServer,
        config.executable_client, Executable.invocation_inherited]
      cases spawn _ <;> rfl

theorem exists_connect {c : Client} (h : a.start config host t spawn = .ok c) :
    ∃ command root url child watcher,
      c = (config.client command a.debug).connect root url child watcher := by
  obtain ⟨command, hcommand⟩ : ∃ command, a.startWith config host t spawn command = .ok c := ⟨_, h⟩
  unfold startWith at hcommand
  rcases (config.client command a.debug).start_cases
      { tree := t, root := a.workspace, host, spawn } with
    ⟨e, hstart, -⟩ | ⟨-, -, -, root, url, child, watcher, hstart⟩
  · rw [hstart] at hcommand
    cases hcommand
  · rw [hstart] at hcommand
    exact ⟨command, root, url, child, watcher, (Except.ok.inj hcommand).symm⟩

end Activation

/-- An activation launches the command that the override, the release build or the debug build comes
to, or else the bare name. The builds are looked for two levels above the extension. The program is
started in the workspace, with no arguments and the host's environment with the server's log turned
on. The activation makes the probes that lead to the command and no others. Whether in debug mode or
not, no other program is launched, and this one is unless the start fails without it. Probing the
files is the case in which a candidate looks the same each time. -/
theorem Activation.launches_found (extension workspace : Path) (config : Config)
    (host : Environment) (world : List Path → Path → Sighting) (t : FileTree) :
    let above := (extension.join (.ofString "..")).join (.ofString "..")
    let built (kind : String) : Path :=
      ((above.normalize.join (.ofString "target")).join (.ofString kind)).join
        (.ofString config.serverBinary)
    let l : Locator :=
      { release := built "release"
        debug := built "debug"
        fallback := config.serverBinary
        overrideEnv := config.serverPathEnv }
    ∃ command probes env,
      (∀ command' probes', l.Finds host world command' probes' ↔
        command' = command ∧ probes' = probes) ∧
      (∀ env' : Environment, (∀ key, env'.get? key =
          if Utf8.encode config.logEnv = key then some (Utf8.encode config.logLevel)
          else host.get? key) ↔ env' = env) ∧
      let run := fun debug world spawn =>
        (startBy { extension, workspace, debug } config host (Locator.look world) t spawn).run []
      (∀ debug spawn, start { extension, workspace, debug } config host t spawn =
        (run debug (fun _ => Locator.sight t) spawn).1) ∧
      (∀ debug spawn, (run debug world spawn).2 = probes) ∧
      ((∃ e, ∀ debug,
          (config.client command debug).FirstHindrance { tree := t, root := workspace } e ∧
          ∀ spawn, (run debug world spawn).1 = .error e) ∨
        ∃ root, t.canonicalize workspace = .ok root ∧ ∀ debug, ∃ c, ∀ spawn,
          (run debug world spawn).1 =
            match spawn { program := command, args := [], env, dir := root } with
            | .ok () => .ok c
            | .error e => .error (.serverStartFailed
                ("failed to spawn '" ++ command ++ "': " ++ e.message))) := by
  intro above built l
  have hl : Locator.ofExtension extension config = l := rfl
  obtain ⟨command, probes, h⟩ := l.exists_finds host world
  refine ⟨command, probes,
    host.insert (Utf8.encode config.logEnv) (Utf8.encode config.logLevel),
    fun command' probes' => ⟨fun h' => ?_, ?_⟩, fun env' => ⟨fun h' => ?_, ?_⟩,
    fun debug => start_eq_run _ config host t, fun debug spawn => ?_, ?_⟩
  · exact Prod.mk.inj (h'.run_find.symm.trans h.run_find)
  · rintro ⟨rfl, rfl⟩
    exact h
  · exact Environment.eq_of_get? fun key => by rw [h', Environment.get?_insert]
  · rintro rfl key
    rw [Environment.get?_insert]
  · simp only [run_startBy, hl, h.run_find]
  · simp only [run_startBy, hl, h.run_find]
    exact startWith_cases config host t extension workspace command

/-- Only the debug build is there, the override is empty, and the host has a log level of its own. -/
theorem Activation.launches_found_debug :
    let encode := Utf8.encode
    let build : Place := [encode "src", encode "target", encode "debug"]
    let t : FileTree :=
      { entries := [(build.take 1, .dir), (build.take 2, .dir), (build, .dir),
          (build ++ [encode "margarine-lsp"], .file [] true), ([encode "w"], .dir)]
        current := [] }
    let host : Environment :=
      .ofList [(encode "RUST_LOG", encode "off"), (encode "SERVER_PATH", []),
        (encode "PATH", encode "/bin")]
    let a : Activation :=
      { extension := Path.ofString "/src/editors/ext", workspace := Path.ofString "/w/." }
    let launched : Invocation :=
      { program := "/src/target/debug/margarine-lsp"
        args := []
        env := .ofList [(encode "PATH", encode "/bin"), (encode "RUST_LOG", encode "debug"),
          (encode "SERVER_PATH", [])]
        dir := Path.ofString "/w" }
    ∃ c, ∀ spawn, a.start {} host t spawn = match spawn launched with
      | .ok () => .ok c
      | .error e => .error (.serverStartFailed
          ("failed to spawn '/src/target/debug/margarine-lsp': " ++ e.message)) := by
  intro encode build t host a launched
  let l := Locator.ofExtension a.extension {}
  have hno : ∀ command, ¬ l.Overridden host command := fun command h => by
    have hnone : l.override? host = none := by decide +kernel
    cases hnone.symm.trans (Locator.override?_eq_some_iff.mpr h)
  obtain ⟨command, probes, env, hfinds, henv, hruns⟩ :=
    launches_found a.extension a.workspace {} host (fun _ => Locator.sight t) t
  have hfound : l.Finds host (fun _ => Locator.sight t) l.debug.text [l.release, l.debug] :=
    .debug hno (by decide +kernel) (by decide +kernel)
  have hcommand : l.debug.text = launched.program := by decide +kernel
  obtain ⟨rfl, -⟩ := (hfinds _ _).mp hfound
  obtain rfl : launched.env = env := (henv _).mp fun key => by
    have hset : launched.env = host.insert (encode "RUST_LOG") (encode "debug") := by
      decide +kernel
    rw [hset, Environment.get?_insert]
  obtain ⟨hstart, -, ⟨e, hfails⟩ | ⟨root, hroot, hlaunches⟩⟩ := hruns
  · have hstarts : (a.start {} host t fun _ => .ok ()).toBool = true := by decide +kernel
    have hfails := (hstart false fun _ => .ok ()).trans ((hfails false).2 _)
    cases hstarts.symm.trans (congrArg Except.toBool hfails)
  · obtain ⟨c, hlaunches⟩ := hlaunches false
    obtain rfl : root = launched.dir := Except.ok.inj (hroot.symm.trans (by decide +kernel))
    refine ⟨c, fun spawn => ?_⟩
    rw [hstart, hlaunches, hcommand]
    rfl

end LspHost
