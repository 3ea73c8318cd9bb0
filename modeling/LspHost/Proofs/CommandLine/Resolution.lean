import LspHost.Proofs.Json.ReadBack
import LspHost.Proofs.Launch.Found
import LspHost.Rehearsal.Command

/-!
# What is reported and what would be started

The line and the report of a resolution name the same command, and the report names the candidates
that are probed. Paths are text in a report, so there is a report exactly for an extension that
stands at a path that is text. For any other the program breaks off, although the line can be written.
-/

namespace LspHost

open Utf8 (IsText)

def Json.member? (j : Json) (names : List String) : Option Json :=
  names.foldlM Json.get? j

namespace Resolution

theorem pathJson?_eq (p : Path) :
    pathJson? p = if IsText p.bytes then some (.str p.text) else none := by
  by_cases h : IsText p.bytes
  · obtain ⟨s, hs⟩ := h
    have hdecoded : Utf8.decode? p.bytes = some s := Utf8.decode?_eq_some_iff.mpr hs
    have htext : p.text = s := by rw [Path.text, hs, Utf8.decodeLossy_encode]
    rw [if_pos ⟨s, hs⟩, pathJson?, hdecoded, htext]
    rfl
  · have hnone : Utf8.decode? p.bytes = none := by
      rwa [Utf8.isText_iff_decode?, Bool.not_eq_true, Option.isSome_eq_false_iff,
        Option.isNone_iff_eq_none] at h
    rw [if_neg h, pathJson?, hnone]
    rfl

variable (config : Config) (extension : Path) (command : String)

/-- What a report says, its members in the order of their names. -/
def contents : Json :=
  let l := Locator.ofExtension extension config
  let executable : Json :=
    .obj [("args", .arr []), ("command", .str command),
      ("env", .obj [(config.logEnv, .str config.logLevel)]), ("inherit_env", .bool true)]
  .obj [("candidates", .obj [("debug", .str l.debug.text), ("release", .str l.release.text)]),
    ("extension_path", .str extension.text),
    ("server", .obj [("debug", executable), ("run", executable)])]

theorem toJson_inherited :
    (Executable.inherited command config).toJson = .obj [("command", .str command), ("args", .arr []),
      ("env", .obj [(config.logEnv, .str config.logLevel)]), ("inherit_env", .bool true)] := by
  have henv : (Executable.inherited command config).envJson =
      .obj [(Utf8.decodeLossy (Utf8.encode config.logEnv),
        .str (Utf8.decodeLossy (Utf8.encode config.logLevel)))] := rfl
  rw [Executable.toJson, henv, Utf8.decodeLossy_encode, Utf8.decodeLossy_encode]
  rfl

theorem reportText?_ofCommand :
    (ofCommand config extension command).reportText? =
      if IsText extension.bytes then some ((contents config extension command).indented ++ "\n")
      else none := by
  by_cases h : IsText extension.bytes
  · have hrelease := Locator.isText_release extension config h
    have hdebug := (Locator.isText_release_iff_debug extension config).mp hrelease
    rw [if_pos h, reportText?, report?, ofCommand, pathJson?_eq, pathJson?_eq, pathJson?_eq, if_pos h,
      if_pos hrelease, if_pos hdebug, Config.serverOptions, ServerOptions.toJson,
      ServerOptions.same, toJson_inherited]
    rfl
  · rw [if_neg h, reportText?, report?, ofCommand, pathJson?_eq, if_neg h]
    rfl

theorem plain_contents : Json.Plain 4 (contents config extension command) := by
  have hnone : ∀ {n : Nat}, ∀ m ∈ ([] : List (String × Json)), Json.Plain n m.2 := nofun
  have hmore : ∀ {n : Nat} {m : String × Json} {ms : List (String × Json)}, Json.Plain n m.2 →
      (∀ i ∈ ms, Json.Plain n i.2) → ∀ i ∈ m :: ms, Json.Plain n i.2 :=
    fun hm hms => List.forall_mem_cons.mpr ⟨hm, hms⟩
  have hexecutable : Json.Plain 2 (.obj [("args", .arr []), ("command", .str command),
      ("env", .obj [(config.logEnv, .str config.logLevel)]), ("inherit_env", .bool true)]) :=
    .obj (hmore (.arr nofun) (hmore (.str _) (hmore (.obj (hmore (.str _) hnone))
      (hmore (.bool _) hnone))))
  exact .obj (hmore (.obj (hmore (.str _) (hmore (.str _) hnone))) (hmore (.str _)
    (hmore (.obj (hmore hexecutable (hmore hexecutable hnone))) hnone)))

theorem ofString?_contents :
    Json.ofString? ((contents config extension command).indented ++ "\n") =
      some (contents config extension command) :=
  Json.ofString?_indented (plain_contents config extension command) (by decide)

end Resolution

/-- Without an override, both candidates are probed if neither is there; the probes made are always
the first of them, none or more. -/
theorem Locator.probes_of_find (l : Locator) (host : Environment) :
    (∀ world, ((l.find host (look world)).run []).2 <+: [l.release, l.debug]) ∧
    ((∀ command, ¬ l.Overridden host command) →
      ((l.find host (look fun _ _ => .absent)).run []).2 = [l.release, l.debug]) := by
  constructor
  · intro world
    obtain ⟨command, probes, h⟩ := l.exists_finds host world
    rw [h.run_find]
    cases h with
    | override => exact List.nil_prefix
    | release => exact List.prefix_append [l.release] [l.debug]
    | unclear => exact List.prefix_append [l.release] [l.debug]
    | debug => exact List.prefix_rfl
    | neither => exact List.prefix_rfl
  · intro hno
    have hneither : l.Finds host (fun _ _ => .absent) l.fallback [l.release, l.debug] :=
      .neither hno rfl nofun
    rw [hneither.run_find]

namespace Rehearsal

/-- Resolving always writes the command as a line. It writes a report exactly for an extension that
stands at a path that is text, and breaks off otherwise. A report that is read back names the command
of the line for both ways of running the server, and it names the two candidates: they are what is
probed as far as the search goes, and both are probed if there is no override and nothing is found. -/
theorem Stage.resolve_agrees (s : Stage) (extension : Path) :
    let l := Locator.ofExtension extension {}
    let command := l.resolve s.host s.tree
    let probes := fun world => ((l.find s.host (Locator.look world)).run []).2
    let plain := s.resolve extension false
    let written := s.resolve extension true
    plain.code = 0 ∧ plain.output = command ++ "\n" ∧
    (written.code = 0 ↔ IsText extension.bytes) ∧
    (written.code ≠ 0 → written = .abnormal) ∧
    (written.code = 0 → ∃ report release debug,
      Json.ofString? written.output = some report ∧
      (∀ mode ∈ ["run", "debug"], report.member? ["server", mode, "command"] = some (.str command)) ∧
      report.member? ["candidates", "release"] = some (.str release) ∧
      report.member? ["candidates", "debug"] = some (.str debug) ∧
      (∀ world, probes world <+: [.ofString release, .ofString debug]) ∧
      ((∀ command, ¬ l.Overridden s.host command) →
        probes (fun _ _ => .absent) = [.ofString release, .ofString debug])) := by
  intro l command probes plain written
  have hreport : (Resolution.resolve {} extension s.host s.tree).reportText? = _ :=
    Resolution.reportText?_ofCommand {} extension command
  by_cases htext : IsText extension.bytes
  · have hwritten : written =
        { output := (Resolution.contents {} extension command).indented ++ "\n" } := by
      simp only [written, Stage.resolve, hreport, if_pos htext, if_true]
    have hrelease := Locator.isText_release extension {} htext
    have hdebug := (Locator.isText_release_iff_debug extension {}).mp hrelease
    refine ⟨rfl, rfl, ?_, ?_, fun _ => ⟨Resolution.contents {} extension command, l.release.text,
      l.debug.text, ?_, ?_, rfl, rfl, ?_⟩⟩
    · rw [hwritten]
      exact iff_of_true rfl htext
    · rw [hwritten]
      exact fun h => absurd rfl h
    · rw [hwritten]
      exact Resolution.ofString?_contents {} extension command
    · intro mode hmode
      rcases List.mem_pair.mp hmode with rfl | rfl <;> rfl
    · rw [Path.ofString_text_iff.mpr hrelease, Path.ofString_text_iff.mpr hdebug]
      exact l.probes_of_find s.host
  · have hwritten : written = .abnormal := by
      simp only [written, Stage.resolve, hreport, if_neg htext, if_true]
    have hcode : written.code ≠ 0 := by
      rw [hwritten]
      intro h
      cases h
    exact ⟨rfl, rfl, iff_of_false hcode htext, fun _ => hwritten, fun h => absurd h hcode⟩

/-- An extension below a directory whose name is no text has a command, and no report. -/
theorem Stage.resolve_broken_off :
    let s : Stage := { tree := { entries := [], current := [] }, host := .empty, programs := [] }
    let extension : Path := ⟨[0x2F, 0xFF, 0x2F, 0x61, 0x2F, 0x62]⟩
    (s.resolve extension false).code = 0 ∧
      (s.resolve extension false).output = "margarine-lsp\n" ∧
      (s.resolve extension true).code = 101 := by
  decide +kernel

end Rehearsal
end LspHost
