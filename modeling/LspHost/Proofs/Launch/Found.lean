import LspHost.Proofs.Launch.Activation
import LspHost.Proofs.Path.Text

/-!
# The file that was found and the command for it

Candidates are probed as paths, and the one that is found is handed on as a command, which is text.
The command names the file that was found if that path is text. If it is not, the command shows
U+FFFD where the path has other bytes, and names no candidate at all.
-/

namespace LspHost.Locator

open Utf8 (IsText)

section Search

variable (fallback : String) (world : List Path → Path → Sighting)

/-- A search ends with the first candidate that is present, or else with the fallback after probes
of which none said so. The induction is on the candidates that are left. -/
theorem search_found (ps made : List Path) :
    let found := (search fallback (look world) ps).run made
    ∃ probes, found.2 = made ++ probes ∧ probes <+: ps ∧
      ((found.1 = fallback ∧
          ∀ before p, before ++ [p] <+: probes → world (made ++ before) p ≠ .present) ∨
        ∃ before p, probes = before ++ [p] ∧ world (made ++ before) p = .present ∧
          found.1 = p.text) := by
  induction ps generalizing made with
  | nil =>
    refine ⟨[], (List.append_nil made).symm, List.nil_prefix, Or.inl ⟨rfl, ?_⟩⟩
    intro before p hfront
    exact absurd (List.prefix_nil.mp hfront) (List.append_ne_nil_of_right_ne_nil _ (by simp))
  | cons q rest ih =>
    dsimp only
    rw [run_search_cons]
    have hfirst : ∀ {before p}, before ++ [p] <+: [q] → before = [] ∧ p = q := by
      intro before p hfront
      cases before with
      | nil => exact ⟨rfl, (List.cons_prefix_cons.mp hfront).1⟩
      | cons first before =>
        have hrest := List.prefix_nil.mp (List.cons_prefix_cons.mp hfront).2
        exact absurd hrest (List.append_ne_nil_of_right_ne_nil _ (List.cons_ne_nil p []))
    cases hq : world made q with
    | present =>
      refine ⟨[q], rfl, (List.prefix_cons_inj q).mpr List.nil_prefix, Or.inr ⟨[], q, rfl, ?_, rfl⟩⟩
      rw [List.append_nil, hq]
    | unknown =>
      refine ⟨[q], rfl, (List.prefix_cons_inj q).mpr List.nil_prefix, Or.inl ⟨rfl, ?_⟩⟩
      intro before p hfront
      obtain ⟨rfl, rfl⟩ := hfirst hfront
      rw [List.append_nil, hq]
      nofun
    | absent =>
      obtain ⟨probes, hmade, hprobes, hfound⟩ := ih (made ++ [q])
      refine ⟨q :: probes, ?_, (List.prefix_cons_inj q).mpr hprobes, ?_⟩
      · rw [hmade, List.append_assoc, List.singleton_append]
      simp only [List.append_assoc, List.singleton_append] at hfound
      rcases hfound with ⟨hfallback, hnone⟩ | ⟨before, p, rfl, hpresent, htext⟩
      · refine Or.inl ⟨hfallback, fun before p hfront => ?_⟩
        cases before with
        | nil =>
          obtain rfl : p = q := (List.cons_prefix_cons.mp hfront).1
          rw [List.append_nil, hq]
          nofun
        | cons first before =>
          obtain ⟨rfl, hrest⟩ := List.cons_prefix_cons.mp hfront
          exact hnone before p hrest
      · exact Or.inr ⟨q :: before, p, rfl, hpresent, htext⟩

end Search

section Candidates

variable (extension : Path) (config : Config)

theorem isText_release_iff_debug :
    IsText (ofExtension extension config).release.bytes ↔
      IsText (ofExtension extension config).debug.bytes := by
  have hdir : ∀ (root : Path) (s : String), (Path.ofString s).isAbsolute = false →
      (IsText (root.join (.ofString s)).bytes ↔ IsText root.bytes) := by
    intro root s hs
    rw [Path.isText_join_iff hs]
    exact and_iff_left (Utf8.isText_encode s)
  simp only [ofExtension]
  generalize Path.join _ (.ofString "target") = target
  cases habs : (Path.ofString config.serverFileName).isAbsolute with
  | true => simp only [Path.join, habs, if_true]
  | false => rw [hdir _ _ habs, hdir _ _ habs, hdir _ _ (by decide), hdir _ _ (by decide)]

theorem isText_release (h : IsText extension.bytes) :
    IsText (ofExtension extension config).release.bytes := by
  have hup : IsText [Path.dot, Path.dot] := ⟨"..", rfl⟩
  have hroot := Path.isText_normalize (Path.isText_join (Path.isText_join h hup) hup)
  refine Path.isText_join (Path.isText_join (Path.isText_join hroot ?_) ?_) ?_
  all_goals exact Utf8.isText_encode _

theorem ofString_text_mem_iff {p : Path} :
    let l := ofExtension extension config
    p ∈ [l.release, l.debug] →
      (Path.ofString p.text ∈ [l.release, l.debug] ↔ IsText p.bytes) := by
  intro l hp
  have hrelease : ∀ q ∈ [l.release, l.debug], (IsText q.bytes ↔ IsText l.release.bytes) := by
    simp [l, isText_release_iff_debug]
  constructor
  · intro hmem
    have hshown : IsText (Path.ofString p.text).bytes := Utf8.isText_encode p.text
    rwa [hrelease _ hmem, ← hrelease p hp] at hshown
  · intro htext
    rwa [Path.ofString_text_iff.mpr htext]

end Candidates

/-- Without an override, the command is the bare name after probes of which none said `present`, or
it is made from the candidate whose probe said so, which was the last one. It names that candidate
byte for byte exactly if the candidate is text, and otherwise it names neither of the two. Both are
text or none is, and they are if the extension stands at a path that is text. -/
theorem found_or_fallback (extension : Path) (config : Config)
    (world : List Path → Path → Sighting) :
    let l := ofExtension extension config
    let found := (l.resolveWith none (look world)).run []
    let asPath := Path.ofString found.1
    found.2 <+: [l.release, l.debug] ∧
    ((found.1 = config.serverBinary ∧
        ∀ before p, before ++ [p] <+: found.2 → world before p ≠ .present) ∨
      ∃ before p, found.2 = before ++ [p] ∧ p ∈ [l.release, l.debug] ∧ world before p = .present ∧
        found.1 = p.text ∧ (asPath = p ↔ IsText p.bytes) ∧
        (asPath ∈ [l.release, l.debug] ↔ IsText p.bytes)) ∧
    (IsText l.release.bytes ↔ IsText l.debug.bytes) ∧
    (IsText extension.bytes → IsText l.release.bytes) := by
  intro l found asPath
  obtain ⟨probes, hprobes, hfront, hfound⟩ := search_found l.fallback world [l.release, l.debug] []
  simp only [List.nil_append] at hprobes hfound
  have hrecord : found.2 = probes := hprobes
  rw [hrecord]
  refine ⟨hfront, ?_, isText_release_iff_debug extension config, isText_release extension config⟩
  rcases hfound with ⟨hfallback, hnone⟩ | ⟨before, p, hlast, hpresent, htext⟩
  · exact Or.inl ⟨hfallback, hnone⟩
  · have hp : p ∈ [l.release, l.debug] :=
      hfront.subset (hlast ▸ List.mem_append_right before (List.mem_singleton_self p))
    have hpath : asPath = Path.ofString p.text := congrArg Path.ofString htext
    refine Or.inr ⟨before, p, hlast, hp, hpresent, htext, ?_, ?_⟩
    · rw [hpath, Path.ofString_text_iff]
    · rw [hpath]
      exact ofString_text_mem_iff extension config hp

/-- Below a directory whose name is no text, the command for the file that was found names another. -/
theorem found_elsewhere :
    let l := ofExtension ⟨[0x2F, 0xFF, 0x2F, 0x61, 0x2F, 0x62]⟩ {}
    let found := (l.resolveWith none (look fun _ _ => .present)).run []
    found.1 ≠ l.fallback ∧ found.2 = [l.release] ∧
      Path.ofString found.1 ∉ [l.release, l.debug] := by
  decide +kernel

end LspHost.Locator
