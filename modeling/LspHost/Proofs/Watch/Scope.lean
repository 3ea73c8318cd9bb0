import LspHost.Launch.Config
import LspHost.Proofs.Glob.Matching
import LspHost.Proofs.Path.Below
import LspHost.Watch.Notice

/-!
# Which paths a watch filter picks

A path is below the root if its components begin with those of the root, and then only what follows
them is matched. So filters with one glob and different roots pick the same paths below their
roots, and a directory whose name merely begins like that of the root is not taken for it. The glob
that is the default picks the files of one name at any depth.
-/

namespace LspHost.WatchFilter

variable {f : WatchFilter} {p rest : Path}

theorem isWatched_iff_of_below? (h : p.below? f.root = some rest) :
    f.isWatched p = true ↔ f.glob.pattern.Matches rest.bytes := by
  rw [isWatched, h, Option.getD_some, Glob.isMatch, Glob.Pattern.isMatch_iff]

theorem isWatched_iff_of_not_below (h : ¬f.root.components <+: p.components) :
    f.isWatched p = true ↔ f.glob.pattern.Matches p.bytes := by
  rw [← Path.below?_isSome_iff, Option.not_isSome_iff_eq_none] at h
  rw [isWatched, h, Option.getD_none, Glob.isMatch, Glob.Pattern.isMatch_iff]

/-- A name that begins like another one does not lead below it. -/
theorem not_prefix_of_longer_name {dir : Path} {n more : Bytes} {names : List Bytes}
    (hdir : dir.isAbsolute = true) (hn : Path.IsName n) (hlonger : Path.IsName (n ++ more))
    (hmore : more ≠ []) (hnames : ∀ m ∈ names, Path.IsName m) :
    ¬(dir.join ⟨n⟩).components <+:
      (dir.join ⟨Path.joinSlash ((n ++ more) :: names)⟩).components := by
  have hroot : (dir.join ⟨n⟩).components = dir.components ++ [.name n] :=
    Path.components_join_names hdir (List.forall_mem_singleton.mpr hn)
  have hpath := Path.components_join_names hdir (List.forall_mem_cons.mpr ⟨hlonger, hnames⟩)
  rw [hroot, hpath, List.prefix_append_right_inj, List.map_cons, List.cons_prefix_cons,
    Path.Component.name.injEq, List.self_eq_append_right]
  exact fun h => hmore h.1

theorem compileGlob_default : compileGlob ({} : Config).watchedGlob =
    .ok { source := "**/.clientrc"
          pattern := .ofTokens (.leading :: ".clientrc".toList.map .literal) } := by
  have htokens : Glob.readTokens "**/.clientrc" =
      .ok (.leading :: ".clientrc".toList.map .literal) := by
    decide
  rw [compileGlob, Glob.ofString, htokens]
  rfl

/-- The default glob picks the files of one name in any directory below the root. -/
theorem isWatched_default_iff {d : Glob} (hd : compileGlob ({} : Config).watchedGlob = .ok d)
    {root : Path} (h : p.below? root = some rest) (hrest : rest.components ≠ []) :
    isWatched { root, glob := d } p = true ↔ p.fileName? = some (Utf8.encode ".clientrc") := by
  obtain ⟨hcomponents, htrimmed⟩ := Path.components_of_below? h
  have hname : Path.IsName (Utf8.encode ".clientrc") := by decide
  have hlast : p.fileName? = rest.fileName? := by
    rw [Path.fileName?, Path.fileName?, hcomponents, List.getLast?_append_of_ne_nil _ hrest]
  rw [compileGlob_default] at hd
  obtain rfl := Except.ok.inj hd
  rw [isWatched_iff_of_below? h, hlast, Path.fileName?_eq_some_iff htrimmed hname,
    Path.getLast?_splitSlash_iff hname.slash_notMem]
  exact Glob.Pattern.matches_leading_literals_iff ".clientrc".toList

/-- What a filter picks below its root depends on the part of the path below it alone: it picks
what the glob matches there. A path is below the root if its components begin with those of the
root, which a directory with a longer name than the root's is not, and any other path is matched as
a whole. The default glob picks the files of one name at any depth below the root. -/
theorem isWatched_scope (g : Glob) :
    (∀ root root' : Path, root.isAbsolute = true → root'.isAbsolute = true →
      ∀ names : List Bytes, names ≠ [] → (∀ n ∈ names, Path.IsName n) →
        isWatched { root, glob := g } (root.join ⟨Path.joinSlash names⟩) =
            isWatched { root := root', glob := g } (root'.join ⟨Path.joinSlash names⟩) ∧
          (isWatched { root, glob := g } (root.join ⟨Path.joinSlash names⟩) = true ↔
            g.pattern.Matches (Path.joinSlash names))) ∧
    (∀ root p : Path, ((p.below? root).isSome ↔ root.components <+: p.components) ∧
      (¬root.components <+: p.components →
        (isWatched { root, glob := g } p = true ↔ g.pattern.Matches p.bytes))) ∧
    (∀ dir : Path, dir.isAbsolute = true → ∀ n more : Bytes, ∀ names : List Bytes,
      Path.IsName n → Path.IsName (n ++ more) → more ≠ [] → (∀ m ∈ names, Path.IsName m) →
        (dir.join ⟨Path.joinSlash ((n ++ more) :: names)⟩).below? (dir.join ⟨n⟩) = none) ∧
    ∃ d, compileGlob ({} : Config).watchedGlob = .ok d ∧
      ∀ root p : Path, root.components <+: p.components → root.components ≠ p.components →
        (isWatched { root, glob := d } p = true ↔
          p.fileName? = some (Utf8.encode ".clientrc")) := by
  refine ⟨fun root root' hroot hroot' names hne hnames => ?_, fun root p => ⟨?_, ?_⟩, ?_, ?_⟩
  · have hpicked : ∀ root : Path, root.isAbsolute = true →
        (isWatched { root, glob := g } (root.join ⟨Path.joinSlash names⟩) = true ↔
          g.pattern.Matches (Path.joinSlash names)) := fun root hroot =>
      isWatched_iff_of_below? (f := { root, glob := g }) (Path.below?_join hroot hnames hne)
    exact ⟨Bool.eq_iff_iff.mpr ((hpicked root hroot).trans (hpicked root' hroot').symm),
      hpicked root hroot⟩
  · exact Path.below?_isSome_iff p root
  · exact isWatched_iff_of_not_below (f := { root, glob := g })
  · intro dir hdir n more names hn hlonger hmore hnames
    rw [← Option.not_isSome_iff_eq_none, Path.below?_isSome_iff]
    exact not_prefix_of_longer_name hdir hn hlonger hmore hnames
  · refine ⟨_, compileGlob_default, fun root p hprefix hne => ?_⟩
    obtain ⟨rest, hrest⟩ := Option.isSome_iff_exists.mp ((Path.below?_isSome_iff p root).mpr hprefix)
    refine isWatched_default_iff compileGlob_default hrest fun hnil => hne ?_
    rw [(Path.components_of_below? hrest).1, hnil, List.append_nil]

end LspHost.WatchFilter
