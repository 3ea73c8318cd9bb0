import LspHost.Proofs.Watch.Creation

/-!
# What is reported of a rename

A rename comes as one notice of both sides, as a notice for each side, or as one that does not tell
the sides apart. The first two are always reported alike. The last one goes by what is found at its
paths. It is reported like the others if the old path is absent and the new ones are there, and
otherwise exactly if nothing would be reported of the paths that are found on the wrong side.

A directory that has come to a new path is searched, but nothing is searched for below the old one:
the only path ever reported as deleted is the old path itself. So a server is told of the files of a
directory that has moved at their new place, and goes on taking them to be at the old one.
-/

namespace LspHost

open LspHost.Path (IsName)

namespace FileEvent

theorem deleted_ne_created : deleted ≠ created := by decide

/-- A file stays there as long as no deletion of it is heard. -/
theorem heard_of_deleted_notMem {there : Url → Bool} {events : List FileEvent} {url : Url}
    (hthere : there url = true) (h : ⟨url, deleted⟩ ∉ events) : heard there events url = true := by
  have hkinds : ∀ k ∈ kindsOf url events, k ≠ deleted := by
    rintro k hk rfl
    obtain ⟨⟨url', kind⟩, he, rfl⟩ := List.mem_map.mp hk
    obtain ⟨hmem, hurl⟩ := List.mem_filter.mp he
    obtain rfl := of_decide_eq_true hurl
    exact h hmem
  rw [heard_apply, hthere]
  generalize kindsOf url events = kinds at hkinds
  induction kinds with
  | nil => rfl
  | cons k kinds ih =>
    obtain ⟨hk, hrest⟩ := List.forall_mem_cons.mp hkinds
    have hstays : hear true k = true := by
      by_contra hgone
      exact hk (eq_deleted_of_hear (Bool.eq_false_iff.mpr hgone))
    rw [List.foldl_cons, hstays, ih hrest]

end FileEvent

theorem Url.ofFilePath?_ne_of_pathBelow {p : Path} {names : List Bytes} {url : Url}
    (hne : names ≠ []) (hnames : ∀ n ∈ names, IsName n)
    (h : Url.ofFilePath? (FileTree.pathBelow p names) = some url) :
    Url.ofFilePath? p ≠ some url := by
  intro hp
  have habs : p.isAbsolute = true := by
    by_contra hrelative
    rw [ofFilePath?, if_neg hrelative] at hp
    cases hp
  have hjoined : (p.join ⟨Path.joinSlash names⟩).isAbsolute = true := by
    rw [Path.isAbsolute_join, habs, Bool.or_true]
  rw [FileTree.pathBelow_eq_join p hne hnames, ← hp, ofFilePath?_eq_iff hjoined habs,
    Path.components_join_names habs hnames, List.append_right_eq_self, List.map_eq_nil_iff] at h
  exact hne h

theorem FileTree.isDir_of_absent {t : FileTree} {p : Path} (h : t.exists? p = false) :
    t.isDir p = false := by
  rw [exists?] at h
  rw [isDir]
  cases he : t.entryAt? p with
  | ok e =>
    rw [he] at h
    cases h
  | error e => rfl

namespace WatchFilter

def foundKind (t : FileTree) (p : Path) : Int32 :=
  if t.exists? p then FileEvent.created else FileEvent.deleted

section Sides

variable (f : WatchFilter) (t : FileTree)

theorem changes_renamedFrom (olds : List Path) :
    f.changes t ⟨.renamedFrom, olds⟩ = olds.flatMap (f.pathEvents t · FileEvent.deleted) :=
  List.flatMap_map ..

theorem changes_renamedTo (news : List Path) :
    f.changes t ⟨.renamedTo, news⟩ = news.flatMap (f.pathEvents t · FileEvent.created) :=
  List.flatMap_map ..

theorem changes_renamedBoth (old : Path) (news : List Path) :
    f.changes t ⟨.renamedBoth, old :: news⟩ =
      f.changes t ⟨.renamedFrom, [old]⟩ ++ f.changes t ⟨.renamedTo, news⟩ := by
  rw [changes_renamedFrom, changes_renamedTo, List.flatMap_singleton, changes, Notice.pathKinds,
    List.flatMap_cons, List.flatMap_map]

theorem changes_renamed (paths : List Path) :
    f.changes t ⟨.renamed, paths⟩ = paths.flatMap fun p => f.pathEvents t p (foundKind t p) :=
  List.flatMap_map ..

variable {f t} {p : Path} {e : FileEvent}

theorem pathEvents_deleted : f.pathEvents t p FileEvent.deleted =
    if f.isWatched p then (eventOf p FileEvent.deleted).toList else [] := by
  rw [pathEvents, if_neg]
  exact fun h => FileEvent.deleted_ne_created h.1

theorem mem_changes_renamedFrom_iff :
    e ∈ f.changes t ⟨.renamedFrom, [p]⟩ ↔
      f.isWatched p = true ∧ Url.ofFilePath? p = some e.url ∧ e.kind = FileEvent.deleted := by
  rw [changes_renamedFrom, List.flatMap_singleton, pathEvents_deleted, List.mem_ite_nil_right,
    Option.mem_toList, eventOf_eq_some_iff]

theorem mem_changes_renamedTo_iff (ht : t.WellFormed) {news : List Path} :
    e ∈ f.changes t ⟨.renamedTo, news⟩ ↔ ∃ p ∈ news, ∃ q, f.Announces t p q ∧
      Url.ofFilePath? q = some e.url ∧ e.kind = FileEvent.created := by
  simp only [changes_renamedTo, List.mem_flatMap, mem_pathEvents_created_iff ht,
    eventOf_eq_some_iff]

theorem kind_of_mem_changes_renamedTo {news : List Path} (h : e ∈ f.changes t ⟨.renamedTo, news⟩) :
    e.kind = FileEvent.created := by
  rw [changes_renamedTo] at h
  obtain ⟨p, -, he⟩ := List.mem_flatMap.mp h
  exact or_self_iff.mp (kind_of_mem_pathEvents he)

section Both

variable {old : Path} {news : List Path} {url : Url}

theorem deleted_mem_changes_renamedBoth_iff :
    ⟨url, FileEvent.deleted⟩ ∈ f.changes t ⟨.renamedBoth, old :: news⟩ ↔
      f.isWatched old = true ∧ Url.ofFilePath? old = some url := by
  rw [changes_renamedBoth, List.mem_append, mem_changes_renamedFrom_iff]
  constructor
  · rintro (⟨hwatched, hurl, -⟩ | hcreated)
    · exact ⟨hwatched, hurl⟩
    · exact absurd (kind_of_mem_changes_renamedTo hcreated) FileEvent.deleted_ne_created
  · rintro ⟨hwatched, hurl⟩
    exact Or.inl ⟨hwatched, hurl, rfl⟩

theorem created_mem_changes_renamedBoth_iff (ht : t.WellFormed) :
    ⟨url, FileEvent.created⟩ ∈ f.changes t ⟨.renamedBoth, old :: news⟩ ↔
      ∃ p ∈ news, ∃ q, f.Announces t p q ∧ Url.ofFilePath? q = some url := by
  rw [changes_renamedBoth, List.mem_append, mem_changes_renamedFrom_iff,
    mem_changes_renamedTo_iff ht]
  constructor
  · rintro (⟨-, -, hkind⟩ | ⟨p, hp, q, hq, hurl, -⟩)
    · exact absurd hkind.symm FileEvent.deleted_ne_created
    · exact ⟨p, hp, q, hq, hurl⟩
  · rintro ⟨p, hp, q, hq, hurl⟩
    exact Or.inr ⟨p, hp, q, hq, hurl, rfl⟩

end Both

end Sides

section Agreement

variable {f : WatchFilter} {t : FileTree} {p : Path}

theorem pathEvents_created_eq_deleted_iff :
    f.pathEvents t p FileEvent.created = f.pathEvents t p FileEvent.deleted ↔
      f.pathEvents t p FileEvent.created = [] ∧ f.pathEvents t p FileEvent.deleted = [] := by
  refine ⟨fun h => ?_, fun h => h.1.trans h.2.symm⟩
  have hnil : f.pathEvents t p FileEvent.created = [] := by
    by_contra hne
    obtain ⟨e, he⟩ := List.exists_mem_of_ne_nil _ hne
    have hcreated : e.kind = FileEvent.created := or_self_iff.mp (kind_of_mem_pathEvents he)
    rw [h, pathEvents_deleted, List.mem_ite_nil_right, Option.mem_toList] at he
    exact FileEvent.deleted_ne_created ((kind_of_eventOf he.2).symm.trans hcreated)
  exact ⟨hnil, h ▸ hnil⟩

/-- What is reported of a path according to what is found there is as much as its creation would
be: where nothing is found, a creation is of the path itself, like a deletion. -/
theorem length_pathEvents_foundKind (p : Path) :
    (f.pathEvents t p (foundKind t p)).length =
      (f.pathEvents t p FileEvent.created).length := by
  rw [foundKind]
  cases h : t.exists? p with
  | true => rw [if_pos rfl]
  | false =>
    have hitself : ¬(FileEvent.created = FileEvent.created ∧ t.isDir p = true) := by
      rw [FileTree.isDir_of_absent h]
      exact fun h => Bool.false_ne_true h.2
    rw [if_neg Bool.false_ne_true, pathEvents_deleted, pathEvents, if_neg hitself]
    split
    · rw [Option.length_toList, Option.length_toList, eventOf, eventOf, Option.isSome_map,
        Option.isSome_map]
    · rfl

theorem pathEvents_foundKind_eq_deleted_iff :
    f.pathEvents t p (foundKind t p) = f.pathEvents t p FileEvent.deleted ↔
      (t.exists? p = true →
        f.changes t ⟨.renamedFrom, [p]⟩ = [] ∧ f.changes t ⟨.renamedTo, [p]⟩ = []) := by
  rw [changes_renamedFrom, changes_renamedTo, List.flatMap_singleton, List.flatMap_singleton,
    foundKind]
  cases t.exists? p with
  | true => simp only [if_pos, forall_const, pathEvents_created_eq_deleted_iff, and_comm]
  | false => simp

theorem pathEvents_foundKind_eq_created_iff :
    f.pathEvents t p (foundKind t p) = f.pathEvents t p FileEvent.created ↔
      (t.exists? p = false → f.changes t ⟨.renamedTo, [p]⟩ = []) := by
  have hlength := length_pathEvents_foundKind (f := f) (t := t) p
  rw [changes_renamedTo, List.flatMap_singleton]
  rw [foundKind] at hlength ⊢
  cases h : t.exists? p with
  | true => simp
  | false =>
    rw [h, if_neg Bool.false_ne_true] at hlength
    rw [if_neg Bool.false_ne_true, eq_comm, pathEvents_created_eq_deleted_iff,
      ← List.length_eq_zero_iff, ← List.length_eq_zero_iff, hlength, and_self]
    exact ⟨fun h _ => h, fun h => h rfl⟩

/-- A notice that does not tell the sides apart is reported like one that does, exactly if nothing
would be reported of the old path when something is found there, and of no new path at which nothing
is found. -/
theorem changes_renamed_eq_iff (f : WatchFilter) (t : FileTree) (old : Path) (news : List Path) :
    f.changes t ⟨.renamed, old :: news⟩ = f.changes t ⟨.renamedBoth, old :: news⟩ ↔
      (t.exists? old = true →
        f.changes t ⟨.renamedFrom, [old]⟩ = [] ∧ f.changes t ⟨.renamedTo, [old]⟩ = []) ∧
      ∀ p ∈ news, t.exists? p = false → f.changes t ⟨.renamedTo, [p]⟩ = [] := by
  have hnews : news.flatMap (fun p => f.pathEvents t p (foundKind t p)) =
        news.flatMap (f.pathEvents t · FileEvent.created) ↔
      ∀ p ∈ news, t.exists? p = false → f.changes t ⟨.renamedTo, [p]⟩ = [] := by
    -- the reports of each path are equally long, so they can be told apart in the joined lists
    have hlengths : (news.map fun p => f.pathEvents t p (foundKind t p)).map List.length =
        (news.map (f.pathEvents t · FileEvent.created)).map List.length := by
      rw [List.map_map, List.map_map]
      exact List.map_congr_left fun p _ => length_pathEvents_foundKind p
    have hparts := List.eq_iff_flatten_eq.trans (and_iff_left hlengths)
    rw [List.flatMap_def, List.flatMap_def, ← hparts, List.map_inj_left]
    exact forall₂_congr fun p _ => pathEvents_foundKind_eq_created_iff
  have hlength : (news.flatMap fun p => f.pathEvents t p (foundKind t p)).length =
      (news.flatMap (f.pathEvents t · FileEvent.created)).length := by
    simp only [List.length_flatMap, length_pathEvents_foundKind]
  rw [← pathEvents_foundKind_eq_deleted_iff, ← hnews, changes_renamed, changes_renamedBoth,
    List.flatMap_cons, changes_renamedFrom, List.flatMap_singleton, changes_renamedTo]
  exact ⟨fun h => List.append_inj' h hlength, fun h => congrArg₂ List.append h.1 h.2⟩

end Agreement

/-- Both sides of a rename in one notice are reported as each side by itself, and the new paths as
notices of their creation are, so that directories among them are searched all the same. A notice
that does not tell the sides apart is reported in the same way if the old path is absent and all new
ones exist. Otherwise it is exactly if there is nothing to report of the paths found on the wrong
side. -/
theorem changes_of_rename (f : WatchFilter) (t : FileTree) (old : Path) (news : List Path) :
    f.changes t ⟨.renamedBoth, old :: news⟩ =
        f.changes t ⟨.renamedFrom, [old]⟩ ++ f.changes t ⟨.renamedTo, news⟩ ∧
      f.changes t ⟨.renamedTo, news⟩ = news.flatMap (fun p => f.changes t ⟨.created, [p]⟩) ∧
      (t.exists? old = false → (∀ p ∈ news, t.exists? p = true) →
        f.changes t ⟨.renamed, old :: news⟩ = f.changes t ⟨.renamedBoth, old :: news⟩) ∧
      (f.changes t ⟨.renamed, old :: news⟩ = f.changes t ⟨.renamedBoth, old :: news⟩ ↔
        (t.exists? old = true →
          f.changes t ⟨.renamedFrom, [old]⟩ = [] ∧ f.changes t ⟨.renamedTo, [old]⟩ = []) ∧
        ∀ p ∈ news, t.exists? p = false → f.changes t ⟨.renamedTo, [p]⟩ = []) := by
  have hiff := changes_renamed_eq_iff f t old news
  refine ⟨changes_renamedBoth f t old news, ?_, fun hold hnews => ?_, hiff⟩
  · rw [changes_renamedTo]
    exact List.flatMap_congr fun p _ => (List.flatMap_singleton _ _).symm
  · rw [hiff, hold]
    exact ⟨nofun, fun p hp habsent => absurd (hnews p hp) (Bool.eq_false_iff.mp habsent)⟩

/-- A directory with a watched file below it is renamed along with a file. -/
theorem changes_of_rename_nested :
    let rc := Utf8.encode ".clientrc"
    let a := Utf8.encode "a"
    let t : FileTree :=
      { entries := [([a], .dir), ([a, rc], .file [] false), ([rc], .file [] false)]
        current := [] }
    let glob : Glob :=
      { source := "**/.clientrc"
        pattern := .ofTokens (.leading :: ".clientrc".toList.map .literal) }
    let f : WatchFilter := { root := Path.ofString "/", glob }
    let old := Path.ofString "/old/.clientrc"
    let news := [Path.ofString "/a", Path.ofString "/.clientrc"]
    let event (path : String) (kind : Int32) : FileEvent :=
      ⟨{ scheme := "file", authority := some {}, path }, kind⟩
    (t.exists? old = false ∧ ∀ p ∈ news, t.exists? p = true) ∧
      f.changes t ⟨.renamed, old :: news⟩ =
        [event "/old/.clientrc" FileEvent.deleted, event "/a/.clientrc" FileEvent.created,
          event "/.clientrc" FileEvent.created] := by
  intro rc a t glob f old news event
  have hold : t.exists? old = false := by decide +kernel
  have hnews : ∀ p ∈ news, t.exists? p = true := by decide +kernel
  refine ⟨⟨hold, hnews⟩, ?_⟩
  rw [(changes_of_rename f t old news).2.2.1 hold hnews]
  decide +kernel

theorem Announces.exists_below {f : WatchFilter} {t : FileTree} {p q : Path} (ht : t.WellFormed)
    (hp : t.isDir p = true) (h : f.Announces t p q) : f.isWatched q = true ∧
      ∃ names, names ≠ [] ∧ (∀ n ∈ names, IsName n) ∧ q = FileTree.pathBelow p names := by
  cases h with
  | itself hfile => exact absurd hp (Bool.eq_false_iff.mp hfile)
  | below _ _ hne hfile _ hwatched =>
    have hnames := (ht.stands hfile nofun).isName
    exact ⟨hwatched, _, hne, fun n hn => hnames n (List.mem_append_right _ hn), rfl⟩

/-- When a directory has come to a new path, nothing is reported as created but watched paths below
that path, and nothing as deleted but the old path, which is if it is watched. No path below the old
one is, so a server goes on taking the files that it knew there to be there. -/
theorem changes_of_moved_directory (f : WatchFilter) {t : FileTree} (ht : t.WellFormed)
    (old : Path) {new : Path} (hnew : t.isDir new = true) :
    (∀ url, ⟨url, FileEvent.created⟩ ∈ f.changes t ⟨.renamedBoth, [old, new]⟩ →
      ∃ names, names ≠ [] ∧ (∀ n ∈ names, IsName n) ∧
        f.isWatched (FileTree.pathBelow new names) = true ∧
        Url.ofFilePath? (FileTree.pathBelow new names) = some url) ∧
    (∀ url, ⟨url, FileEvent.deleted⟩ ∈ f.changes t ⟨.renamedBoth, [old, new]⟩ ↔
      f.isWatched old = true ∧ Url.ofFilePath? old = some url) ∧
    ∀ names, names ≠ [] → (∀ n ∈ names, IsName n) →
      ∀ url, Url.ofFilePath? (FileTree.pathBelow old names) = some url →
        ⟨url, FileEvent.deleted⟩ ∉ f.changes t ⟨.renamedBoth, [old, new]⟩ ∧
        ∀ there : Url → Bool, there url = true →
          FileEvent.heard there (f.batch t [⟨.renamedBoth, [old, new]⟩]) url = true := by
  refine ⟨fun url hcreated => ?_, fun url => deleted_mem_changes_renamedBoth_iff,
    fun names hne hnames url hurl => ?_⟩
  · obtain ⟨p, hp, q, hq, hurl⟩ := (created_mem_changes_renamedBoth_iff ht).mp hcreated
    obtain rfl := List.mem_singleton.mp hp
    obtain ⟨hwatched, names, hne, hnames, rfl⟩ := hq.exists_below ht hnew
    exact ⟨names, hne, hnames, hwatched, hurl⟩
  · have hnot : ⟨url, FileEvent.deleted⟩ ∉ f.changes t ⟨.renamedBoth, [old, new]⟩ := fun h =>
      Url.ofFilePath?_ne_of_pathBelow hne hnames hurl (deleted_mem_changes_renamedBoth_iff.mp h).2
    refine ⟨hnot, fun there hthere => ?_⟩
    rw [batch, List.flatMap_singleton,
      FileEvent.heard_coalesce there fun _ => telling_of_mem_changes]
    split
    · exact hthere
    · exact FileEvent.heard_of_deleted_notMem hthere hnot

/-- A directory that is watched itself has moved with two files, one of them in a directory of its
own. -/
theorem changes_of_moved_directory_nested :
    let a := Utf8.encode "a"
    let b := Utf8.encode "b"
    let c := Utf8.encode "c"
    let t : FileTree :=
      { entries := [([b], .dir), ([b, a], .file [] false), ([b, c], .dir),
          ([b, c, a], .file [] false)]
        current := [] }
    let glob : Glob := { source := "*", pattern := .star }
    let f : WatchFilter := { root := Path.ofString "/", glob }
    let old := Path.ofString "/a"
    let new := Path.ofString "/b"
    let moved : Notice := ⟨.renamedBoth, [old, new]⟩
    let url (path : String) : Url := { scheme := "file", authority := some {}, path }
    (t.WellFormed ∧ t.isDir new = true) ∧
      f.changes t moved =
        [⟨url "/a", FileEvent.deleted⟩, ⟨url "/b/a", FileEvent.created⟩,
          ⟨url "/b/c/a", FileEvent.created⟩] ∧
      FileEvent.heard (fun _ => true) (f.batch t [moved]) (url "/a/c/a") = true := by
  intro a b c t glob f old new moved url
  have ht : t.WellFormed := by decide +kernel
  have hnew : t.isDir new = true := by decide +kernel
  have hnames : ∀ n ∈ [c, a], IsName n := by decide
  refine ⟨⟨ht, hnew⟩, by decide +kernel, ?_⟩
  obtain ⟨-, -, hbelow⟩ := changes_of_moved_directory f ht old hnew
  exact (hbelow [c, a] (List.cons_ne_nil c [a]) hnames (url "/a/c/a") (by decide +kernel)).2 _ rfl

/-- A directory has moved with a file of the default name. The file is reported as created at the
new place, but not as deleted at the old one, although its path there is watched. -/
theorem not_deleted_below_moved :
    let rc := Utf8.encode ".clientrc"
    let t : FileTree :=
      { entries := [([Utf8.encode "new"], .dir), ([Utf8.encode "new", rc], .file [] false)]
        current := [] }
    let old := Path.ofString "/old"
    let new := Path.ofString "/new"
    let url (path : String) : Url := { scheme := "file", authority := some {}, path }
    (t.WellFormed ∧ t.exists? old = false ∧ t.isDir new = true) ∧
      ∃ f, WatchFilter.ofGlob (Path.ofString "/") ({} : Config).watchedGlob = .ok f ∧
        f.isWatched (old.join ⟨rc⟩) = true ∧
        Url.ofFilePath? (old.join ⟨rc⟩) = some (url "/old/.clientrc") ∧
        Url.ofFilePath? (new.join ⟨rc⟩) = some (url "/new/.clientrc") ∧
        ⟨url "/new/.clientrc", FileEvent.created⟩ ∈ f.changes t ⟨.renamedBoth, [old, new]⟩ ∧
        ⟨url "/old/.clientrc", FileEvent.deleted⟩ ∉ f.changes t ⟨.renamedBoth, [old, new]⟩ := by
  intro rc t old new url
  exact ⟨by decide +kernel, _, by rw [WatchFilter.ofGlob, compileGlob_default]; rfl,
    by decide +kernel⟩

end WatchFilter
end LspHost
