import LspHost.Proofs.FileEvent.Hearing
import LspHost.Proofs.FileTree.Walk
import LspHost.Proofs.Path.Normal
import LspHost.Proofs.Url.FilePath
import LspHost.Proofs.Watch.Scope

/-!
# What is reported of created paths

A created directory stands for the watched files below it, and any other created path for itself.
Merged, the notices of a batch come to one event for each path that they report, in the order in
which the paths were first reported. No such path is one that a lookup finds to be a directory. What
is below a directory that cannot be listed is not reported, and neither is that anything is missing.
-/

namespace LspHost.WatchFilter

open LspHost.Path (IsName joinSlash)

variable {f : WatchFilter} {t : FileTree} {notices : List Notice} {p q : Path}

/-- What the creation of a path tells about: the path itself if no directory is found there, and
otherwise the files below the directory to which the way is open. Links below it are not followed,
as the places of the files continue that of the directory. -/
inductive Announces (f : WatchFilter) (t : FileTree) (p : Path) : Path → Prop
  | itself (hfile : t.isDir p = false) (hwatched : f.isWatched p = true) : Announces f t p p
  | below {place : Place} {names : List Bytes} {contents : Bytes} {executable : Bool}
      (hplace : t.place? p = .ok place) (hdir : t.isDirAt place = true) (hne : names ≠ [])
      (hfile : t.entry? (place ++ names) = some (.file contents executable))
      (hopen : t.OpenTo p place names)
      (hwatched : f.isWatched (FileTree.pathBelow p names) = true) :
      Announces f t p (FileTree.pathBelow p names)

theorem announces_iff_of_isDir (ht : t.WellFormed) (hp : t.isDir p = true) :
    f.Announces t p q ↔ q ∈ (t.filePathsBelow p).filter f.isWatched := by
  obtain ⟨place, hplace, hdir⟩ := FileTree.isDir_eq_true_iff.mp hp
  rw [List.mem_filter, ht.mem_filePathsBelow_iff hplace]
  constructor
  · intro h
    cases h with
    | itself hfile => exact absurd hp (Bool.eq_false_iff.mp hfile)
    | below hplace' _ hne hfile hopen hwatched =>
      obtain rfl := Except.ok.inj (hplace.symm.trans hplace')
      exact ⟨⟨_, hne, hopen, ⟨_, _, hfile⟩, rfl⟩, hwatched⟩
  · rintro ⟨⟨names, hne, hopen, ⟨contents, executable, hfile⟩, rfl⟩, hwatched⟩
    exact .below hplace hdir hne hfile hopen hwatched

theorem announces_iff_of_not_isDir (hp : t.isDir p = false) :
    f.Announces t p q ↔ f.isWatched p = true ∧ q = p := by
  constructor
  · intro h
    cases h with
    | itself _ hwatched => exact ⟨hwatched, rfl⟩
    | below hplace hdir =>
      rw [FileTree.isDir_eq_true_iff.mpr ⟨_, hplace, hdir⟩] at hp
      cases hp
  · rintro ⟨hwatched, rfl⟩
    exact .itself hp hwatched

theorem mem_pathEvents_created_iff (ht : t.WellFormed) {e : FileEvent} :
    e ∈ f.pathEvents t p FileEvent.created ↔
      ∃ q, f.Announces t p q ∧ eventOf q FileEvent.created = some e := by
  rw [pathEvents]
  cases hp : t.isDir p with
  | true =>
    rw [if_pos ⟨rfl, rfl⟩, List.mem_filterMap]
    exact exists_congr fun q => and_congr_left fun _ => (announces_iff_of_isDir ht hp).symm
  | false =>
    rw [if_neg (by simp), List.mem_ite_nil_right, Option.mem_toList]
    simp only [announces_iff_of_not_isDir hp, and_assoc, exists_eq_left, and_left_comm]

theorem pathEvents_created_eq_nil (ht : t.WellFormed) (hnone : ∀ q, ¬f.Announces t p q) :
    f.pathEvents t p FileEvent.created = [] := by
  refine List.eq_nil_iff_forall_not_mem.mpr fun e he => ?_
  obtain ⟨q, hq, -⟩ := (mem_pathEvents_created_iff ht).mp he
  exact hnone q hq

theorem flatMap_changes_of_created (hnotices : ∀ n ∈ notices, n.kind = .created) :
    notices.flatMap (f.changes t) =
      (notices.flatMap Notice.paths).flatMap (f.pathEvents t · FileEvent.created) := by
  rw [List.flatMap_assoc]
  refine List.flatMap_congr fun n hn => ?_
  rw [changes, Notice.pathKinds, hnotices n hn, List.flatMap_map]

section Normal

variable {dir : Place} (hnames : ∀ n ∈ dir, IsName n)

include hnames

theorem Announces.exists_names (ht : t.WellFormed) (h : f.Announces t (FileTree.pathOf dir) q) :
    ∃ names, (∀ n ∈ names, IsName n) ∧ q = FileTree.pathOf names := by
  cases h with
  | itself => exact ⟨dir, hnames, rfl⟩
  | below _ _ _ hfile => exact ⟨_, (ht.stands hfile nofun).pathBelow hnames⟩

theorem Announces.isDir_eq_false (ht : t.WellFormed)
    (h : f.Announces t (FileTree.pathOf dir) q) : t.isDir q = false := by
  cases h with
  | itself hfile => exact hfile
  | below hplace _ _ hfile =>
    have hstands := ht.stands hfile nofun
    rw [(hstands.pathBelow hnames).2, Bool.eq_false_iff, ne_eq, FileTree.isDir_eq_true_iff]
    rintro ⟨place', hplace', hdir⟩
    have hreach := ht.reach?_below hnames (FileTree.reach?_of_place? hplace) hstands
    obtain rfl := Except.ok.inj ((FileTree.reach?_of_place? hplace').symm.trans hreach)
    rw [FileTree.isDirAt, hfile] at hdir
    cases of_decide_eq_true hdir

end Normal

/-- Merged, notices of the creation of absolute paths in normal form come to one event of creation
for each path that they announce and to nothing else. Different paths have different URLs, no path
is found to be a directory, and the events are in the order in which they were first reported. -/
theorem batch_of_created (f : WatchFilter) (ht : t.WellFormed)
    (hnotices : ∀ n ∈ notices, n.kind = .created)
    (hpaths : ∀ p ∈ notices.flatMap Notice.paths, p.isAbsolute = true ∧ p.normalize = p) :
    (∀ e, e ∈ f.batch t notices ↔ ∃ p ∈ notices.flatMap Notice.paths, ∃ q, f.Announces t p q ∧
      eventOf q FileEvent.created = some e) ∧
    (∀ p ∈ notices.flatMap Notice.paths, ∀ q, f.Announces t p q →
      (eventOf q FileEvent.created).isSome ∧ t.isDir q = false ∧
      ∀ p' ∈ notices.flatMap Notice.paths, ∀ q', f.Announces t p' q' →
        eventOf q FileEvent.created = eventOf q' FileEvent.created → q = q') ∧
    ((f.batch t notices).map FileEvent.url).Nodup ∧
    f.batch t notices =
      ((notices.flatMap Notice.paths).flatMap (f.pathEvents t · FileEvent.created)).eraseDups := by
  have hraw : ∀ e, e ∈ notices.flatMap (f.changes t) ↔ ∃ p ∈ notices.flatMap Notice.paths,
      ∃ q, f.Announces t p q ∧ eventOf q FileEvent.created = some e := by
    intro e
    rw [flatMap_changes_of_created hnotices, List.mem_flatMap]
    exact exists_congr fun p => and_congr_right fun _ => mem_pathEvents_created_iff ht
  have hbatch : f.batch t notices = (notices.flatMap (f.changes t)).eraseDups :=
    FileEvent.coalesce_of_created fun e he => by
      obtain ⟨p, -, q, -, hq⟩ := (hraw e).mp he
      exact kind_of_eventOf hq
  have hform : ∀ p ∈ notices.flatMap Notice.paths, ∀ q, f.Announces t p q →
      t.isDir q = false ∧ ∃ names, (∀ n ∈ names, IsName n) ∧ q = FileTree.pathOf names := by
    intro p hp q hq
    obtain ⟨habs, hnormal⟩ := hpaths p hp
    obtain ⟨dir, hnames, rfl⟩ := Path.exists_names_of_normalize habs hnormal
    exact ⟨hq.isDir_eq_false hnames ht, hq.exists_names hnames ht⟩
  refine ⟨fun e => ?_, fun p hp q hq => ?_, FileEvent.distinct_coalesce _, ?_⟩
  · rw [hbatch, List.mem_eraseDups, hraw]
  · obtain ⟨hdir, names, hnames, rfl⟩ := hform p hp q hq
    refine ⟨rfl, hdir, fun p' hp' q' hq' heq => ?_⟩
    obtain ⟨-, names', hnames', rfl⟩ := hform p' hp' q' hq'
    have hurl := Option.map_injective (fun _ _ h => congrArg FileEvent.url h) heq
    rw [(Url.ofFilePath?_pathOf_eq_iff hnames hnames').mp hurl]
  · rw [hbatch, flatMap_changes_of_created hnotices]

/-- A directory is made with what is in it, and reported along with a directory and a file below.
Another directory below it cannot be listed. -/
theorem batch_of_created_nested :
    let rc := Utf8.encode ".clientrc"
    let a := Utf8.encode "a"
    let b := Utf8.encode "b"
    let secret := Utf8.encode "secret"
    let t : FileTree :=
      { entries := [([a], .dir), ([a, b], .dir), ([a, secret], .dir), ([a, rc], .file [] false),
          ([a, secret, rc], .file [] false), ([a, b, rc], .file [] false),
          ([a, Utf8.encode "l"], .link ⟨b⟩)]
        current := []
        unlistable := [[a, secret]] }
    let glob : Glob :=
      { source := "**/.clientrc", pattern := .ofTokens (.leading :: ".clientrc".toList.map .literal) }
    let f : WatchFilter := { root := Path.ofString "/", glob }
    let notices : List Notice :=
      [⟨.created, [Path.ofString "/a/b", Path.ofString "/a"]⟩,
        ⟨.created, [Path.ofString "/a/b/.clientrc", Path.ofString "/gone/.clientrc"]⟩]
    let event (path : String) : FileEvent :=
      ⟨{ scheme := "file", authority := some {}, path }, FileEvent.created⟩
    (t.WellFormed ∧ (∀ n ∈ notices, n.kind = .created) ∧
      ∀ p ∈ notices.flatMap Notice.paths, p.isAbsolute = true ∧ p.normalize = p) ∧
    f.batch t notices = [event "/a/b/.clientrc", event "/a/.clientrc", event "/gone/.clientrc"] := by
  intro rc a b secret t glob f notices event
  have ht : t.WellFormed := by decide +kernel
  have hnotices : ∀ n ∈ notices, n.kind = .created := by decide +kernel
  have hpaths : ∀ p ∈ notices.flatMap Notice.paths, p.isAbsolute = true ∧ p.normalize = p := by
    decide +kernel
  refine ⟨⟨ht, hnotices, hpaths⟩, ?_⟩
  rw [(batch_of_created f ht hnotices hpaths).2.2.2]
  decide +kernel

/-- A file of the default name is below a created directory, in a directory whose path is too long
to be listed. Nothing is reported. -/
theorem not_reported_deep :
    let rc := Utf8.encode ".clientrc"
    let name : Bytes := List.replicate 255 0x64
    let file : Place := List.replicate 16 name ++ [rc]
    let t : FileTree :=
      { entries := (List.range 16).map (fun k => (List.replicate (k + 1) name, .dir)) ++
          [(file, .file [] false)]
        current := [] }
    let created := FileTree.pathOf [name]
    (t.WellFormed ∧ created.isAbsolute = true ∧ created.normalize = created ∧
      t.isDir created = true ∧ t.entry? file = some (.file [] false)) ∧
    ∃ f, WatchFilter.ofGlob (Path.ofString "/") ({} : Config).watchedGlob = .ok f ∧
      f.isWatched (FileTree.pathOf file) = true ∧ f.batch t [⟨.created, [created]⟩] = [] := by
  intro rc name file t created
  have ht : t.WellFormed := by decide +kernel
  have hdir : t.isDir created = true := by decide +kernel
  have hfile : ∀ n ∈ file, IsName n := by decide +kernel
  have hne : file ≠ [] := by decide
  refine ⟨⟨ht, rfl, by decide +kernel, hdir, by decide +kernel⟩, _,
    by rw [WatchFilter.ofGlob, compileGlob_default]; rfl, ?_, ?_⟩
  · have hpath : (Path.ofString "/").join ⟨joinSlash file⟩ = FileTree.pathOf file := by
      have hroot : Path.ofString "/" = FileTree.pathOf [] := by decide
      have hbelow : FileTree.pathBelow (FileTree.pathOf []) file = FileTree.pathOf ([] ++ file) :=
        FileTree.pathBelow_pathOf nofun hfile
      rwa [FileTree.pathBelow_eq_join _ hne hfile, List.nil_append, ← hroot] at hbelow
    rw [← hpath, isWatched_iff_of_below? (Path.below?_join (by decide) hfile hne)]
    refine (Glob.Pattern.matches_leading_literals_iff ".clientrc".toList).mpr
      ((Path.getLast?_splitSlash_iff (by decide)).mp ?_)
    rw [Path.splitSlash_joinSlash hne (Path.slash_notMem_names hfile)]
    decide +kernel
  · -- the only file is in a directory that cannot be listed
    have hplace : t.place? created = .ok [name] := by decide +kernel
    have honly : ∀ x ∈ t.entries, x.2.isFile = true → x.1 = file := by decide +kernel
    have hlong : FileTree.isTooLong (FileTree.pathOf file.dropLast) = true := by decide +kernel
    rw [batch, flatMap_changes_of_created (List.forall_mem_singleton.mpr rfl),
      List.flatMap_singleton, List.flatMap_singleton, pathEvents_created_eq_nil ht fun q hq => ?_]
    · rfl
    cases hq with
    | itself hnodir => cases hdir.symm.trans hnodir
    | @below _ names _ _ hplace' _ hnames hentry hopen =>
      obtain rfl := Except.ok.inj (hplace.symm.trans hplace')
      have hall : [name] ++ names = file :=
        honly _ (FileTree.mem_of_entry (List.cons_ne_nil name names) hentry) rfl
      have hnamed := List.forall_mem_append.mp (hall ▸ hfile : ∀ n ∈ [name] ++ names, IsName n)
      have hproper : names.dropLast ≠ names := fun h => hnames <| by
        rw [← List.length_eq_zero_iff]
        have hlength := congrArg List.length h
        rw [List.length_dropLast] at hlength
        omega
      obtain ⟨hshort, -⟩ := hopen names.dropLast (List.dropLast_prefix names) hproper
      rw [FileTree.pathBelow_pathOf hnamed.1 fun n hn => hnamed.2 n (List.dropLast_subset names hn),
        ← List.dropLast_append_of_ne_nil hnames, hall, hlong] at hshort
      cases hshort

end LspHost.WatchFilter
