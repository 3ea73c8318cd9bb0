import LspHost.Document
import LspHost.Proofs.Documents.Table
import LspHost.Proofs.FileTree.Canonical
import LspHost.Proofs.Url.FilePath
import LspHost.Watch.Notice

/-!
# The identity of a document on disk

A path is made absolute from the current directory and brought into canonical form, and the document
is known by the URL of that form. Two paths have one URL exactly if they have one canonical form, so
the names of a file share an entry of the table of open documents, and different files do not. A
watcher knows the file by the same URL.
-/

namespace LspHost.Document

variable {t : FileTree} {p q c : Path} {u v : Url}

/-- The canonical form of the file that a path names from the current directory. -/
def canonicalPath (t : FileTree) (p : Path) : Except SystemError Path :=
  (if p.isAbsolute then .ok p else t.currentDirectory.map (·.join p)).bind t.canonicalize

theorem canonicalPath_of_isAbsolute (h : p.isAbsolute = true) :
    canonicalPath t p = t.canonicalize p := by
  rw [canonicalPath, if_pos h]
  rfl

/-- A path that names a file is canonicalized after it has been made absolute. -/
theorem exists_of_canonicalPath (h : canonicalPath t p = .ok c) :
    ∃ absolute : Path, absolute.isAbsolute = true ∧ t.canonicalize absolute = .ok c ∧
      (absolute = p ∨ p.isAbsolute = false ∧ t.isDirAt t.current = true ∧
        absolute = (FileTree.pathOf t.current).join p) := by
  cases hp : p.isAbsolute with
  | true => exact ⟨p, hp, canonicalPath_of_isAbsolute hp ▸ h, Or.inl rfl⟩
  | false =>
    rw [canonicalPath, hp, if_neg Bool.false_ne_true, FileTree.currentDirectory] at h
    split at h
    · next hcurrent =>
      refine ⟨(FileTree.pathOf t.current).join p, ?_, h, Or.inr ⟨rfl, hcurrent, rfl⟩⟩
      rw [Path.isAbsolute_join, hp]
      rfl
    · cases h

theorem exists_stands_of_canonicalPath (h : canonicalPath t p = .ok c) :
    ∃ place, c = FileTree.pathOf place ∧ FileTree.Stands t place := by
  obtain ⟨absolute, habs, hc, -⟩ := exists_of_canonicalPath h
  obtain ⟨place, hplace, hstands, -⟩ := FileTree.exists_stands_of_canonicalize habs hc
  exact ⟨place, hplace, hstands⟩

theorem isAbsolute_of_canonicalPath (h : canonicalPath t p = .ok c) : c.isAbsolute = true := by
  obtain ⟨place, rfl, -⟩ := exists_stands_of_canonicalPath h
  rfl

theorem urlOfPath_eq_ok_iff :
    urlOfPath t p = .ok u ↔ ∃ c, canonicalPath t p = .ok c ∧ Url.ofFilePath? c = some u := by
  cases hp : p.isAbsolute with
  | true =>
    rw [canonicalPath_of_isAbsolute hp, urlOfPath, hp]
    cases hc : t.canonicalize p with
    | error e => simp [bind, Except.bind, hc]
    | ok c => cases hurl : Url.ofFilePath? c <;> simp [bind, Except.bind, hc, hurl]
  | false =>
    rw [canonicalPath, urlOfPath, hp]
    cases t.currentDirectory with
    | error e => simp [bind, Except.bind, Except.map]
    | ok dir =>
      cases hc : t.canonicalize (dir.join p) with
      | error e => simp [bind, Except.bind, Except.map, hc]
      | ok c => cases hurl : Url.ofFilePath? c <;> simp [bind, Except.bind, Except.map, hc, hurl]

theorem canonicalPath_canonical (ht : t.WellFormed) (h : canonicalPath t p = .ok c) :
    canonicalPath t c = .ok c := by
  obtain ⟨absolute, habs, hc, -⟩ := exists_of_canonicalPath h
  rw [canonicalPath_of_isAbsolute (isAbsolute_of_canonicalPath h)]
  exact ht.canonicalize_canonical habs hc

/-- The canonical form is that of the path as it was given, which only an empty path does not
have. -/
theorem canonicalize_of_canonicalPath (ht : t.WellFormed) (h : canonicalPath t p = .ok c)
    (hne : p.bytes ≠ []) : t.canonicalize p = .ok c := by
  obtain ⟨absolute, habs, hc, rfl | ⟨hp, hcurrent, rfl⟩⟩ := exists_of_canonicalPath h
  · exact hc
  · exact ht.canonicalize_relative hcurrent hp hne hc

theorem ofFilePath?_eq_iff_of_canonicalPath {d : Path} (hc : canonicalPath t p = .ok c)
    (hd : canonicalPath t q = .ok d) : Url.ofFilePath? c = Url.ofFilePath? d ↔ c = d := by
  obtain ⟨place, rfl, hplace⟩ := exists_stands_of_canonicalPath hc
  obtain ⟨place', rfl, hplace'⟩ := exists_stands_of_canonicalPath hd
  rw [Url.ofFilePath?_pathOf_eq_iff hplace.isName hplace'.isName]
  refine ⟨congrArg FileTree.pathOf, fun h => ?_⟩
  rw [← Url.ofFilePath?_pathOf_eq_iff hplace.isName hplace'.isName, h]

/-- Two paths that have URLs have the same one exactly if they have the same canonical form. A
watcher pushes that URL for the canonical path, and it is the canonical path's own. So what is
entered in the table of open documents under one path, or taken out, is the entry of all other names
of the file, and of no other file. -/
theorem url_identifies_file (ht : t.WellFormed) (hp : urlOfPath t p = .ok u)
    (hq : urlOfPath t q = .ok v) :
    ∃ c d, canonicalPath t p = .ok c ∧ canonicalPath t q = .ok d ∧
      (p.bytes ≠ [] → t.canonicalize p = .ok c) ∧ (q.bytes ≠ [] → t.canonicalize q = .ok d) ∧
      (u = v ↔ c = d) ∧
      urlOfPath t c = .ok u ∧
      (∀ (f : WatchFilter) (kind : Int32), f.isWatched c = true →
        ¬(kind = FileEvent.created ∧ t.isDir c = true) →
          f.pathEvents t c kind = [⟨u, kind⟩]) ∧
      (∀ (f : WatchFilter) (dir : Path), t.isDir dir = true → c ∈ t.filePathsBelow dir →
        f.isWatched c = true → ⟨u, FileEvent.created⟩ ∈ f.pathEvents t dir FileEvent.created) ∧
      ∀ (table : Documents) (n : Int32),
        (table.insert u n).version? v = (if c = d then some n else table.version? v) ∧
        (table.erase u).version? v = if c = d then none else table.version? v := by
  obtain ⟨c, hc, hu⟩ := urlOfPath_eq_ok_iff.mp hp
  obtain ⟨d, hd, hv⟩ := urlOfPath_eq_ok_iff.mp hq
  have hsame : u = v ↔ c = d := by
    rw [← ofFilePath?_eq_iff_of_canonicalPath hc hd, hu, hv, Option.some.injEq]
  have hevent : ∀ kind, WatchFilter.eventOf c kind = some ⟨u, kind⟩ := fun kind => by
    rw [WatchFilter.eventOf, hu, Option.map_some]
  refine ⟨c, d, hc, hd, canonicalize_of_canonicalPath ht hc, canonicalize_of_canonicalPath ht hd,
    hsame, urlOfPath_eq_ok_iff.mpr ⟨c, canonicalPath_canonical ht hc, hu⟩,
    fun f kind hwatched hfile => ?_, fun f dir hdir hbelow hwatched => ?_, fun table n => ?_⟩
  · rw [WatchFilter.pathEvents, if_neg hfile, if_pos hwatched, hevent]
    rfl
  · rw [WatchFilter.pathEvents, if_pos ⟨rfl, hdir⟩, List.mem_filterMap]
    exact ⟨c, List.mem_filter.mpr ⟨hbelow, hwatched⟩, hevent _⟩
  · by_cases hcd : c = d
    · rw [if_pos hcd, if_pos hcd, hsame.mpr hcd]
      exact ⟨table.version?_insert_self v n, table.version?_erase_self v⟩
    · have hne : v ≠ u := fun h => hcd (hsame.mp h.symm)
      rw [if_neg hcd, if_neg hcd]
      exact ⟨table.version?_insert_of_ne hne n, table.version?_erase_of_ne hne⟩

/-- A file whose name is escaped, by a link from the current directory and by its own path. -/
theorem url_identifies_file_linked :
    let dir := Utf8.encode "w"
    let name := Utf8.encode "a #%23"
    let t : FileTree :=
      { entries := [([dir], .dir), ([dir, name], .file [] false),
          ([dir, Utf8.encode "l"], .link ⟨name⟩)]
        current := [dir] }
    let p := Path.ofString "./l"
    let q := Path.ofString "/w/../w//a #%23"
    let u : Url := { scheme := "file", authority := some {}, path := "/w/a%20%23%2523" }
    (t.WellFormed ∧ urlOfPath t p = .ok u ∧ urlOfPath t q = .ok u) ∧
      t.canonicalize p = t.canonicalize q ∧ t.canonicalize p = .ok ⟨Utf8.encode "/w/a #%23"⟩ := by
  intro dir name t p q u
  have ht : t.WellFormed := by decide +kernel
  have hp : urlOfPath t p = .ok u := by decide +kernel
  have hq : urlOfPath t q = .ok u := by decide +kernel
  obtain ⟨c, d, -, -, hcp, hdq, hiff, -⟩ := url_identifies_file ht hp hq
  have hc := hcp (by decide +kernel)
  have hd := hdq (by decide +kernel)
  refine ⟨⟨ht, hp, hq⟩, ?_, by decide +kernel⟩
  rw [hc, hd, hiff.mp rfl]

end LspHost.Document
