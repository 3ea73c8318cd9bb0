import LspHost.Proofs.FileTree.Reach
import Mathlib.Data.List.Nodup

/-!
# Canonical paths

The canonical form of a path is the path of the place it leads to. In a well-formed tree it is its
own canonical form, and a relative path has the same canonical form as the path that is made from it
and the current directory. What a path leads to below a directory does not depend on how the
directory was reached.
-/

namespace LspHost.FileTree

open LspHost.Path (IsName slash splitSlash joinSlash)

/-- Each place has one entry, below a directory, and is reached by names that can be written. -/
structure WellFormed (t : FileTree) : Prop where
  nodup : (t.entries.map Prod.fst).Nodup
  dirs : ∀ x ∈ t.entries, x.1 ≠ [] ∧ t.isDirAt x.1.dropLast = true
  names : ∀ x ∈ t.entries, ∀ n ∈ x.1, IsName n ∧ 0 ∉ n ∧ n.length ≤ maxName

instance (t : FileTree) : Decidable t.WellFormed :=
  decidable_of_iff
    ((t.entries.map Prod.fst).Nodup ∧
      (∀ x ∈ t.entries, x.1 ≠ [] ∧ t.isDirAt x.1.dropLast = true) ∧
      ∀ x ∈ t.entries, ∀ n ∈ x.1, IsName n ∧ 0 ∉ n ∧ n.length ≤ maxName)
    ⟨fun h => ⟨h.1, h.2.1, h.2.2⟩, fun h => ⟨h.nodup, h.dirs, h.names⟩⟩

variable {t : FileTree} {manner : Manner} {place : Place} {e : Entry}

theorem entry?_eq_find? (hne : place ≠ []) :
    t.entry? place = (t.entries.find? (·.1 = place)).map Prod.snd :=
  if_neg hne

theorem mem_of_entry (hne : place ≠ []) (h : t.entry? place = some e) :
    (place, e) ∈ t.entries := by
  rw [entry?_eq_find? hne, Option.map_eq_some_iff] at h
  obtain ⟨x, hx, rfl⟩ := h
  have hplace := List.find?_some hx
  rw [decide_eq_true_eq] at hplace
  exact hplace ▸ List.mem_of_find?_eq_some hx

section WellFormed

variable (ht : t.WellFormed)

include ht

theorem WellFormed.entry?_of_mem (h : (place, e) ∈ t.entries) : t.entry? place = some e := by
  obtain ⟨x, hx⟩ := Option.isSome_iff_exists.mp
    (List.find?_isSome.mpr ⟨(place, e), h, decide_eq_true rfl⟩ :
      (t.entries.find? (·.1 = place)).isSome = true)
  have hplace := List.find?_some hx
  rw [decide_eq_true_eq] at hplace
  obtain rfl := List.inj_on_of_nodup_map ht.nodup (List.mem_of_find?_eq_some hx) h hplace
  rw [entry?_eq_find? (ht.dirs _ h).1, hx]
  rfl

theorem WellFormed.stands (h : t.entry? place = some e) (hlink : ∀ target, e ≠ .link target) :
    Stands t place := by
  induction place using List.reverseRecOn generalizing e with
  | nil => exact .root
  | append_singleton dir n ih =>
    have hmem := mem_of_entry (List.concat_ne_nil n dir) h
    have hdir := (ht.dirs _ hmem).2
    obtain ⟨hn, -, hlen⟩ := ht.names _ hmem n (by simp)
    rw [List.dropLast_concat] at hdir
    exact (ih (of_decide_eq_true hdir) nofun).entry hdir hn hlen h hlink

theorem WellFormed.nul_notMem (h : Stands t place) : ∀ n ∈ place, 0 ∉ n := by
  cases h with
  | root => nofun
  | entry _ _ _ _ he => exact fun n hn => (ht.names _ (mem_of_entry (by simp) he) n hn).2.1

end WellFormed

/-- The pieces of a path below a place are the names of the place and those of the path. -/
theorem join_pathOf {dir : Place} (hdir : ∀ n ∈ dir, IsName n) {q : Path}
    (hq : q.isAbsolute = false) :
    ∃ bs, (pathOf dir).join q = ⟨slash :: bs⟩ ∧ splitSlash bs = dir ++ splitSlash q.bytes := by
  rw [Path.join, hq, if_neg Bool.false_ne_true]
  by_cases hne : dir = []
  · rw [hne, if_pos (Or.inr (show (pathOf []).bytes.getLast? = some slash from rfl))]
    exact ⟨q.bytes, rfl, rfl⟩
  · rw [if_neg]
    · refine ⟨joinSlash dir ++ slash :: q.bytes, rfl, ?_⟩
      rw [Path.splitSlash_append_slash,
        Path.splitSlash_joinSlash hne (Path.slash_notMem_names hdir)]
    · rintro (hnil | hlast)
      · exact List.cons_ne_nil _ _ hnil
      obtain ⟨stem, hstem⟩ := List.getLast?_eq_some_iff.mp hlast
      have hsplit := congrArg splitSlash hstem
      rw [pathOf, Path.splitSlash_slash, Path.splitSlash_append_slash,
        Path.splitSlash_joinSlash hne (Path.slash_notMem_names hdir)] at hsplit
      have hend := congrArg List.getLast? hsplit
      rw [Path.splitSlash_nil, List.getLast?_concat, ← List.singleton_append,
        List.getLast?_append_of_ne_nil _ hne] at hend
      exact (hdir [] (List.mem_of_getLast? hend)).ne_nil rfl

/-- What a path becomes when names are joined to it one after another. -/
def pathBelow (p : Path) (names : List Bytes) : Path :=
  names.foldl (fun p n => p.join ⟨n⟩) p

@[simp] theorem pathBelow_nil (p : Path) : pathBelow p [] = p := rfl

@[simp] theorem pathBelow_cons (p : Path) (n : Bytes) (names : List Bytes) :
    pathBelow p (n :: names) = pathBelow (p.join ⟨n⟩) names := rfl

theorem pathBelow_eq_join {names : List Bytes} (p : Path) (hne : names ≠ [])
    (hnames : ∀ n ∈ names, IsName n) : pathBelow p names = p.join ⟨joinSlash names⟩ := by
  induction names generalizing p with
  | nil => exact absurd rfl hne
  | cons n names ih =>
    by_cases hrest : names = []
    · rw [hrest]
      rfl
    · obtain ⟨hn, hnames⟩ := List.forall_mem_cons.mp hnames
      rw [pathBelow_cons, ih _ hrest hnames,
        Path.join_join_name p hn (Path.isAbsolute_names hnames), ← Path.joinSlash_cons hrest]

theorem pathBelow_pathOf {dir names : Place} (hdir : ∀ n ∈ dir, IsName n)
    (hnames : ∀ n ∈ names, IsName n) :
    pathBelow (pathOf dir) names = pathOf (dir ++ names) := by
  by_cases hne : names = []
  · rw [hne, List.append_nil, pathBelow_nil]
  · obtain ⟨bs, hjoin, hsplit⟩ := join_pathOf hdir (Path.isAbsolute_names hnames)
    rw [Path.splitSlash_joinSlash hne (Path.slash_notMem_names hnames)] at hsplit
    have hall : splitSlash (joinSlash (dir ++ names)) = dir ++ names :=
      Path.splitSlash_joinSlash (List.append_ne_nil_of_right_ne_nil dir hne)
        (Path.slash_notMem_names (List.forall_mem_append.mpr ⟨hdir, hnames⟩))
    rw [pathBelow_eq_join _ hne hnames, hjoin, Path.splitSlash_injective (hsplit.trans hall.symm),
      pathOf]

theorem Stands.pathBelow {dir names : Place} (hdir : ∀ n ∈ dir, IsName n)
    (h : Stands t (place ++ names)) : (∀ n ∈ dir ++ names, IsName n) ∧
      pathBelow (pathOf dir) names = pathOf (dir ++ names) := by
  have hnames : ∀ n ∈ names, IsName n := fun n hn =>
    h.isName n (List.mem_append_right place hn)
  exact ⟨List.forall_mem_append.mpr ⟨hdir, hnames⟩, pathBelow_pathOf hdir hnames⟩

theorem follow_vacant (links : Nat) (pieces : List Bytes) :
    t.follow manner links [] ([] :: pieces) = t.follow manner links [] pieces := by
  have hstride : t.stride manner [] ([] :: pieces) = t.stride manner [] pieces := by
    rw [stride, if_neg (by simp), if_pos (show Path.vacant [] = true from rfl)]
  rw [follow, hstride, ← follow]

theorem nul_notMem_of_reach? {p : Path} (h : t.reach? p manner = .ok place) : 0 ∉ p.bytes := by
  intro hnul
  rw [reach?, if_pos (List.contains_iff_mem.mpr hnul)] at h
  split at h <;> cases h

theorem reach?_slash {bs : Bytes} (hnul : 0 ∉ bs) :
    t.reach? ⟨slash :: bs⟩ manner = t.follow manner maxLinks [] (splitSlash bs) := by
  have hcontains : (slash :: bs).contains 0 = false := by
    rw [Bool.eq_false_iff, ne_eq, List.contains_iff_mem, List.mem_cons, not_or]
    exact ⟨by decide, hnul⟩
  rw [reach?, if_neg (List.cons_ne_nil _ _), hcontains, if_neg Bool.false_ne_true,
    if_pos (show Path.isAbsolute ⟨slash :: bs⟩ = true from rfl), Path.splitSlash_slash,
    follow_vacant]

theorem reach?_pathOf {names : Place} (hnames : ∀ n ∈ names, IsName n)
    (hnul : ∀ n ∈ names, 0 ∉ n) :
    t.reach? (pathOf names) manner = t.follow manner maxLinks [] names := by
  have hjoined : 0 ∉ joinSlash names := by
    rw [Path.mem_joinSlash_iff (by decide)]
    exact fun ⟨n, hn, h⟩ => hnul n hn h
  rw [pathOf, reach?_slash hjoined]
  by_cases hne : names = []
  · rw [hne]
    exact follow_vacant maxLinks []
  · rw [Path.splitSlash_joinSlash hne (Path.slash_notMem_names hnames)]

theorem follow_of_stands {links : Nat} {names : Place} (hlast : manner.last = true)
    (h : Stands t (place ++ names)) (hfits : Fits manner (place ++ names)) :
    t.follow manner links place names = .ok (place ++ names) := by
  rcases stride_of_stands hlast h with hs | ⟨-, hlong⟩
  · rw [follow, hs]
  · exact absurd hfits hlong

/-- What stands below the place a path leads to is reached by the longer path. -/
theorem WellFormed.reach?_below (ht : t.WellFormed) {dir names : Place}
    (hdir : ∀ n ∈ dir, IsName n) (hreach : t.reach? (pathOf dir) = .ok place)
    (h : Stands t (place ++ names)) :
    t.reach? (pathOf (dir ++ names)) = .ok (place ++ names) := by
  have hdirNul : ∀ n ∈ dir, 0 ∉ n := fun n hn hmem =>
    nul_notMem_of_reach? hreach (List.mem_cons_of_mem slash
      ((Path.mem_joinSlash_iff (by decide)).mpr ⟨n, hn, hmem⟩))
  rw [reach?_pathOf hdir hdirNul] at hreach
  rw [reach?_pathOf (h.pathBelow hdir).1 (List.forall_mem_append.mpr ⟨hdirNul, fun n hn =>
    ht.nul_notMem h n (List.mem_append_right place hn)⟩)]
  obtain ⟨left, hleft⟩ := follow_append rfl hreach names
  rw [hleft]
  exact follow_of_stands rfl h nofun

theorem isDir_eq_true_iff {p : Path} :
    t.isDir p = true ↔ ∃ place, t.place? p = .ok place ∧ t.isDirAt place = true := by
  rw [isDir, entryAt?]
  cases t.place? p with
  | error e => simp [Except.bind]
  | ok place =>
    cases he : t.entry? place with
    | none => simp [Except.bind, isDirAt, he]
    | some e => cases e <;> simp [Except.bind, isDirAt, he]

theorem reach?_of_place? {p : Path} (h : t.place? p = .ok place) : t.reach? p = .ok place := by
  rw [place?] at h
  split at h
  · cases h
  · exact h

section Canonicalize

variable {p c : Path}

theorem reach?_of_canonicalize (h : t.canonicalize p = .ok c) :
    ∃ place, t.reach? p { spelled := true } = .ok place ∧ c = pathOf place := by
  rw [canonicalize] at h
  cases hreach : t.reach? p { spelled := true } with
  | error e =>
    rw [hreach] at h
    cases h
  | ok place =>
    rw [hreach] at h
    exact ⟨place, rfl, (Except.ok.inj h).symm⟩

theorem exists_stands_of_canonicalize (hp : p.isAbsolute = true) (h : t.canonicalize p = .ok c) :
    ∃ place, c = pathOf place ∧ Stands t place ∧ Fits { spelled := true } place := by
  obtain ⟨place, hreach, rfl⟩ := reach?_of_canonicalize h
  obtain ⟨bs, rfl⟩ := Path.isAbsolute_iff.mp hp
  rw [reach?_slash fun hmem => nul_notMem_of_reach? hreach (List.mem_cons_of_mem slash hmem)]
    at hreach
  exact ⟨place, rfl, stands_of_follow rfl .root (.root _)
    (fun _ => Path.slash_notMem_of_mem_splitSlash) hreach⟩

theorem WellFormed.canonicalize_canonical (ht : t.WellFormed) (hp : p.isAbsolute = true)
    (h : t.canonicalize p = .ok c) : t.canonicalize c = .ok c := by
  obtain ⟨place, rfl, hstands, hfits⟩ := exists_stands_of_canonicalize hp h
  rw [canonicalize, reach?_pathOf hstands.isName (ht.nul_notMem hstands),
    follow_of_stands rfl hstands hfits]
  rfl

/-- A relative path is followed from the current directory as the path below it is from the root. -/
theorem WellFormed.canonicalize_relative (ht : t.WellFormed) (hcurrent : t.isDirAt t.current = true)
    (hp : p.isAbsolute = false) (hne : p.bytes ≠ [])
    (h : t.canonicalize ((pathOf t.current).join p) = .ok c) : t.canonicalize p = .ok c := by
  have hstands : Stands t t.current := ht.stands (of_decide_eq_true hcurrent) nofun
  obtain ⟨place, hreach, rfl⟩ := reach?_of_canonicalize h
  have hnul := nul_notMem_of_reach? hreach
  obtain ⟨stem, hbytes, -⟩ := Path.exists_join (List.cons_ne_nil slash (joinSlash t.current)) hp
  have hpnul : p.bytes.contains 0 = false := by
    rw [Bool.eq_false_iff, ne_eq, List.contains_iff_mem]
    exact fun hmem => hnul (hbytes ▸ List.mem_append_right stem (List.mem_cons_of_mem slash hmem))
  obtain ⟨bs, hjoin, hsplit⟩ := join_pathOf hstands.isName hp
  rw [hjoin] at hreach hnul
  rw [reach?_slash fun hmem => hnul (List.mem_cons_of_mem slash hmem), hsplit, follow,
    stride_append _ _ _ rfl] at hreach
  rw [canonicalize, reach?, if_neg hne, hpnul, if_neg Bool.false_ne_true, hp,
    if_neg Bool.false_ne_true]
  -- on the way to the current directory there are no links, so none are used up
  have hstride : t.stride { spelled := true } [] t.current = .arrived ([] ++ t.current) ∨
      t.stride { spelled := true } [] t.current = .failed .nameTooLong ∧ _ :=
    stride_of_stands rfl hstands
  rcases hstride with hs | ⟨hs, -⟩
  · rw [hs, Stride.extend, List.nil_append, ← follow] at hreach
    rw [hreach]
    rfl
  · rw [hs] at hreach
    cases hreach

end Canonicalize

end LspHost.FileTree
