import LspHost.FileTree.Resolve
import LspHost.Proofs.Path.Components
import Mathlib.Data.List.Induction

/-!
# Places that a path leads to

Whatever a path leads to stands below directories and is no link, so its own path leads there
again. Following a path and then some further pieces is following all of them, and pieces that lead
down to a place that stands are followed without replacing a link.
-/

namespace LspHost.FileTree

open LspHost.Path (IsName slash)

variable {t : FileTree} {manner : Manner}

/-- The tree has something other than a link at the place, below directories only. -/
inductive Stands (t : FileTree) : Place → Prop
  | root : Stands t []
  | entry {dir : Place} {n : Bytes} {e : Entry} (h : Stands t dir) (hdir : t.isDirAt dir = true)
      (hn : IsName n) (hlen : n.length ≤ maxName) (he : t.entry? (dir ++ [n]) = some e)
      (hlink : ∀ target, e ≠ .link target) : Stands t (dir ++ [n])

@[simp] theorem entry?_nil (t : FileTree) : t.entry? [] = some .dir := if_pos rfl

@[simp] theorem isDirAt_nil (t : FileTree) : t.isDirAt [] = true := by simp [isDirAt]

theorem Stands.concat {dir : Place} {n : Bytes} (h : Stands t (dir ++ [n])) :
    Stands t dir ∧ t.isDirAt dir = true ∧ IsName n ∧ n.length ≤ maxName ∧
      ∃ e, t.entry? (dir ++ [n]) = some e ∧ ∀ target, e ≠ .link target := by
  generalize hplace : dir ++ [n] = place at h
  cases h with
  | root => simp at hplace
  | entry h hdir hn hlen he hlink =>
    obtain ⟨rfl, hlast⟩ := List.append_inj' hplace rfl
    obtain rfl := (List.cons.inj hlast).1
    exact ⟨h, hdir, hn, hlen, _, he, hlink⟩

theorem Stands.dropLast {place : Place} (h : Stands t place) : Stands t place.dropLast := by
  cases h with
  | root => exact .root
  | entry h => rwa [List.dropLast_concat]

theorem Stands.isName {place : Place} (h : Stands t place) : ∀ n ∈ place, IsName n := by
  induction h with
  | root => nofun
  | entry h _ hn _ _ _ ih =>
    exact List.forall_mem_append.mpr ⟨ih, List.forall_mem_singleton.mpr hn⟩

/-- The place has a path that is short enough, if places are looked up by their own paths. -/
def Fits (manner : Manner) (place : Place) : Prop :=
  manner.spelled = true → isTooLong (pathOf place) = false

theorem Fits.root (manner : Manner) : Fits manner [] := fun _ => by decide

theorem Fits.of_append {place rest : Place} (h : Fits manner (place ++ rest)) :
    Fits manner place := by
  intro hspelled
  have hlen := Path.length_joinSlash_append place rest
  have hshort := h hspelled
  simp only [isTooLong, pathOf, List.length_cons, ge_iff_le, decide_eq_false_iff_not] at hshort ⊢
  omega

theorem Fits.dropLast {place : Place} (h : Fits manner place) : Fits manner place.dropLast := by
  by_cases hne : place = []
  · rw [hne]
    exact .root manner
  · rw [← List.dropLast_append_getLast hne] at h
    exact h.of_append

/-- What a stride ends in: where it has arrived, or the place of the link, something stands. -/
inductive Stride.Sound (t : FileTree) (manner : Manner) : Stride → Prop
  | arrived {place : Place} (h : Stands t place) (hfits : Fits manner place) :
      Sound t manner (.arrived place)
  | link {dir : Place} (target : Path) {rest : List Bytes} (h : Stands t dir)
      (hfits : Fits manner dir) (hrest : ∀ piece ∈ rest, slash ∉ piece) :
      Sound t manner (.link dir target rest)
  | failed (e : SystemError) : Sound t manner (.failed e)

theorem sound_stride {place : Place} {pieces : List Bytes} (hlast : manner.last = true)
    (h : Stands t place) (hfits : Fits manner place) (hpieces : ∀ piece ∈ pieces, slash ∉ piece) :
    (t.stride manner place pieces).Sound t manner := by
  fun_induction t.stride manner place pieces with
  | case1 place => exact .arrived h hfits
  | case2 => exact .failed _
  | case3 place piece rest hdir hv ih => exact ih h hfits (List.forall_mem_cons.mp hpieces).2
  | case4 place rest hdir hv ih =>
    exact ih h.dropLast hfits.dropLast (List.forall_mem_cons.mp hpieces).2
  | case5 => exact .failed _
  | case6 => exact .failed _
  | case7 place piece rest hdir hv hd hlen target he hstop =>
    rw [hlast] at hstop
    cases hstop.2
  | case8 => exact .link _ h hfits (List.forall_mem_cons.mp hpieces).2
  | case9 place piece rest hdir hv hd hlen e hlink he ih =>
    -- the only step down: the name has been found in a directory, and is no link
    obtain ⟨hslash, hrest⟩ := List.forall_mem_cons.mp hpieces
    rw [not_or] at hlen
    refine ih (h.entry ?_ ?_ (Nat.le_of_not_lt hlen.1) he hlink) ?_ hrest
    · simpa using hdir
    · exact Path.isName_of_not_vacant hslash (Bool.eq_false_iff.mpr hv) hd
    · exact fun hspelled => Bool.eq_false_iff.mpr fun hlong => hlen.2 ⟨hspelled, hlong⟩

theorem stands_of_follow {links : Nat} {place place' : Place} {pieces : List Bytes}
    (hlast : manner.last = true) (h : Stands t place) (hfits : Fits manner place)
    (hpieces : ∀ piece ∈ pieces, slash ∉ piece)
    (hfollow : t.follow manner links place pieces = .ok place') :
    Stands t place' ∧ Fits manner place' := by
  fun_induction t.follow manner links place pieces with
  | case1 links place pieces arrived hs =>
    have hsound := sound_stride hlast h hfits hpieces
    rw [hs] at hsound
    cases hsound with
    | arrived h hfits => exact Except.ok.inj hfollow ▸ ⟨h, hfits⟩
  | case2 => cases hfollow
  | case3 => cases hfollow
  | case4 => cases hfollow
  | case5 place pieces dir target rest hs links htarget ih =>
    have hsound := sound_stride hlast h hfits hpieces
    rw [hs] at hsound
    cases hsound with
    | link target h hfits hrest =>
      refine ih ?_ ?_ ?_ hfollow
      · split
        · exact .root
        · exact h
      · split
        · exact .root manner
        · exact hfits
      · exact List.forall_mem_append.mpr ⟨fun _ => Path.slash_notMem_of_mem_splitSlash, hrest⟩

/-- What a stride over some pieces becomes if further pieces follow them. -/
def Stride.extend (t : FileTree) (manner : Manner) (more : List Bytes) : Stride → Stride
  | .arrived place => t.stride manner place more
  | .link dir target rest => .link dir target (rest ++ more)
  | .failed e => .failed e

theorem stride_append (place : Place) (pieces more : List Bytes) (hlast : manner.last = true) :
    t.stride manner place (pieces ++ more) = (t.stride manner place pieces).extend t manner more := by
  fun_induction t.stride manner place pieces with
  | case1 place => rfl
  | case2 place piece rest hdir =>
    rw [List.cons_append, stride, if_pos hdir]
    rfl
  | case3 place piece rest hdir hv ih =>
    rw [List.cons_append, stride, if_neg hdir, if_pos hv, ih]
  | case4 place rest hdir hv ih =>
    rw [List.cons_append, stride, if_neg hdir, if_neg hv, if_pos rfl, ih]
  | case5 place piece rest hdir hv hd hlen =>
    rw [List.cons_append, stride, if_neg hdir, if_neg hv, if_neg hd, if_pos hlen]
    rfl
  | case6 place piece rest hdir hv hd hlen he =>
    rw [List.cons_append, stride, if_neg hdir, if_neg hv, if_neg hd, if_neg hlen, he]
    rfl
  | case7 place piece rest hdir hv hd hlen target he hstop =>
    rw [hlast] at hstop
    cases hstop.2
  | case8 place piece rest hdir hv hd hlen target he hgo =>
    rw [List.cons_append, stride, if_neg hdir, if_neg hv, if_neg hd, if_neg hlen, he]
    exact if_neg (by simp [hlast])
  | case9 place piece rest hdir hv hd hlen e hlink he ih =>
    rw [List.cons_append, stride, if_neg hdir, if_neg hv, if_neg hd, if_neg hlen, he]
    cases e with
    | link target => exact absurd rfl (hlink target)
    | file => exact ih
    | dir => exact ih

theorem follow_append {links : Nat} {place place' : Place} {pieces : List Bytes}
    (hlast : manner.last = true) (h : t.follow manner links place pieces = .ok place')
    (more : List Bytes) : ∃ left, t.follow manner links place (pieces ++ more) =
      t.follow manner left place' more := by
  fun_induction t.follow manner links place pieces with
  | case1 links place pieces arrived hs =>
    obtain rfl := Except.ok.inj h
    refine ⟨links, ?_⟩
    rw [follow, stride_append _ _ _ hlast, hs, Stride.extend, ← follow]
  | case2 => cases h
  | case3 => cases h
  | case4 => cases h
  | case5 place pieces dir target rest hs links htarget ih =>
    obtain ⟨left, hleft⟩ := ih h
    refine ⟨left, ?_⟩
    rw [follow, stride_append _ _ _ hlast, hs, Stride.extend, ← hleft, List.append_assoc]
    exact if_neg htarget

/-- Names that lead to a place that stands are followed one after another, unless its path is too
long. -/
theorem stride_of_stands {place names : Place} (hlast : manner.last = true)
    (h : Stands t (place ++ names)) :
    t.stride manner place names = .arrived (place ++ names) ∨
      t.stride manner place names = .failed .nameTooLong ∧ ¬Fits manner (place ++ names) := by
  -- from the last name, as what stands at a place stands below what its directory is
  induction names using List.reverseRecOn with
  | nil => exact Or.inl (by rw [stride, List.append_nil])
  | append_singleton names n ih =>
    rw [← List.append_assoc] at h ⊢
    obtain ⟨hstands, hdir, hn, hlen, e, he, hlink⟩ := h.concat
    rw [stride_append _ _ _ hlast]
    rcases ih hstands with hs | ⟨hs, hlong⟩
    · rw [hs, Stride.extend, stride, if_neg (by simp [hdir]), if_neg (by simp [hn.not_vacant]),
        if_neg hn.ne_dotdot]
      by_cases hfits : manner.spelled ∧ isTooLong (pathOf (place ++ names ++ [n]))
      · rw [if_pos (Or.inr hfits)]
        exact Or.inr ⟨rfl, fun h => Bool.false_ne_true ((h hfits.1).symm.trans hfits.2)⟩
      · rw [if_neg (not_or.mpr ⟨Nat.not_lt.mpr hlen, hfits⟩), he]
        cases e with
        | link target => exact absurd rfl (hlink target)
        | file => exact Or.inl rfl
        | dir => exact Or.inl rfl
    · rw [hs]
      exact Or.inr ⟨rfl, fun hfits => hlong hfits.of_append⟩

end LspHost.FileTree
