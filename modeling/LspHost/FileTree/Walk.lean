import LspHost.FileTree.Resolve

/-!
# Walking a file tree

A walk lists a directory and goes down into each directory in it before it goes on with the next
entry. Links are met but not followed. A directory is listed by its path, so one with a path that is
too long cannot be listed any more than one that the system refuses to list. The walk meets such a
directory, but nothing of what is in it.
-/

namespace LspHost.FileTree

variable {t : FileTree} {place : Place}

/-- What stands in the directory at a place, by the names there. -/
def children (t : FileTree) (place : Place) : List (Bytes × Entry) :=
  t.entries.filterMap fun (p, e) =>
    if p.dropLast = place then p.getLast?.map (·, e) else none

theorem mem_children_iff {n : Bytes} {e : Entry} :
    (n, e) ∈ t.children place ↔ (place ++ [n], e) ∈ t.entries := by
  rw [children, List.mem_filterMap]
  constructor
  · rintro ⟨⟨p, e'⟩, hmem, hsome⟩
    rw [Option.ite_none_right_eq_some, Option.map_eq_some_iff] at hsome
    obtain ⟨rfl, last, hlast, heq⟩ := hsome
    obtain ⟨rfl, rfl⟩ := Prod.mk.inj heq
    obtain ⟨front, rfl⟩ := List.getLast?_eq_some_iff.mp hlast
    rwa [List.dropLast_concat]
  · intro hmem
    refine ⟨_, hmem, ?_⟩
    dsimp only
    rw [if_pos List.dropLast_concat, List.getLast?_concat, Option.map_some]

def entriesBelow (t : FileTree) (place : Place) : List (Place × Entry) :=
  t.entries.filter fun (p, _) => place.isPrefixOf p && place.length < p.length

theorem length_entriesBelow_lt {n : Bytes} {e : Entry} (h : (n, e) ∈ t.children place) :
    (t.entriesBelow (place ++ [n])).length < (t.entriesBelow place).length := by
  have hsub : t.entriesBelow (place ++ [n]) = (t.entriesBelow place).filter fun (p, _) =>
      (place ++ [n]).isPrefixOf p && (place ++ [n]).length < p.length := by
    rw [entriesBelow, entriesBelow, List.filter_filter]
    refine List.filter_congr fun x _ => ?_
    rw [Bool.eq_iff_iff]
    simp only [Bool.and_eq_true, List.isPrefixOf_iff_prefix, decide_eq_true_eq]
    refine (and_iff_left_of_imp fun ⟨hfront, hlength⟩ => ?_).symm
    exact ⟨(List.prefix_append place [n]).trans hfront, by simp at hlength; omega⟩
  rw [hsub, List.length_filter_lt_length_iff_exists]
  refine ⟨(place ++ [n], e), List.mem_filter.mpr ⟨mem_children_iff.mp h, ?_⟩, by simp⟩
  simp [List.isPrefixOf_iff_prefix]

/-- What the directory at a place is found to hold when it is listed by a path that leads there. -/
def list? (t : FileTree) (p : Path) (place : Place) : Except SystemError (List (Bytes × Entry)) :=
  if isTooLong p then .error .nameTooLong
  else if place ∈ t.unlistable then .error .permissionDenied
  else .ok (t.children place)

theorem list?_eq_ok_iff {p : Path} {items : List (Bytes × Entry)} :
    t.list? p place = .ok items ↔
      (isTooLong p = false ∧ place ∉ t.unlistable) ∧ items = t.children place := by
  cases hlong : isTooLong p with
  | true => simp [list?, hlong]
  | false => by_cases hclosed : place ∈ t.unlistable <;> simp [list?, hlong, hclosed, eq_comm]

/-- What is met below the directory at a place, depth first, by paths that continue the one that the
walk begins with. -/
def walk (t : FileTree) (p : Path) (place : Place) : List (Except SystemError (Path × Entry)) :=
  match _h : t.list? p place with
  | .error e => [.error e]
  | .ok items => items.attach.flatMap fun ⟨(n, e), _hmem⟩ =>
    .ok (p.join ⟨n⟩, e) :: if e = .dir then t.walk (p.join ⟨n⟩) (place ++ [n]) else []
termination_by (t.entriesBelow place).length
decreasing_by exact length_entriesBelow_lt ((list?_eq_ok_iff.mp _h).2 ▸ _hmem)

/-- The regular files that a walk from a path meets. What cannot be listed is passed over. -/
def filePathsBelow (t : FileTree) (p : Path) : List Path :=
  match t.place? p with
  | .ok place => (t.walk p place).filterMap fun
    | .ok (q, .file ..) => some q
    | _ => none
  | .error _ => []

end LspHost.FileTree
