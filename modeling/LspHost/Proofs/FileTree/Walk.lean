import LspHost.FileTree.Walk
import LspHost.Proofs.FileTree.Canonical

/-!
# What a walk meets

In a well-formed tree a walk from a place meets exactly the entries to which directories lead that
can all be listed, the one at the place itself included. It meets them by the names that lead down
to them, joined one after another to the path that it begins with.
-/

namespace LspHost.FileTree

/-- Every directory on the way from a place down to what is called `names` there can be listed, by
the path that leads to it from `p`. -/
def OpenTo (t : FileTree) (p : Path) (place : Place) (names : List Bytes) : Prop :=
  ∀ front, front <+: names → front ≠ names →
    isTooLong (pathBelow p front) = false ∧ place ++ front ∉ t.unlistable

variable {t : FileTree} {p q : Path} {place : Place} {e : Entry}

theorem openTo_cons_iff {n : Bytes} {names : List Bytes} :
    t.OpenTo p place (n :: names) ↔
      (isTooLong p = false ∧ place ∉ t.unlistable) ∧ t.OpenTo (p.join ⟨n⟩) (place ++ [n]) names := by
  constructor
  · intro h
    refine ⟨?_, fun front hfront hne => ?_⟩
    · simpa using h [] List.nil_prefix (List.cons_ne_nil n names).symm
    · simpa using h (n :: front) ((List.prefix_cons_inj n).mpr hfront) (by simpa)
  · rintro ⟨hhere, hbelow⟩ front hfront hne
    cases front with
    | nil => simpa using hhere
    | cons m front =>
      obtain ⟨rfl, hrest⟩ := List.cons_prefix_cons.mp hfront
      simpa using hbelow front hrest (by simpa using hne)

/-- A walk meets what is in the directory and what the walks from the directories in it meet. -/
theorem mem_walk_iff_children :
    .ok (q, e) ∈ t.walk p place ↔ (isTooLong p = false ∧ place ∉ t.unlistable) ∧
      ∃ n e', (n, e') ∈ t.children place ∧ ((q, e) = (p.join ⟨n⟩, e') ∨
        e' = .dir ∧ .ok (q, e) ∈ t.walk (p.join ⟨n⟩) (place ++ [n])) := by
  rw [walk]
  split
  · next error hlist =>
    refine iff_of_false (by simp) fun h => ?_
    cases hlist.symm.trans (list?_eq_ok_iff.mpr ⟨h.1, rfl⟩)
  · next items hlist =>
    obtain ⟨hopen, rfl⟩ := list?_eq_ok_iff.mp hlist
    rw [and_iff_right hopen, List.mem_flatMap]
    constructor
    · rintro ⟨⟨⟨n, e'⟩, hmem⟩, -, hq⟩
      refine ⟨n, e', hmem, ?_⟩
      simpa [List.mem_ite_nil_right] using hq
    · rintro ⟨n, e', hmem, hq⟩
      refine ⟨⟨(n, e'), hmem⟩, List.mem_attach _ _, ?_⟩
      simpa [List.mem_ite_nil_right] using hq

section WellFormed

variable (ht : t.WellFormed)

include ht

theorem WellFormed.isDirAt_of_entry {rest : Place} (hne : rest ≠ [])
    (h : t.entry? (place ++ rest) = some e) : t.isDirAt place = true := by
  induction rest using List.reverseRecOn generalizing e with
  | nil => exact absurd rfl hne
  | append_singleton front n ih =>
    rw [← List.append_assoc] at h
    have hdir := (ht.dirs _ (mem_of_entry (List.concat_ne_nil n _) h)).2
    rw [List.dropLast_concat] at hdir
    by_cases hfront : front = []
    · rwa [hfront, List.append_nil] at hdir
    · exact ih hfront (of_decide_eq_true hdir)

theorem WellFormed.mem_walk_iff :
    .ok (q, e) ∈ t.walk p place ↔ ∃ names, names ≠ [] ∧ t.OpenTo p place names ∧
      t.entry? (place ++ names) = some e ∧ q = pathBelow p names := by
  -- the walks from the directories in this one have fewer entries below them
  induction hcount : (t.entriesBelow place).length using Nat.strongRecOn generalizing p place with
  | ind count ih =>
    have hwalk : ∀ n e', (n, e') ∈ t.children place →
        (.ok (q, e) ∈ t.walk (p.join ⟨n⟩) (place ++ [n]) ↔
          ∃ names, names ≠ [] ∧ t.OpenTo (p.join ⟨n⟩) (place ++ [n]) names ∧
            t.entry? (place ++ [n] ++ names) = some e ∧ q = pathBelow (p.join ⟨n⟩) names) :=
      fun n e' hmem => ih _ (hcount ▸ length_entriesBelow_lt hmem) rfl
    rw [mem_walk_iff_children]
    constructor
    · rintro ⟨hopen, n, e', hmem, hhere | ⟨-, hbelow⟩⟩
      · obtain ⟨rfl, rfl⟩ := Prod.mk.inj hhere
        refine ⟨[n], List.cons_ne_nil n [], openTo_cons_iff.mpr ⟨hopen, ?_⟩,
          ht.entry?_of_mem (mem_children_iff.mp hmem), rfl⟩
        exact fun front hfront hne => absurd (List.prefix_nil.mp hfront) hne
      · obtain ⟨names, -, hrest, he, rfl⟩ := (hwalk n e' hmem).mp hbelow
        refine ⟨n :: names, List.cons_ne_nil n names, openTo_cons_iff.mpr ⟨hopen, hrest⟩, ?_, rfl⟩
        rwa [List.append_assoc, List.singleton_append] at he
    · rintro ⟨names, hne, hopen, he, rfl⟩
      obtain ⟨n, names, rfl⟩ := List.exists_cons_of_ne_nil hne
      obtain ⟨hhere, hbelow⟩ := openTo_cons_iff.mp hopen
      refine ⟨hhere, ?_⟩
      rw [← List.singleton_append, ← List.append_assoc] at he
      by_cases hrest : names = []
      · rw [hrest, List.append_nil] at he
        refine ⟨n, e, mem_children_iff.mpr (mem_of_entry (List.concat_ne_nil n place) he), ?_⟩
        exact Or.inl (by rw [hrest, pathBelow_cons, pathBelow_nil])
      · have hdir := of_decide_eq_true (ht.isDirAt_of_entry hrest he)
        have hmem := mem_children_iff.mpr (mem_of_entry (List.concat_ne_nil n place) hdir)
        exact ⟨n, .dir, hmem, Or.inr ⟨rfl, (hwalk n .dir hmem).mpr
          ⟨names, hrest, hbelow, he, rfl⟩⟩⟩

theorem WellFormed.mem_filePathsBelow_iff (hplace : t.place? p = .ok place) :
    q ∈ t.filePathsBelow p ↔ ∃ names, names ≠ [] ∧ t.OpenTo p place names ∧
      (∃ contents executable, t.entry? (place ++ names) = some (.file contents executable)) ∧
      q = pathBelow p names := by
  have hfile : q ∈ t.filePathsBelow p ↔
      ∃ contents executable, .ok (q, .file contents executable) ∈ t.walk p place := by
    rw [filePathsBelow, hplace, List.mem_filterMap]
    constructor
    · rintro ⟨met, hmet, hsome⟩
      split at hsome
      · next contents executable =>
        obtain rfl := Option.some.inj hsome
        exact ⟨contents, executable, hmet⟩
      · cases hsome
    · exact fun ⟨_, _, hmet⟩ => ⟨_, hmet, rfl⟩
  rw [hfile]
  constructor
  · rintro ⟨contents, executable, hmet⟩
    obtain ⟨names, hne, hopen, he, rfl⟩ := ht.mem_walk_iff.mp hmet
    exact ⟨names, hne, hopen, ⟨contents, executable, he⟩, rfl⟩
  · rintro ⟨names, hne, hopen, ⟨contents, executable, he⟩, rfl⟩
    exact ⟨contents, executable, ht.mem_walk_iff.mpr ⟨names, hne, hopen, he, rfl⟩⟩

end WellFormed

end LspHost.FileTree
