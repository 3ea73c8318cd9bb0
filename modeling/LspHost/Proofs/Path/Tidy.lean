import LspHost.Proofs.Path.Components

/-!
# Paths that are written without detours

An absolute path without `.`, `..` or repeated slashes is written with the names that it is made of,
and perhaps with one more slash at its end.
-/

namespace LspHost.Path

/-- An absolute path without `.`, `..` or repeated slashes. -/
structure Tidy (p : Path) : Prop where
  absolute : p.isAbsolute = true
  no_dot : [dot] ∉ splitSlash p.bytes
  no_dotdot : [dot, dot] ∉ splitSlash p.bytes
  no_repeat : ¬ [slash, slash] <:+: p.bytes

def unslashed (bs : Bytes) : Bytes :=
  if bs.getLast? = some slash ∧ bs ≠ [slash] then bs.dropLast else bs

theorem joinSlash_append {xs ys : List Bytes} (hx : xs ≠ []) (hy : ys ≠ []) :
    joinSlash (xs ++ ys) = joinSlash xs ++ slash :: joinSlash ys := by
  induction xs with
  | nil => exact absurd rfl hx
  | cons x xs ih =>
    by_cases hxs : xs = []
    · rw [hxs, List.singleton_append, joinSlash_cons hy]
      rfl
    · have hmore : xs ++ ys ≠ [] := List.append_ne_nil_of_left_ne_nil hxs ys
      rw [List.cons_append, joinSlash_cons hmore, ih hxs, joinSlash_cons hxs, List.append_assoc,
        List.cons_append]

theorem slash_slash_of_nil {before after : List Bytes} (hbefore : before ≠ [])
    (hafter : after ≠ []) : [slash, slash] <:+: joinSlash (before ++ [] :: after) := by
  refine ⟨joinSlash before, joinSlash after, ?_⟩
  rw [joinSlash_append hbefore (List.cons_ne_nil [] after), joinSlash_cons hafter,
    List.append_assoc]
  rfl

theorem Tidy.exists_pieces {p : Path} (h : p.Tidy) : ∃ names : List Bytes,
    (∀ n ∈ names, IsName n) ∧
    (p.bytes = slash :: joinSlash names ∨
      names ≠ [] ∧ p.bytes = slash :: joinSlash names ++ [slash]) := by
  obtain ⟨rest, hp⟩ := isAbsolute_iff.mp h.absolute
  have hbytes : p.bytes = slash :: rest := congrArg bytes hp
  have hpieces : splitSlash p.bytes = [] :: splitSlash rest := by rw [hbytes, splitSlash_slash]
  obtain ⟨init, last, hsplit⟩ : ∃ init last, splitSlash rest = init ++ [last] :=
    ⟨_, _, (List.dropLast_concat_getLast (splitSlash_ne_nil rest)).symm⟩
  have hrest : rest = joinSlash (init ++ [last]) := by rw [← hsplit, joinSlash_splitSlash]
  have hname : ∀ n ∈ init ++ [last], n ≠ [] → IsName n := by
    intro n hn hne
    have hmem : n ∈ splitSlash p.bytes := by
      rw [hpieces, hsplit]
      exact List.mem_cons_of_mem [] hn
    refine ⟨hne, ?_, ?_, slash_notMem_of_mem_splitSlash hmem⟩
    · rintro rfl
      exact h.no_dot hmem
    · rintro rfl
      exact h.no_dotdot hmem
  have hinit : ∀ n ∈ init, n ≠ [] := by
    rintro n hn rfl
    obtain ⟨before, after, rfl⟩ := List.append_of_mem hn
    have hinfix := slash_slash_of_nil (List.cons_ne_nil [] before)
      (List.append_ne_nil_of_right_ne_nil after (List.cons_ne_nil last []))
    apply h.no_repeat
    rw [← joinSlash_splitSlash p.bytes, hpieces, hsplit]
    simpa using hinfix
  by_cases hlast : last = []
  · subst hlast
    by_cases hnil : init = []
    · subst hnil
      exact ⟨[], nofun, Or.inl (by rw [hbytes, hrest]; rfl)⟩
    · refine ⟨init, fun n hn => hname n (List.mem_append_left _ hn) (hinit n hn),
        Or.inr ⟨hnil, ?_⟩⟩
      rw [hbytes, hrest, joinSlash_append hnil (List.cons_ne_nil _ _)]
      rfl
  · refine ⟨init ++ [last], fun n hn => hname n hn ?_, Or.inl (by rw [hbytes, hrest])⟩
    rcases List.mem_append.mp hn with hn | hn
    · exact hinit n hn
    · rwa [List.mem_singleton.mp hn]

theorem unslashed_names {names : List Bytes} (h : ∀ n ∈ names, IsName n) :
    unslashed (slash :: joinSlash names) = slash :: joinSlash names := by
  rw [unslashed, if_neg]
  rintro ⟨hlast, hne⟩
  have hnames : names ≠ [] := by
    rintro rfl
    exact hne rfl
  obtain ⟨front, hfront⟩ := List.getLast?_eq_some_iff.mp hlast
  have hsplit := congrArg splitSlash hfront
  rw [splitSlash_slash, splitSlash_joinSlash hnames (slash_notMem_names h),
    splitSlash_append_slash, splitSlash_nil] at hsplit
  have hmem : [] ∈ names := by
    have hend := congrArg List.getLast? hsplit
    rw [List.getLast?_concat, List.getLast?_cons_of_ne_nil hnames] at hend
    exact List.mem_of_getLast? hend
  exact (h [] hmem).ne_nil rfl

theorem unslashed_concat (names : List Bytes) :
    unslashed (slash :: joinSlash names ++ [slash]) = slash :: joinSlash names := by
  rw [unslashed, if_pos, List.dropLast_concat]
  refine ⟨List.getLast?_concat, ?_⟩
  simp

theorem Tidy.exists_names {p : Path} (h : p.Tidy) : ∃ names : List Bytes,
    (∀ n ∈ names, IsName n) ∧
    unslashed p.bytes = slash :: joinSlash names ∧
    p.components = .root :: names.map .name ∧
    (unslashed p.bytes = p.bytes ∨ names ≠ [] ∧ p.bytes = unslashed p.bytes ++ [slash]) := by
  obtain ⟨names, hnames, hp⟩ := h.exists_pieces
  obtain ⟨bytes⟩ := p
  dsimp only at hp
  rcases hp with rfl | ⟨hne, rfl⟩
  · have hsame := unslashed_names hnames
    exact ⟨names, hnames, hsame, by rw [components_slash, body_names hnames], Or.inl hsame⟩
  · have hcut := unslashed_concat names
    refine ⟨names, hnames, hcut, ?_, Or.inr ⟨hne, by rw [hcut]⟩⟩
    rw [List.cons_append, components_slash, body_append_slash, body_names hnames, body_nil,
      List.append_nil]

end LspHost.Path
