import LspHost.Proofs.Path.Components
import Mathlib.Data.List.DropRight

/-!
# The part of a path below another one

One path is below another one if its components begin with those of the other, whatever its text
begins with. What is left has the components that follow, and its text ends in the last of them.
-/

namespace LspHost.Path

theorem dropComponents_isSome_iff (pieces : List Bytes) (cs : List Component) :
    (dropComponents pieces cs).isSome ↔ cs <+: pieces.filterMap Component.ofPiece? := by
  fun_induction dropComponents pieces cs with
  | case1 pieces => simp
  | case2 c cs => simp
  | case3 piece pieces c cs hnone ih => rw [ih, List.filterMap_cons_none hnone]
  | case4 piece pieces c cs hsome ih =>
    rw [ih, List.filterMap_cons_some hsome, List.cons_prefix_cons, and_iff_right rfl]
  | case5 piece pieces c cs d hsome hne =>
    rw [List.filterMap_cons_some hsome, List.cons_prefix_cons]
    simp [Ne.symm hne]

theorem suffix_of_dropComponents {pieces rest : List Bytes} {cs : List Component}
    (h : dropComponents pieces cs = some rest) :
    rest <:+ pieces ∧
      pieces.filterMap Component.ofPiece? = cs ++ rest.filterMap Component.ofPiece? := by
  fun_induction dropComponents pieces cs with
  | case1 pieces => exact Option.some.inj h ▸ ⟨List.suffix_rfl, rfl⟩
  | case2 c cs => cases h
  | case3 piece pieces c cs hnone ih =>
    obtain ⟨hsuffix, hfilter⟩ := ih h
    refine ⟨hsuffix.trans (List.suffix_cons _ _), ?_⟩
    rw [List.filterMap_cons_none hnone, hfilter]
  | case4 piece pieces c cs hsome ih =>
    obtain ⟨hsuffix, hfilter⟩ := ih h
    refine ⟨hsuffix.trans (List.suffix_cons _ _), ?_⟩
    rw [List.filterMap_cons_some hsome, hfilter, List.cons_append]
  | case5 => cases h

/-- Dropping what some pieces name leaves, of those pieces, at most vacant ones. -/
theorem dropComponents_append (front rest : List Bytes) :
    ∃ vacants, (∀ piece ∈ vacants, vacant piece = true) ∧
      dropComponents (front ++ rest) (front.filterMap Component.ofPiece?) =
        some (vacants ++ rest) := by
  induction front with
  | nil => exact ⟨[], nofun, by rw [List.filterMap_nil, dropComponents, List.nil_append]⟩
  | cons piece front ih =>
    obtain ⟨vacants, hvacants, hdrop⟩ := ih
    cases hpiece : Component.ofPiece? piece with
    | some d =>
      refine ⟨vacants, hvacants, ?_⟩
      rw [List.filterMap_cons_some hpiece, List.cons_append, dropComponents, hpiece]
      exact (if_pos rfl).trans hdrop
    | none =>
      rw [List.filterMap_cons_none hpiece]
      cases hcs : front.filterMap Component.ofPiece? with
      | nil =>
        refine ⟨piece :: front, List.forall_mem_cons.mpr ⟨ofPiece?_eq_none_iff.mp hpiece, ?_⟩, ?_⟩
        · intro piece hp
          exact ofPiece?_eq_none_iff.mp (List.filterMap_eq_nil_iff.mp hcs piece hp)
        · rw [dropComponents]
      | cons c cs =>
        refine ⟨vacants, hvacants, ?_⟩
        rw [List.cons_append, dropComponents, hpiece]
        exact hcs ▸ hdrop

theorem filterMap_dropWhile_vacant (pieces : List Bytes) :
    (pieces.dropWhile vacant).filterMap Component.ofPiece? =
      pieces.filterMap Component.ofPiece? := by
  induction pieces with
  | nil => rfl
  | cons piece pieces ih =>
    cases hv : vacant piece with
    | true =>
      rw [List.dropWhile_cons_of_pos hv, ih, List.filterMap_cons_none (ofPiece?_eq_none_iff.mpr hv)]
    | false => rw [List.dropWhile_cons_of_neg (by simp [hv])]

theorem trimEnd_eq (pieces : List Bytes) : trimEnd pieces = pieces.rdropWhile vacant := rfl

theorem filterMap_trimEnd (pieces : List Bytes) :
    (trimEnd pieces).filterMap Component.ofPiece? = pieces.filterMap Component.ofPiece? := by
  rw [trimEnd, List.filterMap_reverse, filterMap_dropWhile_vacant, List.filterMap_reverse,
    List.reverse_reverse]

theorem mem_of_mem_trimEnd {pieces : List Bytes} {piece : Bytes} (h : piece ∈ trimEnd pieces) :
    piece ∈ pieces :=
  (List.rdropWhile_prefix vacant pieces).subset h

theorem head?_of_head?_trimEnd {pieces : List Bytes} {piece : Bytes}
    (h : piece ∈ (trimEnd pieces).head?) : piece ∈ pieces.head? := by
  obtain ⟨rest, hrest⟩ := List.rdropWhile_prefix vacant pieces
  obtain ⟨more, hmore⟩ := List.head?_eq_some_iff.mp h
  rw [← hrest, ← trimEnd_eq, hmore]
  rfl

/-- The text ends in a piece that names something, if anything in it does. -/
def Trimmed (bs : Bytes) : Prop :=
  ∀ piece ∈ (splitSlash bs).getLast?, vacant piece = true → body bs = []

theorem trimmed_joinSlash {pieces : List Bytes} (h : ∀ piece ∈ pieces, slash ∉ piece) :
    Trimmed (joinSlash (trimEnd pieces)) := by
  intro piece hlast hv
  by_cases hne : trimEnd pieces = []
  · rw [hne]
    rfl
  · rw [splitSlash_joinSlash hne fun piece hp => h piece (mem_of_mem_trimEnd hp),
      List.getLast?_eq_getLast_of_ne_nil hne, Option.mem_some_iff] at hlast
    subst hlast
    exact absurd hv (List.rdropWhile_last_not vacant _ hne)

theorem Trimmed.append_slash {bs front : Bytes} (h : Trimmed bs) (hfront : body front = []) :
    Trimmed (front ++ slash :: bs) := by
  intro piece hlast hv
  rw [splitSlash_append_slash, List.getLast?_append_of_ne_nil _ (splitSlash_ne_nil bs)] at hlast
  rw [body_append_slash, hfront, h piece hlast hv, List.nil_append]

theorem fileName?_eq_some_iff_getLast? {p : Path} {n : Bytes} :
    p.fileName? = some n ↔ p.components.getLast? = some (.name n) := by
  rw [fileName?]
  split
  · next m h => rw [h, Option.some_inj, Option.some_inj, Component.name.injEq]
  · next h => exact ⟨nofun, fun hn => absurd hn (h n)⟩

theorem fileName?_eq_some_iff {p : Path} {n : Bytes} (h : Trimmed p.bytes) (hn : IsName n) :
    p.fileName? = some n ↔ (splitSlash p.bytes).getLast? = some n := by
  obtain ⟨front, last, hsplit⟩ :=
    (List.eq_nil_or_concat' (splitSlash p.bytes)).resolve_left (splitSlash_ne_nil p.bytes)
  have hlast : (splitSlash p.bytes).getLast? = some last := by rw [hsplit, List.getLast?_concat]
  rw [fileName?_eq_some_iff_getLast?, hlast, components_eq, Option.some_inj]
  cases hv : vacant last with
  | true =>
    rw [h last hlast hv, List.append_nil]
    refine ⟨fun hc => ?_, fun hl => ?_⟩
    · have hfirst : p.split.1 = some (.name n) := by
        cases hs : p.split.1 <;> simp_all
      exact absurd (.name hn) (not_inner_of_split_fst hfirst)
    · rw [hl, hn.not_vacant] at hv
      cases hv
  | false =>
    obtain ⟨c, hc⟩ := Option.ne_none_iff_exists'.mp
      (mt ofPiece?_eq_none_iff.mp (Bool.eq_false_iff.mp hv))
    have hbody : body p.bytes = front.filterMap Component.ofPiece? ++ [c] := by
      rw [body, hsplit, List.filterMap_append, List.filterMap_cons_some hc, List.filterMap_nil]
    rw [hbody, ← List.append_assoc, List.getLast?_concat, Option.some_inj]
    refine ⟨fun hcn => ?_, fun hl => ?_⟩
    · rw [hcn] at hc
      exact eq_of_ofPiece?_eq_name hc
    · rw [hl, hn.ofPiece?] at hc
      exact (Option.some.inj hc).symm

section Below

variable {p base rest : Path}

theorem split_fst_eq (hbase : base.components ≠ [])
    (h : base.components <+: p.components) : p.split.1 = base.split.1 := by
  rw [components_eq] at hbase h
  rw [components_eq] at h
  cases hb : base.split.1 with
  | some d =>
    rw [hb, Option.toList_some, List.singleton_append] at h
    cases hp : p.split.1 with
    | some d' =>
      rw [hp, Option.toList_some, List.singleton_append, List.cons_prefix_cons] at h
      rw [h.1]
    | none =>
      rw [hp, Option.toList_none, List.nil_append] at h
      exact absurd (inner_of_mem_body (h.subset List.mem_cons_self)) (not_inner_of_split_fst hb)
  | none =>
    rw [hb, Option.toList_none, List.nil_append] at hbase h
    obtain ⟨c, cs, hc⟩ := List.exists_cons_of_ne_nil hbase
    cases hp : p.split.1 with
    | none => rfl
    | some d =>
      rw [hp, hc, Option.toList_some, List.singleton_append, List.cons_prefix_cons] at h
      have hinner : Inner c := inner_of_mem_body (hc ▸ List.mem_cons_self)
      exact absurd (h.1 ▸ hinner) (not_inner_of_split_fst hp)

theorem below?_isSome_iff (p base : Path) :
    (p.below? base).isSome ↔ base.components <+: p.components := by
  by_cases hbase : base.components = []
  · rw [below?, if_pos hbase, hbase]
    simp only [List.nil_prefix, iff_true]
    split <;> rfl
  · rw [below?, if_neg hbase]
    by_cases hfirst : p.split.1 = base.split.1
    · rw [if_pos hfirst, Option.isSome_map, dropComponents_isSome_iff, split_snd, split_snd,
        components_eq, components_eq, hfirst, List.prefix_append_right_inj]
    · rw [if_neg hfirst]
      exact ⟨nofun, fun h => absurd (split_fst_eq hbase h) hfirst⟩

theorem slash_notMem_split_snd (p : Path) : ∀ piece ∈ p.split.2, slash ∉ piece :=
  fun _ h => slash_notMem_of_mem_splitSlash (mem_splitSlash_of_mem_split_snd h)

theorem components_joinSlash_trimEnd {pieces : List Bytes} (h : ∀ piece ∈ pieces, slash ∉ piece)
    (hhead : ∀ piece ∈ (trimEnd pieces).head?, vacant piece = false) :
    components ⟨joinSlash (trimEnd pieces)⟩ = pieces.filterMap Component.ofPiece? := by
  have htrim : ∀ piece ∈ trimEnd pieces, slash ∉ piece :=
    fun piece hp => h piece (mem_of_mem_trimEnd hp)
  rw [components_relative (beginning_joinSlash htrim hhead).2, body_joinSlash htrim,
    filterMap_trimEnd]

/-- A path without components is above every path, which is left as it is but for vacant pieces at
its end. -/
theorem below?_of_components_eq_nil (hbase : base.components = []) (h : p.below? base = some rest) :
    p.components = rest.components ∧ Trimmed rest.bytes := by
  rw [below?, if_pos hbase] at h
  have hslash := slash_notMem_split_snd p
  have htrim : Trimmed (joinSlash (trimEnd p.split.2)) := trimmed_joinSlash hslash
  have hbody : body (joinSlash (trimEnd p.split.2)) = body p.bytes := by
    rw [body_joinSlash fun piece hp => hslash piece (mem_of_mem_trimEnd hp), filterMap_trimEnd,
      split_snd]
  cases hp : p.isAbsolute with
  | true =>
    obtain ⟨bs, rfl⟩ := isAbsolute_iff.mp hp
    rw [split_slash] at h hbody htrim
    obtain rfl := Option.some.inj h
    refine ⟨?_, htrim.append_slash body_nil⟩
    rw [components_slash, components_slash, hbody, body_slash]
  | false =>
    obtain ⟨piece, pieces, hsplit⟩ := List.exists_cons_of_ne_nil (splitSlash_ne_nil p.bytes)
    have hs := split_relative hp hsplit
    by_cases hd : piece = [dot]
    · rw [if_pos hd] at hs
      rw [hs] at h hbody htrim
      rw [components_eq, hs, ← hbody]
      cases ht : trimEnd pieces with
      | nil =>
        simp only [ht] at h
        obtain rfl := Option.some.inj h
        exact ⟨rfl, fun _ _ _ => rfl⟩
      | cons first more =>
        simp only [ht] at h htrim
        obtain rfl := Option.some.inj h
        exact ⟨(components_dot_slash _).symm, htrim.append_slash (show body [dot] = [] from rfl)⟩
    · rw [if_neg hd] at hs
      rw [hs] at h hslash htrim
      obtain rfl := Option.some.inj h
      refine ⟨?_, htrim⟩
      rw [components_joinSlash_trimEnd hslash, ← hsplit, ← body,
        components_relative (by rw [hs])]
      intro first hfirst
      obtain rfl := Option.some.inj (head?_of_head?_trimEnd hfirst)
      by_contra hv
      obtain rfl := (vacant_iff.mp (Bool.of_not_eq_false hv)).resolve_right hd
      rw [eq_nil_of_splitSlash_eq hp hsplit] at hfirst
      cases hfirst

theorem below?_of_components_ne_nil (hbase : base.components ≠ [])
    (h : p.below? base = some rest) :
    p.components = base.components ++ rest.components ∧ Trimmed rest.bytes := by
  rw [below?, if_neg hbase, Option.ite_none_right_eq_some, Option.map_eq_some_iff] at h
  obtain ⟨hfirst, pieces, hdrop, rfl⟩ := h
  obtain ⟨hsuffix, hbody⟩ := suffix_of_dropComponents hdrop
  have hslash : ∀ piece ∈ pieces.dropWhile vacant, slash ∉ piece := fun piece hp =>
    slash_notMem_split_snd p piece (hsuffix.subset ((List.dropWhile_sublist vacant).subset hp))
  refine ⟨?_, trimmed_joinSlash hslash⟩
  rw [components_joinSlash_trimEnd hslash, filterMap_dropWhile_vacant]
  · rw [components_eq, components_eq, hfirst, ← split_snd p, hbody, split_snd, List.append_assoc]
  · intro piece hp
    have hnot := List.head?_dropWhile_not vacant pieces
    rw [head?_of_head?_trimEnd hp] at hnot
    exact hnot

theorem components_of_below? (h : p.below? base = some rest) :
    p.components = base.components ++ rest.components ∧ Trimmed rest.bytes := by
  by_cases hbase : base.components = []
  · rw [hbase, List.nil_append]
    exact below?_of_components_eq_nil hbase h
  · exact below?_of_components_ne_nil hbase h

theorem below?_join {names : List Bytes} (hbase : base.isAbsolute = true)
    (hnames : ∀ n ∈ names, IsName n) (hne : names ≠ []) :
    (base.join ⟨joinSlash names⟩).below? base = some ⟨joinSlash names⟩ := by
  obtain ⟨front, hsplit, hfront⟩ := exists_split_join hbase (isAbsolute_names hnames)
  rw [splitSlash_joinSlash hne (slash_notMem_names hnames)] at hsplit
  obtain ⟨vacants, hvacants, hdrop⟩ := dropComponents_append front names
  have hdropWhile : (vacants ++ names).dropWhile vacant = names := by
    rw [List.dropWhile_append_of_pos hvacants]
    obtain ⟨n, rest, rfl⟩ := List.exists_cons_of_ne_nil hne
    exact List.dropWhile_cons_of_neg (by simp [(hnames n List.mem_cons_self).not_vacant])
  have htrim : trimEnd names = names :=
    List.rdropWhile_eq_self_iff.mpr fun hl => by
      simp [(hnames _ (List.getLast_mem hl)).not_vacant]
  obtain ⟨bs, rfl⟩ := isAbsolute_iff.mp hbase
  rw [below?, if_neg (by simp [components_slash]), hsplit, split_snd, split_slash, if_pos rfl,
    ← hfront, hdrop, Option.map_some, hdropWhile, htrim]

end Below

end LspHost.Path
