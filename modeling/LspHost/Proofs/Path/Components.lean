import LspHost.Path.Basic
import Mathlib.Data.List.Basic
import Mathlib.Data.List.TakeWhile

/-!
# The components of joined paths

Cutting at slashes and putting the pieces together again are inverse to each other. So the
components of a path are what its beginning adds, the root or a `.`, and what its pieces name, and
a relative path that is joined to it adds what its own pieces name.
-/

namespace LspHost.Path

/-- A piece that names an entry of a directory. -/
structure IsName (piece : Bytes) : Prop where
  ne_nil : piece ≠ []
  ne_dot : piece ≠ [dot]
  ne_dotdot : piece ≠ [dot, dot]
  slash_notMem : slash ∉ piece

instance (piece : Bytes) : Decidable (IsName piece) :=
  decidable_of_iff (piece ≠ [] ∧ piece ≠ [dot] ∧ piece ≠ [dot, dot] ∧ slash ∉ piece)
    ⟨fun ⟨h₁, h₂, h₃, h₄⟩ => ⟨h₁, h₂, h₃, h₄⟩, fun h => ⟨h.1, h.2, h.3, h.4⟩⟩

theorem vacant_iff {piece : Bytes} : vacant piece = true ↔ piece = [] ∨ piece = [dot] := by
  simp [vacant]

theorem IsName.not_vacant {piece : Bytes} (h : IsName piece) : vacant piece = false := by
  simp [vacant, h.ne_nil, h.ne_dot]

theorem isName_of_not_vacant {piece : Bytes} (hslash : slash ∉ piece) (hv : vacant piece = false)
    (hd : piece ≠ [dot, dot]) : IsName piece := by
  rw [← Bool.not_eq_true, vacant_iff, not_or] at hv
  exact ⟨hv.1, hv.2, hd, hslash⟩

theorem splitSlash_eq (bs : Bytes) : splitSlash bs = bs.splitOn slash := by
  induction bs with
  | nil => rfl
  | cons b bs ih =>
    rw [splitSlash] at ih
    rw [splitSlash, splitOn, List.splitOn_cons_eq_if_modifyHead, ih]
    by_cases hb : b = slash
    · rw [if_pos hb, if_pos (beq_iff_eq.mpr hb)]
    · rw [if_neg hb, if_neg fun h => hb (beq_iff_eq.mp h)]
      obtain ⟨piece, pieces, h⟩ := List.exists_cons_of_ne_nil (List.splitOn_ne_nil slash bs)
      rw [h, List.modifyHead_cons]

theorem joinSlash_eq (pieces : List Bytes) : joinSlash pieces = [slash].intercalate pieces := by
  fun_induction joinSlash pieces with
  | case1 => rfl
  | case2 piece => exact List.intercalate_singleton.symm
  | case3 piece pieces hne ih =>
    rw [List.intercalate_cons_of_ne_nil fun h => hne h, ih, List.append_assoc,
      List.singleton_append]

theorem joinSlash_cons {x : Bytes} {ys : List Bytes} (hy : ys ≠ []) :
    joinSlash (x :: ys) = x ++ slash :: joinSlash ys := by
  cases ys with
  | nil => exact absurd rfl hy
  | cons y ys => rfl

theorem splitSlash_ne_nil (bs : Bytes) : splitSlash bs ≠ [] :=
  splitSlash_eq bs ▸ List.splitOn_ne_nil slash bs

@[simp] theorem splitSlash_nil : splitSlash [] = [[]] := rfl

theorem splitSlash_append_slash (xs ys : Bytes) :
    splitSlash (xs ++ slash :: ys) = splitSlash xs ++ splitSlash ys := by
  simp only [splitSlash_eq, List.splitOn_append_cons_self]

@[simp] theorem splitSlash_slash (bs : Bytes) : splitSlash (slash :: bs) = [] :: splitSlash bs :=
  splitSlash_append_slash [] bs

theorem splitSlash_joinSlash {pieces : List Bytes} (hne : pieces ≠ [])
    (h : ∀ piece ∈ pieces, slash ∉ piece) : splitSlash (joinSlash pieces) = pieces := by
  rw [splitSlash_eq, joinSlash_eq, List.splitOn_intercalate slash h hne]

theorem joinSlash_splitSlash (bs : Bytes) : joinSlash (splitSlash bs) = bs := by
  rw [splitSlash_eq, joinSlash_eq, List.intercalate_splitOn]

theorem mem_joinSlash_iff {b : UInt8} (hb : b ≠ slash) {names : List Bytes} :
    b ∈ joinSlash names ↔ ∃ n ∈ names, b ∈ n := by
  fun_induction joinSlash names with
  | case1 => simp
  | case2 piece => simp
  | case3 piece names hne ih => simp [ih, hb]

theorem length_joinSlash_append (pieces rest : List Bytes) :
    (joinSlash pieces).length ≤ (joinSlash (pieces ++ rest)).length := by
  fun_induction joinSlash pieces with
  | case1 => exact Nat.zero_le _
  | case2 piece =>
    cases rest with
    | nil => exact Nat.le_refl _
    | cons next rest =>
      rw [List.singleton_append, joinSlash, List.length_append]
      · exact Nat.le_add_right _ _
      · exact List.cons_ne_nil _ _
  | case3 piece pieces hne ih =>
    rw [List.cons_append, joinSlash, List.length_append, List.length_append, List.length_cons,
      List.length_cons]
    · omega
    · exact fun h => hne (List.append_eq_nil_iff.mp h).1

theorem splitSlash_injective {xs ys : Bytes} (h : splitSlash xs = splitSlash ys) : xs = ys := by
  rw [← joinSlash_splitSlash xs, h, joinSlash_splitSlash]

theorem slash_notMem_of_mem_splitSlash {bs piece : Bytes} (h : piece ∈ splitSlash bs) :
    slash ∉ piece := by
  induction bs generalizing piece with
  | nil =>
    rw [splitSlash_nil, List.mem_singleton] at h
    exact h ▸ List.not_mem_nil
  | cons b bs ih =>
    obtain ⟨first, pieces, hbs⟩ := List.exists_cons_of_ne_nil (splitSlash_ne_nil bs)
    rw [splitSlash] at hbs
    rw [splitSlash, hbs] at ih
    rw [splitSlash, splitOn, hbs] at h
    split at h <;> rcases List.mem_cons.mp h with rfl | h
    · exact List.not_mem_nil
    · exact ih h
    · next hb =>
      rw [List.mem_cons, not_or]
      exact ⟨Ne.symm hb, ih List.mem_cons_self⟩
    · exact ih (List.mem_cons_of_mem _ h)

theorem getLast?_splitSlash_iff {bs word : Bytes} (hword : slash ∉ word) :
    (splitSlash bs).getLast? = some word ↔ bs = word ∨ ∃ front, bs = front ++ slash :: word := by
  have hsplit : splitSlash word = [word] := by
    rw [splitSlash_eq, List.splitOn_eq_singleton hword]
  constructor
  · intro h
    obtain ⟨pieces, hpieces⟩ := List.getLast?_eq_some_iff.mp h
    by_cases hne : pieces = []
    · exact Or.inl (splitSlash_injective (by rw [hpieces, hne, hsplit, List.nil_append]))
    · have hslash : ∀ piece ∈ pieces, slash ∉ piece := fun piece hp =>
        slash_notMem_of_mem_splitSlash (hpieces ▸ List.mem_append_left _ hp)
      refine Or.inr ⟨joinSlash pieces, splitSlash_injective ?_⟩
      rw [hpieces, splitSlash_append_slash, splitSlash_joinSlash hne hslash, hsplit]
  · rintro (rfl | ⟨front, rfl⟩)
    · rw [hsplit, List.getLast?_singleton]
    · rw [splitSlash_append_slash, hsplit, List.getLast?_concat]

/-- What the pieces of a byte string name, its beginning aside. -/
def body (bs : Bytes) : List Component :=
  (splitSlash bs).filterMap Component.ofPiece?

@[simp] theorem body_nil : body [] = [] := rfl

theorem body_append_slash (xs ys : Bytes) : body (xs ++ slash :: ys) = body xs ++ body ys := by
  rw [body, splitSlash_append_slash, List.filterMap_append, body, body]

@[simp] theorem body_slash (bs : Bytes) : body (slash :: bs) = body bs :=
  body_append_slash [] bs

theorem ofPiece?_eq_none_iff {piece : Bytes} :
    Component.ofPiece? piece = none ↔ vacant piece = true := by
  rw [Component.ofPiece?]
  split
  · simp_all
  · split <;> simp_all

theorem eq_of_ofPiece?_eq_name {piece n : Bytes}
    (h : Component.ofPiece? piece = some (.name n)) : piece = n := by
  rw [Component.ofPiece?] at h
  split at h
  · cases h
  · split at h
    · cases h
    · exact Component.name.inj (Option.some.inj h)

theorem IsName.ofPiece? {piece : Bytes} (h : IsName piece) :
    Component.ofPiece? piece = some (.name piece) := by
  rw [Component.ofPiece?, if_neg (by simp [h.not_vacant]), if_neg h.ne_dotdot]

/-- A component that can stand anywhere in a path. -/
inductive Inner : Component → Prop
  | parent : Inner .parent
  | name {bytes : Bytes} (h : IsName bytes) : Inner (.name bytes)

theorem inner_of_mem_body {bs : Bytes} {c : Component} (h : c ∈ body bs) : Inner c := by
  obtain ⟨piece, hp, hc⟩ := List.mem_filterMap.mp h
  rw [Component.ofPiece?] at hc
  split at hc
  · cases hc
  · next hv =>
    split at hc <;> cases hc
    · exact .parent
    · next hd =>
      exact .name (isName_of_not_vacant (slash_notMem_of_mem_splitSlash hp)
        (Bool.eq_false_iff.mpr hv) hd)

theorem Inner.ofPiece?_bytes {c : Component} (h : Inner c) :
    Component.ofPiece? c.bytes = some c := by
  cases h with
  | parent => rfl
  | name h => exact h.ofPiece?

theorem Inner.slash_notMem {c : Component} (h : Inner c) : slash ∉ c.bytes := by
  cases h with
  | parent => decide
  | name h => exact h.slash_notMem

theorem Inner.not_vacant {c : Component} (h : Inner c) : vacant c.bytes = false := by
  cases h with
  | parent => decide
  | name h => exact h.not_vacant

theorem isAbsolute_iff {p : Path} : p.isAbsolute = true ↔ ∃ bs, p = ⟨slash :: bs⟩ := by
  rcases p with ⟨bs⟩
  rw [isAbsolute, decide_eq_true_iff, List.head?_eq_some_iff]
  exact ⟨fun ⟨rest, h⟩ => ⟨rest, congrArg Path.mk h⟩, fun ⟨rest, h⟩ => ⟨rest, congrArg bytes h⟩⟩

theorem split_slash (bs : Bytes) : split ⟨slash :: bs⟩ = (some .root, splitSlash bs) := by
  obtain ⟨piece, pieces, h⟩ := List.exists_cons_of_ne_nil (splitSlash_ne_nil bs)
  rw [split, splitSlash_slash, h]
  rfl

theorem eq_nil_of_splitSlash_eq {p : Path} {pieces : List Bytes} (h : p.isAbsolute = false)
    (hp : splitSlash p.bytes = [] :: pieces) : pieces = [] := by
  cases pieces with
  | nil => rfl
  | cons next pieces =>
    have hjoin := joinSlash_splitSlash p.bytes
    rw [hp, joinSlash, List.nil_append] at hjoin
    · rw [isAbsolute_iff.mpr ⟨_, congrArg Path.mk hjoin.symm⟩] at h
      cases h
    · exact List.cons_ne_nil _ _

theorem split_relative {p : Path} {piece : Bytes} {pieces : List Bytes}
    (h : p.isAbsolute = false) (hp : splitSlash p.bytes = piece :: pieces) :
    p.split = if piece = [dot] then (some .current, pieces) else (none, piece :: pieces) := by
  rw [split, hp]
  cases pieces with
  | nil => rfl
  | cons next pieces =>
    refine if_neg ?_
    rintro rfl
    exact List.cons_ne_nil _ _ (eq_nil_of_splitSlash_eq h hp)

theorem mem_splitSlash_of_mem_split_snd {p : Path} {piece : Bytes} (h : piece ∈ p.split.2) :
    piece ∈ splitSlash p.bytes := by
  cases hp : p.isAbsolute with
  | true =>
    obtain ⟨bs, rfl⟩ := isAbsolute_iff.mp hp
    rw [split_slash] at h
    rw [splitSlash_slash]
    exact List.mem_cons_of_mem _ h
  | false =>
    obtain ⟨first, pieces, hsplit⟩ := List.exists_cons_of_ne_nil (splitSlash_ne_nil p.bytes)
    rw [split_relative hp hsplit] at h
    rw [hsplit]
    split at h
    · exact List.mem_cons_of_mem _ h
    · exact h

theorem split_snd (p : Path) : p.split.2.filterMap Component.ofPiece? = body p.bytes := by
  cases h : p.isAbsolute with
  | true =>
    obtain ⟨bs, rfl⟩ := isAbsolute_iff.mp h
    rw [split_slash, body_slash, body]
  | false =>
    obtain ⟨piece, pieces, hp⟩ := List.exists_cons_of_ne_nil (splitSlash_ne_nil p.bytes)
    rw [split_relative h hp, body, hp]
    split
    · next hd =>
      rw [hd]
      rfl
    · rfl

theorem components_eq (p : Path) : p.components = p.split.1.toList ++ body p.bytes := by
  rw [components, split_snd]

theorem components_slash (bs : Bytes) : components ⟨slash :: bs⟩ = .root :: body bs := by
  rw [components_eq, split_slash, body_slash]
  rfl

theorem components_dot_slash (bs : Bytes) :
    components ⟨dot :: slash :: bs⟩ = .current :: body bs := by
  have hsplit : splitSlash (dot :: slash :: bs) = [dot] :: splitSlash bs :=
    splitSlash_append_slash [dot] bs
  have hbody : body (dot :: slash :: bs) = body bs := body_append_slash [dot] bs
  rw [components_eq, split_relative rfl hsplit, if_pos rfl, hbody]
  rfl

theorem root_notMem_body (bs : Bytes) : Component.root ∉ body bs := by
  intro h
  cases inner_of_mem_body h

theorem split_fst_relative {p : Path} (h : p.isAbsolute = false) :
    p.split.1 = none ∨ p.split.1 = some .current := by
  obtain ⟨piece, pieces, hp⟩ := List.exists_cons_of_ne_nil (splitSlash_ne_nil p.bytes)
  rw [split_relative h hp]
  split
  · exact Or.inr rfl
  · exact Or.inl rfl

theorem components_relative {p : Path} (h : p.split.1 = none) : p.components = body p.bytes := by
  rw [components_eq, h]
  rfl

theorem not_inner_of_split_fst {p : Path} {c : Component} (h : p.split.1 = some c) : ¬Inner c := by
  intro hc
  cases hp : p.isAbsolute with
  | true =>
    obtain ⟨bs, rfl⟩ := isAbsolute_iff.mp hp
    rw [split_slash] at h
    cases h
    cases hc
  | false =>
    rcases split_fst_relative hp with hs | hs <;> rw [hs] at h <;> cases h
    cases hc

theorem root_mem_components_iff {p : Path} : .root ∈ p.components ↔ p.isAbsolute = true := by
  cases h : p.isAbsolute with
  | true =>
    obtain ⟨bs, rfl⟩ := isAbsolute_iff.mp h
    simp [components_slash]
  | false =>
    have hbody := root_notMem_body p.bytes
    rcases split_fst_relative h with hs | hs <;> simp [components_eq, hs, hbody]

theorem body_joinSlash {pieces : List Bytes} (h : ∀ piece ∈ pieces, slash ∉ piece) :
    body (joinSlash pieces) = pieces.filterMap Component.ofPiece? := by
  by_cases hne : pieces = []
  · rw [hne]
    rfl
  · rw [body, splitSlash_joinSlash hne h]

/-- A path written with pieces of which the first names something begins with that piece. -/
theorem beginning_joinSlash {pieces : List Bytes} (h : ∀ piece ∈ pieces, slash ∉ piece)
    (hhead : ∀ piece ∈ pieces.head?, vacant piece = false) :
    isAbsolute ⟨joinSlash pieces⟩ = false ∧ (split ⟨joinSlash pieces⟩).1 = none := by
  cases pieces with
  | nil => exact ⟨rfl, rfl⟩
  | cons piece pieces =>
    have hsplit := splitSlash_joinSlash (List.cons_ne_nil piece pieces) h
    have hpiece := hhead piece rfl
    have hrelative : isAbsolute ⟨joinSlash (piece :: pieces)⟩ = false := by
      rw [Bool.eq_false_iff]
      intro habs
      obtain ⟨bs, hbs⟩ := isAbsolute_iff.mp habs
      rw [Path.mk.injEq] at hbs
      rw [hbs, splitSlash_slash, List.cons.injEq] at hsplit
      rw [← hsplit.1] at hpiece
      cases hpiece
    refine ⟨hrelative, ?_⟩
    rw [split_relative hrelative hsplit, if_neg]
    rintro rfl
    cases hpiece

section Inner

variable {cs : List Component} (h : ∀ c ∈ cs, Inner c)

include h

theorem slash_notMem_bytes : ∀ piece ∈ cs.map Component.bytes, slash ∉ piece :=
  List.forall_mem_map.mpr fun c hc => (h c hc).slash_notMem

theorem body_bytes : body (joinSlash (cs.map Component.bytes)) = cs := by
  rw [body_joinSlash (slash_notMem_bytes h), List.filterMap_map]
  exact (List.filterMap_congr fun c hc => (h c hc).ofPiece?_bytes).trans List.filterMap_some

theorem components_bytes : components ⟨joinSlash (cs.map Component.bytes)⟩ = cs := by
  have hhead : ∀ piece ∈ (cs.map Component.bytes).head?, vacant piece = false := by
    intro piece hp
    obtain ⟨c, hc, rfl⟩ := List.mem_map.mp (List.mem_of_mem_head? hp)
    exact (h c hc).not_vacant
  rw [components_relative (beginning_joinSlash (slash_notMem_bytes h) hhead).2, body_bytes h]

end Inner

theorem inner_names {names : List Bytes} (h : ∀ n ∈ names, IsName n) :
    ∀ c ∈ names.map Component.name, Inner c :=
  List.forall_mem_map.mpr fun n hn => .name (h n hn)

section Names

variable {names : List Bytes} (h : ∀ n ∈ names, IsName n)

include h

theorem slash_notMem_names : ∀ n ∈ names, slash ∉ n :=
  fun n hn => (h n hn).slash_notMem

theorem isAbsolute_names : isAbsolute ⟨joinSlash names⟩ = false :=
  (beginning_joinSlash (slash_notMem_names h) fun n hn =>
    (h n (List.mem_of_mem_head? hn)).not_vacant).1

theorem body_names : body (joinSlash names) = names.map .name := by
  rw [body_joinSlash (slash_notMem_names h), ← List.filterMap_eq_map]
  exact List.filterMap_congr fun n hn => (h n hn).ofPiece?

end Names

theorem join_join_name (p : Path) {n : Bytes} (hn : IsName n) {q : Path}
    (hq : q.isAbsolute = false) : (p.join ⟨n⟩).join q = p.join ⟨n ++ slash :: q.bytes⟩ := by
  have hname : isAbsolute ⟨n⟩ = false := isAbsolute_names (List.forall_mem_singleton.mpr hn)
  have hlong : isAbsolute ⟨n ++ slash :: q.bytes⟩ = false := by
    rwa [isAbsolute, List.head?_append_of_ne_nil n hn.ne_nil]
  have hend : ∀ front : Bytes, ¬(front ++ n = [] ∨ (front ++ n).getLast? = some slash) := by
    rintro front (hnil | hlast)
    · exact hn.ne_nil (List.append_eq_nil_iff.mp hnil).2
    · rw [List.getLast?_append_of_ne_nil front hn.ne_nil] at hlast
      exact hn.slash_notMem (List.mem_of_getLast? hlast)
  rw [join, hq, if_neg Bool.false_ne_true, join, hname, if_neg Bool.false_ne_true, join, hlong,
    if_neg Bool.false_ne_true]
  split
  · rw [if_neg (hend _), List.append_assoc]
  · rw [← List.singleton_append, ← List.append_assoc, if_neg (hend _)]
    simp

theorem exists_join {p q : Path} (hp : p.bytes ≠ []) (hq : q.isAbsolute = false) :
    ∃ stem, (p.join q).bytes = stem ++ slash :: q.bytes ∧
      (p.bytes = stem ∨ p.bytes = stem ++ [slash]) := by
  rw [join, hq, if_neg Bool.false_ne_true]
  split
  · next h =>
    obtain ⟨stem, hstem⟩ := List.getLast?_eq_some_iff.mp (h.resolve_left hp)
    refine ⟨stem, ?_, Or.inr hstem⟩
    rw [hstem, List.append_assoc, List.singleton_append]
  · exact ⟨p.bytes, rfl, Or.inl rfl⟩

/-- Below the root, the pieces of a joined path follow some that name what the path before it does. -/
theorem exists_split_join {p q : Path} (hp : p.isAbsolute = true) (hq : q.isAbsolute = false) :
    ∃ front, (p.join q).split = (some .root, front ++ splitSlash q.bytes) ∧
      front.filterMap Component.ofPiece? = body p.bytes := by
  obtain ⟨bs, rfl⟩ := isAbsolute_iff.mp hp
  obtain ⟨stem, hjoin, hstem⟩ := exists_join (List.cons_ne_nil slash bs) hq
  have hpath : (join ⟨slash :: bs⟩ q) = ⟨stem ++ slash :: q.bytes⟩ := congrArg Path.mk hjoin
  have hbody : body stem = body (slash :: bs) := by
    rcases hstem with hstem | hstem
    · rw [← hstem]
    · rw [show slash :: bs = stem ++ slash :: [] from hstem, body_append_slash, body_nil,
        List.append_nil]
  rw [hpath, ← hbody]
  cases stem with
  | nil => exact ⟨[], split_slash _, rfl⟩
  | cons b stem =>
    obtain rfl : b = slash := by
      rcases hstem with hstem | hstem <;> exact (List.cons.inj hstem).1.symm
    refine ⟨splitSlash stem, ?_, ?_⟩
    · rw [List.cons_append, split_slash, splitSlash_append_slash]
    · rw [body_slash, body]

theorem body_join {p q : Path} (hq : q.isAbsolute = false) :
    body (p.join q).bytes = body p.bytes ++ body q.bytes := by
  by_cases hp : p.bytes = []
  · rw [join, hq, if_neg Bool.false_ne_true, if_pos (Or.inl hp), hp]
    rfl
  · obtain ⟨stem, hjoin, hstem⟩ := exists_join hp hq
    rw [hjoin, body_append_slash]
    rcases hstem with hstem | hstem
    · rw [hstem]
    · rw [hstem, body_append_slash, body_nil, List.append_nil]

theorem components_join {p q : Path} (hp : p.isAbsolute = true) (hq : q.isAbsolute = false) :
    (p.join q).components = p.components ++ body q.bytes := by
  obtain ⟨front, hsplit, hfront⟩ := exists_split_join hp hq
  obtain ⟨bs, rfl⟩ := isAbsolute_iff.mp hp
  rw [components_eq, components_slash, hsplit, body_join hq, body_slash]
  rfl

theorem components_join_names {p : Path} (hp : p.isAbsolute = true) {names : List Bytes}
    (h : ∀ n ∈ names, IsName n) :
    (p.join ⟨joinSlash names⟩).components = p.components ++ names.map .name := by
  rw [components_join hp (isAbsolute_names h), body_names h]

theorem isAbsolute_join (p q : Path) :
    (p.join q).isAbsolute = (q.isAbsolute || p.isAbsolute) := by
  cases hq : q.isAbsolute with
  | true => rw [join, if_pos hq, hq, Bool.true_or]
  | false =>
    rw [Bool.false_or]
    by_cases hp : p.bytes = []
    · rw [join, hq, if_neg Bool.false_ne_true, if_pos (Or.inl hp), hp, List.nil_append, hq,
        isAbsolute, hp]
      rfl
    · rw [join, hq, if_neg Bool.false_ne_true, isAbsolute, isAbsolute]
      obtain ⟨b, bs, hb⟩ := List.exists_cons_of_ne_nil hp
      split <;> rw [hb] <;> rfl

theorem extensionOf?_eq_some_iff {name ext : Bytes} (hext : dot ∉ ext) :
    extensionOf? name = some ext ↔ ∃ stem, stem ≠ [] ∧ name = stem ++ dot :: ext := by
  simp only [extensionOf?]
  constructor
  · intro h
    have hcut := List.takeWhile_append_dropWhile (p := (· ≠ dot)) (l := name.reverse)
    have hhead := List.head?_dropWhile_not (· ≠ dot) name.reverse
    split at h
    · cases h
    · cases h
    · next hnil hone =>
      obtain rfl := Option.some.inj h
      match hrest : name.reverse.dropWhile (· ≠ dot) with
      | [] => exact absurd hrest hnil
      | [b] => exact absurd hrest (hone b)
      | b :: b' :: before =>
        rw [hrest] at hcut hhead
        obtain rfl : b = dot := by simpa using hhead
        have hname := congrArg List.reverse hcut
        rw [List.reverse_reverse, List.reverse_append] at hname
        exact ⟨(b' :: before).reverse, by simp, by simpa using hname.symm⟩
  · rintro ⟨stem, hstem, rfl⟩
    have hback : (stem ++ dot :: ext).reverse = ext.reverse ++ dot :: stem.reverse := by simp
    have hno : ∀ b ∈ ext.reverse, decide (b ≠ dot) = true := by
      intro b hb
      have hne : b ≠ dot := fun h => hext (h ▸ List.mem_reverse.mp hb)
      exact decide_eq_true hne
    rw [hback, List.dropWhile_append_of_pos hno, List.takeWhile_append_of_pos hno]
    obtain ⟨b, before, hb⟩ := List.exists_cons_of_ne_nil (List.reverse_ne_nil_iff.mpr hstem)
    simp [hb]

end LspHost.Path
