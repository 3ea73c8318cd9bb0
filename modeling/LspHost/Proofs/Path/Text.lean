import LspHost.Path.Normal
import LspHost.Proofs.Path.Components
import LspHost.Proofs.Text.Utf8

/-!
# Paths that are text

The text of a path shows every byte of it exactly if the path is text. A slash is a character of
its own, so a path is text exactly if each of its pieces is, and joining paths or bringing them into
normal form keeps them text.
-/

namespace LspHost

namespace Utf8

/-- The bytes are those of some text. -/
def IsText (bs : Bytes) : Prop :=
  ∃ s : String, bs = encode s

theorem isText_encode (s : String) : IsText (encode s) :=
  ⟨s, rfl⟩

theorem isText_nil : IsText [] :=
  ⟨"", rfl⟩

theorem isText_iff_chars {bs : Bytes} : IsText bs ↔ ∃ cs : List Char, bs = encodeChars cs := by
  constructor
  · rintro ⟨s, rfl⟩
    exact ⟨s.toList, rfl⟩
  · rintro ⟨cs, rfl⟩
    refine ⟨String.ofList cs, ?_⟩
    rw [encode, String.toList_ofList]

theorem isText_iff_decode? {bs : Bytes} : IsText bs ↔ (decode? bs).isSome = true := by
  rw [Option.isSome_iff_exists]
  exact exists_congr fun s => decode?_eq_some_iff.symm

instance (bs : Bytes) : Decidable (IsText bs) :=
  decidable_of_iff _ isText_iff_decode?.symm

theorem decodeLossy_encode (s : String) : decodeLossy (encode s) = s := by
  have hshown : (fun p : Piece => p.char?.getD '\uFFFD') ∘ Piece.char = id := rfl
  rw [decodeLossy, encode, pieces_encodeChars, List.map_map, hshown, List.map_id,
    String.ofList_toList]

theorem encode_decodeLossy_iff {bs : Bytes} : encode (decodeLossy bs) = bs ↔ IsText bs := by
  constructor
  · intro h
    exact ⟨decodeLossy bs, h.symm⟩
  · rintro ⟨s, rfl⟩
    rw [decodeLossy_encode]

theorem IsText.append {xs ys : Bytes} (hx : IsText xs) (hy : IsText ys) : IsText (xs ++ ys) := by
  rw [isText_iff_chars] at hx hy ⊢
  obtain ⟨cs, rfl⟩ := hx
  obtain ⟨ds, rfl⟩ := hy
  exact ⟨cs ++ ds, List.flatMap_append.symm⟩

/-- A byte below 0x80 is a character, and no part of another one. -/
theorem encodeChar_of_mem {b : UInt8} {c : Char} (hb : b < 0x80)
    (h : b ∈ String.utf8EncodeChar c) : String.utf8EncodeChar c = [b] := by
  have hlow : b.toNat < 0x80 := UInt8.lt_iff_toNat_lt.mp hb
  rw [String.utf8EncodeChar] at h ⊢
  split_ifs at h ⊢ with hone htwo hthree
  · rw [List.mem_singleton.mp h]
  all_goals
    exfalso
    simp only [List.mem_cons, List.not_mem_nil, or_false] at h
    rcases h with rfl | rfl | rfl | rfl <;> simp only [UInt8.toNat_ofNat'] at hlow <;> omega

theorem exists_encodeChars_of_append {b : UInt8} (hb : b < 0x80) {cs : List Char} {xs ys : Bytes}
    (h : encodeChars cs = xs ++ b :: ys) :
    ∃ before after : List Char, xs = encodeChars before ∧ ys = encodeChars after := by
  induction cs generalizing xs with
  | nil => exact absurd h.symm (List.append_ne_nil_of_right_ne_nil xs (List.cons_ne_nil b ys))
  | cons c cs ih =>
    have hcs : String.utf8EncodeChar c ++ encodeChars cs = xs ++ b :: ys := h
    rcases List.append_eq_append_iff.mp hcs with ⟨front, rfl, hrest⟩ | ⟨back, hc, hrest⟩
    · -- the byte comes after the first character
      obtain ⟨before, after, rfl, rfl⟩ := ih hrest
      exact ⟨c :: before, after, rfl, rfl⟩
    · cases back with
      | nil =>
        obtain ⟨before, after, hnil, rfl⟩ := @ih [] hrest.symm
        refine ⟨[c], after, ?_, rfl⟩
        rw [List.append_nil] at hc
        exact hc.symm.trans (List.append_nil _).symm
      | cons first back =>
        -- the byte is one of the first character, hence all of it
        obtain ⟨rfl, hys⟩ := List.cons.inj hrest
        have hmem : b ∈ String.utf8EncodeChar c :=
          hc ▸ List.mem_append_right xs List.mem_cons_self
        rw [encodeChar_of_mem hb hmem] at hc
        rcases List.singleton_eq_append_iff.mp hc with ⟨rfl, hback⟩ | ⟨-, hback⟩
        · obtain rfl : back = [] := (List.cons.inj hback).2
          exact ⟨[], cs, rfl, hys⟩
        · exact absurd hback (List.cons_ne_nil b back)

theorem isText_append_cons_iff {b : UInt8} (hb : b < 0x80) {xs ys : Bytes} :
    IsText (xs ++ b :: ys) ↔ IsText xs ∧ IsText ys := by
  simp only [isText_iff_chars]
  constructor
  · rintro ⟨cs, h⟩
    obtain ⟨before, after, hx, hy⟩ := exists_encodeChars_of_append hb h.symm
    exact ⟨⟨before, hx⟩, ⟨after, hy⟩⟩
  · rintro ⟨⟨before, rfl⟩, ⟨after, rfl⟩⟩
    obtain ⟨c, hc⟩ : ∃ c, lead b = .char c := ⟨_, by rw [lead, if_pos hb]⟩
    refine ⟨before ++ c :: after, ?_⟩
    rw [encodeChars, encodeChars, encodeChars, List.flatMap_append, List.flatMap_cons,
      encodeChar_of_lead hc, List.singleton_append]

end Utf8

namespace Path

open Utf8 (IsText)

theorem ofString_text_iff {p : Path} : ofString p.text = p ↔ IsText p.bytes := by
  rw [← Utf8.encode_decodeLossy_iff]
  exact Path.mk.injEq .. ▸ Iff.rfl

theorem isText_append_slash_iff {xs ys : Bytes} :
    IsText (xs ++ slash :: ys) ↔ IsText xs ∧ IsText ys :=
  Utf8.isText_append_cons_iff (by decide)

theorem isText_joinSlash_iff {pieces : List Bytes} :
    IsText (joinSlash pieces) ↔ ∀ piece ∈ pieces, IsText piece := by
  fun_induction joinSlash pieces with
  | case1 => simp [Utf8.isText_nil]
  | case2 piece => exact List.forall_mem_singleton.symm
  | case3 piece pieces hne ih => rw [isText_append_slash_iff, ih, List.forall_mem_cons]

theorem isText_iff_splitSlash {bs : Bytes} :
    IsText bs ↔ ∀ piece ∈ splitSlash bs, IsText piece := by
  rw [← isText_joinSlash_iff, joinSlash_splitSlash]

theorem isText_join_iff {p q : Path} (hq : q.isAbsolute = false) :
    IsText (p.join q).bytes ↔ IsText p.bytes ∧ IsText q.bytes := by
  by_cases hp : p.bytes = []
  · rw [join, hq, if_neg Bool.false_ne_true, if_pos (Or.inl hp), hp, List.nil_append]
    exact (and_iff_right Utf8.isText_nil).symm
  · obtain ⟨stem, hjoin, hstem⟩ := exists_join hp hq
    rw [hjoin, isText_append_slash_iff]
    rcases hstem with hstem | hstem
    · rw [hstem]
    · rw [hstem, isText_append_slash_iff, and_iff_left Utf8.isText_nil]

theorem isText_join {p q : Path} (hp : IsText p.bytes) (hq : IsText q.bytes) :
    IsText (p.join q).bytes := by
  cases habs : q.isAbsolute with
  | true => rwa [join, if_pos habs]
  | false => exact (isText_join_iff habs).mpr ⟨hp, hq⟩

theorem bytes_of_ofPiece? {piece : Bytes} {c : Component}
    (h : Component.ofPiece? piece = some c) : c.bytes = piece := by
  rw [Component.ofPiece?] at h
  split_ifs at h with hvacant hparent
  · rw [← Option.some.inj h, hparent, Component.bytes]
  · rw [← Option.some.inj h, Component.bytes]

theorem isText_of_mem_components {p : Path} (hp : IsText p.bytes) {c : Component}
    (hc : c ∈ p.components) : IsText c.bytes := by
  rw [components_eq, List.mem_append, Option.mem_toList] at hc
  rcases hc with hc | hc
  · cases habs : p.isAbsolute with
    | true =>
      obtain ⟨bs, rfl⟩ := isAbsolute_iff.mp habs
      rw [split_slash] at hc
      rw [← Option.some.inj hc]
      exact ⟨"/", rfl⟩
    | false =>
      rcases split_fst_relative habs with hnone | hcurrent
      · rw [hnone] at hc
        cases hc
      · rw [hcurrent] at hc
        rw [← Option.some.inj hc]
        exact ⟨".", rfl⟩
  · obtain ⟨piece, hpiece, hof⟩ := List.mem_filterMap.mp hc
    rw [bytes_of_ofPiece? hof]
    exact isText_iff_splitSlash.mp hp piece hpiece

theorem mem_of_mem_foldl {cs kept : List Component} {d : Component}
    (h : d ∈ cs.foldl foldComponent kept) : d ∈ cs ∨ d ∈ kept := by
  induction cs generalizing kept with
  | nil => exact Or.inr h
  | cons c cs ih =>
    rcases ih h with hd | hd
    · exact Or.inl (List.mem_cons_of_mem c hd)
    · have hfold : d = c ∨ d ∈ kept := by
        rw [foldComponent.eq_def] at hd
        split at hd
        · exact Or.inr hd
        · split at hd
          · exact Or.inr (List.mem_cons_of_mem _ hd)
          · exact Or.inr hd
          · exact List.mem_cons.mp hd
        · exact List.mem_cons.mp hd
      rcases hfold with rfl | hd
      · exact Or.inl List.mem_cons_self
      · exact Or.inr hd

theorem isText_ofComponents {cs : List Component} (h : ∀ c ∈ cs, IsText c.bytes) :
    IsText (ofComponents cs).bytes := by
  have hjoin : ∀ ds : List Component, (∀ d ∈ ds, IsText d.bytes) →
      IsText (joinSlash (ds.map Component.bytes)) :=
    fun ds hds => isText_joinSlash_iff.mpr (List.forall_mem_map.mpr hds)
  rw [ofComponents.eq_def]
  split
  · next rest =>
    have hrest := hjoin rest fun d hd => h d (List.mem_cons_of_mem _ hd)
    exact isText_append_slash_iff.mpr ⟨Utf8.isText_nil, hrest⟩
  · exact hjoin cs h

theorem isText_normalize {p : Path} (hp : IsText p.bytes) : IsText p.normalize.bytes := by
  refine isText_ofComponents fun c hc => ?_
  rw [normalComponents, List.mem_reverse] at hc
  rcases mem_of_mem_foldl hc with hc | hc
  · exact isText_of_mem_components hp hc
  · exact absurd hc List.not_mem_nil

end Path

end LspHost
