import LspHost.Text.Utf8
import Mathlib.Tactic.SplitIfs

/-!
# Text and its bytes

The pieces of a byte string are all of it: the characters with their encodings, and the broken
pieces with the bytes that they consist of. The encoding of a character is cut into that character
again, whatever follows. So a byte string is text exactly if it is the encoding of that text.
-/

namespace LspHost.Utf8

def Piece.bytes : Piece → Bytes
  | char c => String.utf8EncodeChar c
  | broken bytes => bytes

theorem lead_toNat (b : UInt8) : lead b =
    let n := b.toNat
    if n < 0x80 then .char (Char.ofNat n)
    else if n < 0xC2 then .stray
    else if n < 0xE0 then .pending { read := [b], need := 0, code := n - 0xC0 }
    else if n < 0xF0 then
      .pending { read := [b], need := 1, code := n - 0xE0
                 low := if n = 0xE0 then 0xA0 else 0x80, high := if n = 0xED then 0x9F else 0xBF }
    else if n < 0xF5 then
      .pending { read := [b], need := 2, code := n - 0xF0
                 low := if n = 0xF0 then 0x90 else 0x80, high := if n = 0xF4 then 0x8F else 0xBF }
    else .stray := by
  simp only [lead, UInt8.lt_iff_toNat_lt, ← UInt8.toNat_inj, UInt8.reduceToNat]
  generalize b.toNat = n
  by_cases hone : n < 0x80
  · rw [if_pos hone, if_pos hone]
  by_cases hstray : n < 0xC2
  · rw [if_neg hone, if_pos hstray, if_neg hone, if_pos hstray]
  by_cases htwo : n < 0xE0
  · rw [if_neg hone, if_neg hstray, if_pos htwo, if_neg hone, if_neg hstray, if_pos htwo]
  rw [if_neg hone, if_neg hstray, if_neg htwo, if_neg hone, if_neg hstray, if_neg htwo]
  by_cases hthree : n < 0xF0
  · rw [if_pos hthree, if_pos hthree]
    by_cases he : n = 0xE0
    · subst he
      rfl
    by_cases hd : n = 0xED
    · subst hd
      rfl
    rw [if_neg he, if_neg hd, if_neg he, if_neg hd]
  have hne : n ≠ 0xE0 ∧ n ≠ 0xED := by omega
  rw [if_neg hne.1, if_neg hne.2, if_neg hthree, if_neg hthree]
  by_cases hfour : n < 0xF5
  · rw [if_pos hfour]
    by_cases hfirst : n = 0xF0
    · subst hfirst
      rfl
    by_cases hlast : n = 0xF4
    · subst hlast
      rfl
    rw [if_neg hfirst, if_neg hlast, if_pos (by omega), if_neg hfirst, if_neg hlast]
  · rw [if_neg (by omega), if_neg (by omega), if_neg (by omega), if_neg hfour]

/-- The byte may follow the bytes of a pending character. -/
def Pending.Admits (p : Pending) (b : UInt8) : Prop :=
  p.low.toNat ≤ b.toNat ∧ b.toNat ≤ p.high.toNat

section Steps

variable {b : UInt8} {p : Pending}

theorem admits_iff : p.low ≤ b ∧ b ≤ p.high ↔ p.Admits b := by
  rw [UInt8.le_iff_toNat_le, UInt8.le_iff_toNat_le, Pending.Admits]

theorem piecesFrom_pending (hl : lead b = .pending p) (rest : Bytes) :
    piecesFrom none (b :: rest) = piecesFrom (some p) rest := by
  rw [piecesFrom, hl]

theorem piecesFrom_more {need : Nat} (hb : p.Admits b) (hn : p.need = need + 1) (rest : Bytes) :
    piecesFrom (some p) (b :: rest) =
      piecesFrom (some { read := p.read ++ [b], need, code := p.code * 64 + (b.toNat - 0x80) })
        rest := by
  rw [piecesFrom, if_pos (admits_iff.mpr hb)]
  simp only [hn]

theorem piecesFrom_last (hb : p.Admits b) (hn : p.need = 0) (rest : Bytes) :
    piecesFrom (some p) (b :: rest) =
      .char (Char.ofNat (p.code * 64 + (b.toNat - 0x80))) :: piecesFrom none rest := by
  rw [piecesFrom, if_pos (admits_iff.mpr hb)]
  simp only [hn]

theorem piecesFrom_broken (hb : ¬ p.Admits b) (rest : Bytes) :
    piecesFrom (some p) (b :: rest) = .broken p.read :: piecesFrom none (b :: rest) := by
  conv => lhs; rw [piecesFrom, if_neg (mt admits_iff.mp hb)]
  conv => rhs; rw [piecesFrom]

theorem admits_following {read : Bytes} {need code : Nat} (h : 0x80 ≤ b.toNat)
    (h' : b.toNat ≤ 0xBF) : Pending.Admits { read, need, code } b :=
  ⟨h, h'⟩

end Steps

section Numbers

theorem toNat_valid (c : Char) :
    c.toNat < 0xD800 ∨ 0xDFFF < c.toNat ∧ c.toNat < 0x110000 :=
  c.valid

theorem toNat_ofNat {n : Nat} (h : n < 0xD800 ∨ 0xDFFF < n ∧ n < 0x110000) :
    (Char.ofNat n).toNat = n := by
  have hn : n.isValidChar := h
  rw [Char.ofNat, dif_pos hn]
  exact UInt32.toNat_ofNatLT ..

theorem exists_byte {n : Nat} (h : n < 256) : ∃ b, UInt8.ofNat n = b ∧ b.toNat = n :=
  ⟨_, rfl, UInt8.toNat_ofNat_of_lt h⟩

theorem byte_eq {n : Nat} {b : UInt8} (h : n = b.toNat) : UInt8.ofNat n = b := by
  rw [h, UInt8.ofNat_toNat]

end Numbers

theorem piecesFrom_encodeChar (c : Char) (rest : Bytes) :
    piecesFrom none (String.utf8EncodeChar c ++ rest) = .char c :: piecesFrom none rest := by
  have hvalid := toNat_valid c
  have hc : Char.ofNat c.toNat = c := Char.ofNat_toNat c
  simp only [String.utf8EncodeChar, show c.val.toNat = c.toNat from rfl]
  generalize c.toNat = v at hvalid hc
  obtain ⟨b₃, he₃, h₃⟩ := exists_byte (n := v % 64 + 128) (by omega)
  obtain ⟨b₂, he₂, h₂⟩ := exists_byte (n := v / 64 % 64 + 128) (by omega)
  obtain ⟨b₁, he₁, h₁⟩ := exists_byte (n := v / 4096 % 64 + 128) (by omega)
  rw [he₁, he₂, he₃]
  split_ifs with hone htwo hthree
  · obtain ⟨b, he, hb⟩ := exists_byte (n := v) (by omega)
    have hl : lead b = .char c := by
      rw [lead_toNat, hb]
      simp only [hc]
      exact if_pos (by omega)
    rw [he, List.singleton_append, piecesFrom, hl]
  · obtain ⟨b, he, hb⟩ := exists_byte (n := v / 64 % 32 + 192) (by omega)
    have hl := lead_toNat b
    simp only at hl
    rw [if_neg (by omega), if_neg (by omega), if_pos (by omega)] at hl
    have hcode : (b.toNat - 192) * 64 + (b₃.toNat - 128) = v := by omega
    rw [he, List.cons_append, List.singleton_append, piecesFrom_pending hl,
      piecesFrom_last (admits_following (by omega) (by omega)) rfl]
    rw [hcode, hc]
  · obtain ⟨b, he, hb⟩ := exists_byte (n := v / 4096 % 16 + 224) (by omega)
    have hl := lead_toNat b
    simp only at hl
    rw [if_neg (by omega), if_neg (by omega), if_neg (by omega), if_pos (by omega)] at hl
    have hcode : ((b.toNat - 224) * 64 + (b₂.toNat - 128)) * 64 + (b₃.toNat - 128) = v := by omega
    rw [he, List.cons_append, List.cons_append, List.singleton_append, piecesFrom_pending hl,
      piecesFrom_more ?_ rfl, piecesFrom_last (admits_following (by omega) (by omega)) rfl]
    · rw [hcode, hc]
    · simp only [Pending.Admits]
      split_ifs <;> simp only [UInt8.reduceToNat] <;> omega
  · obtain ⟨b, he, hb⟩ := exists_byte (n := v / 262144 % 8 + 240) (by omega)
    have hl := lead_toNat b
    simp only at hl
    rw [if_neg (by omega), if_neg (by omega), if_neg (by omega), if_neg (by omega),
      if_pos (by omega)] at hl
    have hcode : (((b.toNat - 240) * 64 + (b₁.toNat - 128)) * 64 + (b₂.toNat - 128)) * 64 +
        (b₃.toNat - 128) = v := by omega
    rw [he, List.cons_append, List.cons_append, List.cons_append, List.singleton_append,
      piecesFrom_pending hl, piecesFrom_more ?_ rfl,
      piecesFrom_more (admits_following (by omega) (by omega)) rfl,
      piecesFrom_last (admits_following (by omega) (by omega)) rfl]
    · rw [hcode, hc]
    · simp only [Pending.Admits]
      split_ifs <;> simp only [UInt8.reduceToNat] <;> omega

/-- Whatever bytes complete a pending character, all its bytes together are its encoding. -/
inductive Pending.Sound : Pending → Prop
  | last {p : Pending} (hn : p.need = 0)
      (h : ∀ b, p.Admits b →
        String.utf8EncodeChar (Char.ofNat (p.code * 64 + (b.toNat - 0x80))) = p.read ++ [b]) :
      Sound p
  | more {p : Pending} {need : Nat} (hn : p.need = need + 1)
      (h : ∀ b, p.Admits b →
        Sound { read := p.read ++ [b], need, code := p.code * 64 + (b.toNat - 0x80) }) :
      Sound p

theorem encodeChar_ofNat {v : Nat} (h : v < 0xD800 ∨ 0xDFFF < v ∧ v < 0x110000) :
    String.utf8EncodeChar (Char.ofNat v) =
      if v ≤ 0x7F then [UInt8.ofNat v]
      else if v ≤ 0x7FF then [UInt8.ofNat (v / 64 % 32 + 192), UInt8.ofNat (v % 64 + 128)]
      else if v ≤ 0xFFFF then
        [UInt8.ofNat (v / 4096 % 16 + 224), UInt8.ofNat (v / 64 % 64 + 128),
          UInt8.ofNat (v % 64 + 128)]
      else
        [UInt8.ofNat (v / 262144 % 8 + 240), UInt8.ofNat (v / 4096 % 64 + 128),
          UInt8.ofNat (v / 64 % 64 + 128), UInt8.ofNat (v % 64 + 128)] := by
  simp only [String.utf8EncodeChar, show (Char.ofNat v).val.toNat = v from toNat_ofNat h]

section Sound

variable {b low high : UInt8}

theorem sound_two (h : 0xC2 ≤ b.toNat) (h' : b.toNat < 0xE0) :
    Pending.Sound { read := [b], need := 0, code := b.toNat - 0xC0 } := by
  refine .last rfl fun b₁ ⟨hlow, hhigh⟩ => ?_
  simp only [UInt8.reduceToNat] at hlow hhigh
  dsimp only
  rw [encodeChar_ofNat (by omega), if_neg (by omega), if_pos (by omega)]
  rw [byte_eq (b := b) (by omega), byte_eq (b := b₁) (by omega)]
  rfl

theorem sound_three (h : 0xE0 ≤ b.toNat) (h' : b.toNat < 0xF0) (hl : 0x80 ≤ low.toNat)
    (hl' : b.toNat = 0xE0 → 0xA0 ≤ low.toNat) (hh : high.toNat ≤ 0xBF)
    (hh' : b.toNat = 0xED → high.toNat ≤ 0x9F) :
    Pending.Sound { read := [b], need := 1, code := b.toNat - 0xE0, low, high } := by
  refine .more rfl fun b₁ ⟨hlow, hhigh⟩ => .last rfl fun b₂ ⟨hlow', hhigh'⟩ => ?_
  simp only [UInt8.reduceToNat] at hlow hhigh hlow' hhigh'
  dsimp only
  rw [encodeChar_ofNat (by omega), if_neg (by omega), if_neg (by omega), if_pos (by omega)]
  rw [byte_eq (b := b) (by omega), byte_eq (b := b₁) (by omega), byte_eq (b := b₂) (by omega)]
  rfl

theorem sound_four (h : 0xF0 ≤ b.toNat) (h' : b.toNat < 0xF5) (hl : 0x80 ≤ low.toNat)
    (hl' : b.toNat = 0xF0 → 0x90 ≤ low.toNat) (hh : high.toNat ≤ 0xBF)
    (hh' : b.toNat = 0xF4 → high.toNat ≤ 0x8F) :
    Pending.Sound { read := [b], need := 2, code := b.toNat - 0xF0, low, high } := by
  refine .more rfl fun b₁ ⟨hlow, hhigh⟩ => .more rfl fun b₂ ⟨hlow', hhigh'⟩ =>
    .last rfl fun b₃ ⟨hlow'', hhigh''⟩ => ?_
  simp only [UInt8.reduceToNat] at hlow hhigh hlow' hhigh' hlow'' hhigh''
  dsimp only
  rw [encodeChar_ofNat (by omega), if_neg (by omega), if_neg (by omega), if_neg (by omega)]
  rw [byte_eq (b := b) (by omega), byte_eq (b := b₁) (by omega), byte_eq (b := b₂) (by omega),
    byte_eq (b := b₃) (by omega)]
  rfl

theorem encodeChar_of_lead {c : Char} (h : lead b = .char c) : String.utf8EncodeChar c = [b] := by
  rw [lead_toNat] at h
  dsimp only at h
  by_cases hb : b.toNat < 0x80
  · rw [if_pos hb] at h
    obtain rfl := Lead.char.inj h
    rw [encodeChar_ofNat (by omega), if_pos (by omega), UInt8.ofNat_toNat]
  · rw [if_neg hb] at h
    split_ifs at h

theorem sound_of_lead {p : Pending} (h : lead b = .pending p) : p.read = [b] ∧ p.Sound := by
  rw [lead_toNat] at h
  dsimp only at h
  by_cases hone : b.toNat < 0x80
  · simp only [if_pos hone, reduceCtorEq] at h
  by_cases hstray : b.toNat < 0xC2
  · simp only [if_neg hone, if_pos hstray, reduceCtorEq] at h
  rw [if_neg hone, if_neg hstray] at h
  by_cases htwo : b.toNat < 0xE0
  · rw [if_pos htwo] at h
    obtain rfl := Lead.pending.inj h
    exact ⟨rfl, sound_two (by omega) htwo⟩
  by_cases hthree : b.toNat < 0xF0
  · rw [if_neg htwo, if_pos hthree] at h
    obtain rfl := Lead.pending.inj h
    refine ⟨rfl, sound_three (by omega) hthree ?_ ?_ ?_ ?_⟩ <;>
      split_ifs <;> simp only [UInt8.reduceToNat] <;> omega
  by_cases hfour : b.toNat < 0xF5
  · rw [if_neg htwo, if_neg hthree, if_pos hfour] at h
    obtain rfl := Lead.pending.inj h
    refine ⟨rfl, sound_four (by omega) hfour ?_ ?_ ?_ ?_⟩ <;>
      split_ifs <;> simp only [UInt8.reduceToNat] <;> omega
  simp only [if_neg htwo, if_neg hthree, if_neg hfour, reduceCtorEq] at h

end Sound

/-- Nothing of a byte string is lost in its pieces. The induction has to speak of a pending
character as well, whose bytes have been taken from the string already. -/
theorem flatMap_bytes_piecesFrom (bs : Bytes) :
    (piecesFrom none bs).flatMap Piece.bytes = bs ∧
      ∀ p : Pending, p.Sound → (piecesFrom (some p) bs).flatMap Piece.bytes = p.read ++ bs := by
  induction bs with
  | nil => exact ⟨rfl, fun p _ => by simp [piecesFrom, Piece.bytes]⟩
  | cons b rest ih =>
    obtain ⟨ihnone, ihsome⟩ := ih
    have hnone : (piecesFrom none (b :: rest)).flatMap Piece.bytes = b :: rest := by
      cases hl : lead b with
      | char c =>
        rw [piecesFrom, hl, List.flatMap_cons, ihnone, Piece.bytes, encodeChar_of_lead hl,
          List.singleton_append]
      | pending p =>
        obtain ⟨hread, hp⟩ := sound_of_lead hl
        rw [piecesFrom_pending hl, ihsome p hp, hread, List.singleton_append]
      | stray =>
        rw [piecesFrom, hl, List.flatMap_cons, ihnone]
        rfl
    refine ⟨hnone, fun p hp => ?_⟩
    by_cases hb : p.Admits b
    · cases hp with
      | last hn h => rw [piecesFrom_last hb hn, List.flatMap_cons, ihnone, Piece.bytes, h b hb,
          List.append_assoc, List.singleton_append]
      | more hn h => rw [piecesFrom_more hb hn, ihsome _ (h b hb), List.append_assoc,
          List.singleton_append]
    · rw [piecesFrom_broken hb, List.flatMap_cons, hnone]
      rfl

theorem mapM_char?_eq_some {ps : List Piece} {cs : List Char} (h : ps.mapM Piece.char? = some cs) :
    ps.flatMap Piece.bytes = encodeChars cs := by
  induction ps generalizing cs with
  | nil =>
    obtain rfl : cs = [] := by simpa using h.symm
    rfl
  | cons piece rest ih =>
    simp only [List.mapM_cons, Option.bind_eq_bind, Option.bind_eq_some_iff,
      Option.pure_def, Option.some.injEq] at h
    obtain ⟨c, hc, cs, hcs, rfl⟩ := h
    obtain rfl : piece = .char c := by
      cases piece with
      | char _ => rw [Option.some.inj hc]
      | broken _ => cases hc
    rw [List.flatMap_cons, ih hcs, encodeChars, encodeChars, List.flatMap_cons, Piece.bytes]

theorem pieces_encodeChars (cs : List Char) : pieces (encodeChars cs) = cs.map .char := by
  induction cs with
  | nil => rfl
  | cons c rest ih =>
    rw [encodeChars, List.flatMap_cons, pieces, piecesFrom_encodeChar, List.map_cons]
    exact congrArg (Piece.char c :: ·) ih

theorem decode?_encode (s : String) : decode? (encode s) = some s := by
  have hchars : decodeChars? (encodeChars s.toList) = some s.toList := by
    rw [decodeChars?, pieces_encodeChars, List.mapM_map,
      show (Piece.char? ∘ Piece.char) = (pure : Char → Option Char) from rfl, List.mapM_pure,
      List.map_id']
    rfl
  rw [decode?, encode, hchars, Option.map_some, String.ofList_toList]

theorem decode?_eq_some_iff {bs : Bytes} {s : String} : decode? bs = some s ↔ bs = encode s := by
  refine ⟨fun h => ?_, fun h => h ▸ decode?_encode s⟩
  obtain ⟨cs, hcs, rfl⟩ := Option.map_eq_some_iff.mp h
  rw [encode, String.toList_ofList, ← mapM_char?_eq_some hcs]
  exact (flatMap_bytes_piecesFrom bs).1.symm

end LspHost.Utf8
