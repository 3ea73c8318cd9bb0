import LspHost.Glob.Parser
import LspHost.Path.Basic
import Mathlib.Data.List.Basic

/-!
# What the positions of a subject say

After a part of a pattern a position is reached exactly if the part matches what stands between it
and some position reached before. A whole subject is therefore matched exactly if it is in the
language of the pattern, which for a glob is made up of the languages of its parts.
-/

namespace LspHost.Glob.Pattern

section Language

variable {p q : Pattern} {bs : Bytes}

@[simp] theorem matches_empty_iff : Matches empty bs ↔ bs = [] := by
  refine ⟨fun h => ?_, fun h => h ▸ .empty⟩
  cases h
  rfl

theorem matches_byte_iff {s : ByteClass} :
    Matches (byte s) bs ↔ ∃ b, bs = [b] ∧ s.contains b = true := by
  refine ⟨fun h => ?_, fun ⟨b, hbs, hb⟩ => hbs ▸ .byte hb⟩
  cases h with
  | byte hb => exact ⟨_, rfl, hb⟩

theorem matches_seq_iff :
    Matches (seq p q) bs ↔ ∃ xs ys, bs = xs ++ ys ∧ Matches p xs ∧ Matches q ys := by
  refine ⟨fun h => ?_, fun ⟨xs, ys, hbs, hp, hq⟩ => hbs ▸ .seq hp hq⟩
  cases h with
  | seq hp hq => exact ⟨_, _, rfl, hp, hq⟩

theorem matches_alt_iff : Matches (alt p q) bs ↔ Matches p bs ∨ Matches q bs := by
  refine ⟨fun h => ?_, fun h => h.elim .left .right⟩
  cases h with
  | left h => exact Or.inl h
  | right h => exact Or.inr h

theorem matches_append_iff :
    Matches (append p q) bs ↔ ∃ xs ys, bs = xs ++ ys ∧ Matches p xs ∧ Matches q ys := by
  rw [append.eq_def]
  split
  · simp
  · simp
  · exact matches_seq_iff

theorem matches_ofBytes_iff (word : Bytes) : Matches (ofBytes word) bs ↔ bs = word := by
  induction word generalizing bs with
  | nil => exact matches_empty_iff
  | cons b word ih =>
    have hcons : ofBytes (b :: word) = append (byte (ByteClass.one b)) (ofBytes word) := rfl
    have hone : ∀ c, (ByteClass.one b).contains c = true ↔ c = b := by
      intro c
      simp only [ByteClass.contains, ByteClass.one, List.any_cons, List.any_nil, Bool.or_false,
        bne_iff_ne, ne_eq, Bool.not_eq_false, Bool.and_eq_true, decide_eq_true_eq]
      exact ⟨fun h => UInt8.le_antisymm h.2 h.1, fun h => h ▸ ⟨UInt8.le_refl _, UInt8.le_refl _⟩⟩
    rw [hcons, matches_append_iff]
    constructor
    · rintro ⟨xs, ys, rfl, hx, hy⟩
      obtain ⟨c, rfl, hc⟩ := matches_byte_iff.mp hx
      rw [(hone c).mp hc, ih.mp hy, List.singleton_append]
    · rintro rfl
      exact ⟨[b], word, rfl, .byte ((hone b).mpr rfl), ih.mpr rfl⟩

end Language

def between (bs : Bytes) (i j : Nat) : Bytes :=
  (bs.take j).drop i

section Between

variable {bs : Bytes} {i j k : Nat}

theorem length_between (hj : j ≤ bs.length) : (between bs i j).length = j - i := by
  rw [between, List.length_drop, List.length_take, Nat.min_eq_left hj]

theorem between_eq_nil_iff (hi : i ≤ j) (hj : j ≤ bs.length) : between bs i j = [] ↔ i = j := by
  rw [← List.length_eq_zero_iff, length_between hj]
  omega

theorem between_append (hi : i ≤ k) (hk : k ≤ j) (hj : j ≤ bs.length) :
    between bs i k ++ between bs k j = between bs i j := by
  have hlen : i ≤ (bs.take k).length := by
    rw [List.length_take]
    omega
  have hsplit : bs.take k ++ (bs.take j).drop k = bs.take j := by
    rw [← Nat.min_eq_left hk, ← List.take_take, Nat.min_eq_left hk, List.take_append_drop]
  rw [between, between, ← List.drop_append_of_le_length hlen, hsplit, between]

theorem exists_between {xs ys : Bytes} (hi : i ≤ j) (hj : j ≤ bs.length)
    (h : between bs i j = xs ++ ys) :
    ∃ k, i ≤ k ∧ k ≤ j ∧ between bs i k = xs ∧ between bs k j = ys := by
  have hlen : xs.length + ys.length = j - i := by
    rw [← List.length_append, ← h, length_between hj]
  have hk : i + xs.length ≤ j := by omega
  rw [← between_append (Nat.le_add_right i xs.length) hk hj] at h
  obtain ⟨hxs, hys⟩ := List.append_inj h (by rw [length_between (Nat.le_trans hk hj)]; omega)
  exact ⟨i + xs.length, Nat.le_add_right i _, hk, hxs, hys⟩

theorem between_succ (hj : j < bs.length) : between bs j (j + 1) = [bs[j]] := by
  rw [between, List.take_succ_eq_append_getElem hj,
    List.drop_left' (List.length_take_of_le (Nat.le_of_lt hj))]

end Between

@[simp] theorem length_spread (r : Bool) (rs : List Bool) : (spread r rs).length = rs.length := by
  induction rs generalizing r with
  | nil => rfl
  | cons s rs ih => rw [spread, List.length_cons, ih, List.length_cons]

theorem spread_iff (r : Bool) (rs : List Bool) (j : Nat) :
    (spread r rs)[j]? = some true ↔
      j < rs.length ∧ (r = true ∨ ∃ i ≤ j, rs[i]? = some true) := by
  induction rs generalizing r j with
  | nil => simp [spread]
  | cons s rs ih =>
    rw [spread]
    cases j with
    | zero => simp
    | succ j =>
      have hsplit : (∃ i ≤ j + 1, (s :: rs)[i]? = some true) ↔
          s = true ∨ ∃ i ≤ j, rs[i]? = some true := by
        constructor
        · rintro ⟨i, hi, h⟩
          cases i with
          | zero => exact Or.inl (by simpa using h)
          | succ i => exact Or.inr ⟨i, Nat.le_of_succ_le_succ hi, by simpa using h⟩
        · rintro (rfl | ⟨i, hi, h⟩)
          · exact ⟨0, Nat.zero_le _, rfl⟩
          · exact ⟨i + 1, Nat.succ_le_succ hi, by simpa using h⟩
      rw [List.getElem?_cons_succ, ih, hsplit, Bool.or_eq_true, or_assoc, List.length_cons,
        Nat.add_lt_add_iff_right]

theorem length_advance (p : Pattern) {bs : Bytes} {rs : List Bool}
    (h : rs.length = bs.length + 1) : (advance bs p rs).length = bs.length + 1 := by
  induction p generalizing rs with
  | empty => exact h
  | byte s => simp [advance, h]
  | star => simp [advance, h]
  | seq p q ihp ihq => exact ihq (ihp h)
  | alt p q ihp ihq => simp [advance, ihp h, ihq h]

/-- A position is reached after a pattern if the pattern matches what lies between it and a position
reached before. -/
theorem advance_iff (p : Pattern) {bs : Bytes} {rs : List Bool} (h : rs.length = bs.length + 1)
    (j : Nat) : (advance bs p rs)[j]? = some true ↔
      j ≤ bs.length ∧ ∃ i ≤ j, rs[i]? = some true ∧ Matches p (between bs i j) := by
  induction p generalizing rs j with
  | empty =>
    rw [advance]
    constructor
    · intro hj
      have hlt : j < rs.length := (List.getElem?_eq_some_iff.mp hj).1
      have hle : j ≤ bs.length := by omega
      exact ⟨hle, j, Nat.le_refl j, hj,
        matches_empty_iff.mpr ((between_eq_nil_iff (Nat.le_refl j) hle).mpr rfl)⟩
    · rintro ⟨hj, i, hi, hr, hm⟩
      rwa [← (between_eq_nil_iff hi hj).mp (matches_empty_iff.mp hm)]
  | byte s =>
    rw [advance]
    cases j with
    | zero => simp [between, matches_byte_iff]
    | succ k =>
      rw [List.getElem?_cons_succ, List.getElem?_zipWith_eq_some]
      constructor
      · rintro ⟨b, r, hb, hr, hboth⟩
        obtain ⟨hk, rfl⟩ := List.getElem?_eq_some_iff.mp hb
        obtain ⟨rfl, hs⟩ := Bool.and_eq_true_iff.mp hboth
        exact ⟨hk, k, Nat.le_succ k, hr, matches_byte_iff.mpr ⟨_, between_succ hk, hs⟩⟩
      · rintro ⟨hk, i, hi, hr, hm⟩
        obtain ⟨b, hb, hs⟩ := matches_byte_iff.mp hm
        have hlen := congrArg List.length hb
        rw [length_between hk, List.length_singleton] at hlen
        obtain rfl : i = k := by omega
        rw [between_succ hk, List.cons.injEq] at hb
        exact ⟨b, true, List.getElem?_eq_some_iff.mpr ⟨hk, hb.1⟩, hr, hs⟩
  | star =>
    rw [advance, spread_iff, h, Nat.lt_succ_iff]
    refine and_congr_right fun _ => ?_
    simp [Matches.star]
  | seq p q ihp ihq =>
    rw [advance, ihq (length_advance p h)]
    refine and_congr_right fun hj => ⟨?_, ?_⟩
    · rintro ⟨k, hk, hreached, hq⟩
      obtain ⟨-, i, hi, hr, hp⟩ := (ihp h k).mp hreached
      exact ⟨i, Nat.le_trans hi hk, hr, between_append hi hk hj ▸ .seq hp hq⟩
    · rintro ⟨i, hi, hr, hm⟩
      obtain ⟨xs, ys, hsplit, hp, hq⟩ := matches_seq_iff.mp hm
      obtain ⟨k, hik, hkj, rfl, rfl⟩ := exists_between hi hj hsplit
      exact ⟨k, hkj, (ihp h k).mpr ⟨Nat.le_trans hkj hj, i, hik, hr, hp⟩, hq⟩
  | alt p q ihp ihq =>
    have hor : (advance bs (alt p q) rs)[j]? = some true ↔
        (advance bs p rs)[j]? = some true ∨ (advance bs q rs)[j]? = some true := by
      rw [advance]
      rcases Nat.lt_or_ge j (bs.length + 1) with hj | hj
      · have hjp : j < (advance bs p rs).length := by rwa [length_advance p h]
        have hjq : j < (advance bs q rs).length := by rwa [length_advance q h]
        simp [List.getElem?_zipWith, List.getElem?_eq_getElem hjp, List.getElem?_eq_getElem hjq]
      · have hjp : (advance bs p rs)[j]? = none :=
          List.getElem?_eq_none (by rwa [length_advance p h])
        have hjq : (advance bs q rs)[j]? = none :=
          List.getElem?_eq_none (by rwa [length_advance q h])
        simp [List.getElem?_zipWith, hjp, hjq]
    rw [hor, ihp h, ihq h, ← and_or_left, ← exists_or]
    simp only [matches_alt_iff, and_or_left]

theorem start_iff {bs : Bytes} {i : Nat} : (start bs)[i]? = some true ↔ i = 0 := by
  cases i with
  | zero => simp [start]
  | succ i => simp [start, List.getElem?_replicate]

theorem isMatch_iff (p : Pattern) (bs : Bytes) : p.isMatch bs = true ↔ Matches p bs := by
  have hstart : (start bs).length = bs.length + 1 := by simp [start]
  have hlast : p.isMatch bs = true ↔ (advance bs p (start bs))[bs.length]? = some true := by
    rw [isMatch, List.getLastD_eq_getLast?, List.getLast?_eq_getElem?, length_advance p hstart,
      Nat.add_sub_cancel]
    cases (advance bs p (start bs))[bs.length]? <;> simp
  have hwhole : between bs 0 bs.length = bs := by rw [between, List.take_length, List.drop_zero]
  rw [hlast, advance_iff p hstart]
  constructor
  · rintro ⟨-, i, -, hi, hm⟩
    rwa [start_iff.mp hi, hwhole] at hm
  · intro hm
    exact ⟨Nat.le_refl _, 0, Nat.zero_le _, start_iff.mpr rfl, hwhole.symm ▸ hm⟩

section Tokens

variable {bs : Bytes}

theorem matches_ofTokens_cons_iff (t : Token) (ts : List Token) : Matches (ofTokens (t :: ts)) bs ↔
    ∃ xs ys, bs = xs ++ ys ∧ Matches t.pattern xs ∧ Matches (ofTokens ts) ys :=
  matches_append_iff

theorem matches_literals_iff (cs : List Char) :
    Matches (ofTokens (cs.map .literal)) bs ↔ bs = Utf8.encodeChars cs := by
  induction cs generalizing bs with
  | nil => exact matches_empty_iff
  | cons c cs ih =>
    rw [List.map_cons, matches_ofTokens_cons_iff, Utf8.encodeChars, List.flatMap_cons]
    constructor
    · rintro ⟨xs, ys, rfl, hx, hy⟩
      rw [(matches_ofBytes_iff _).mp hx, ih.mp hy, Utf8.encodeChars]
    · rintro rfl
      exact ⟨_, _, rfl, (matches_ofBytes_iff _).mpr rfl, ih.mpr rfl⟩

/-- Any leading directories are none, or whatever ends in a slash. -/
theorem matches_leading_iff :
    Matches Token.leading.pattern bs ↔ bs = [] ∨ ∃ front, bs = front ++ [Path.slash] := by
  have hslash : ∀ xs, Matches slash xs ↔ xs = [Path.slash] := fun xs =>
    matches_ofBytes_iff [Path.slash]
  rw [Token.pattern, matches_alt_iff, matches_empty_iff, matches_seq_iff]
  refine or_congr_right ⟨?_, ?_⟩
  · rintro ⟨xs, ys, rfl, -, hy⟩
    exact ⟨xs, congrArg (xs ++ ·) ((hslash ys).mp hy)⟩
  · rintro ⟨front, rfl⟩
    exact ⟨front, [Path.slash], rfl, .star front, (hslash _).mpr rfl⟩

theorem matches_leading_literals_iff (cs : List Char) :
    Matches (ofTokens (.leading :: cs.map .literal)) bs ↔
      bs = Utf8.encodeChars cs ∨ ∃ front, bs = front ++ Path.slash :: Utf8.encodeChars cs := by
  rw [matches_ofTokens_cons_iff]
  constructor
  · rintro ⟨xs, ys, rfl, hx, hy⟩
    rw [(matches_literals_iff cs).mp hy]
    rcases matches_leading_iff.mp hx with rfl | ⟨front, rfl⟩
    · exact Or.inl rfl
    · exact Or.inr ⟨front, by rw [List.append_assoc, List.singleton_append]⟩
  · rintro (rfl | ⟨front, rfl⟩)
    · exact ⟨[], _, rfl, matches_leading_iff.mpr (Or.inl rfl), (matches_literals_iff cs).mpr rfl⟩
    · refine ⟨front ++ [Path.slash], _, ?_, matches_leading_iff.mpr (Or.inr ⟨front, rfl⟩),
        (matches_literals_iff cs).mpr rfl⟩
      rw [List.append_assoc, List.singleton_append]

end Tokens

end LspHost.Glob.Pattern
