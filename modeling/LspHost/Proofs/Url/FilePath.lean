import LspHost.FileTree.Basic
import LspHost.Proofs.Path.Components
import LspHost.Proofs.Text.Utf8
import LspHost.Url.Basic
import Mathlib.Data.List.Basic

/-!
# File URLs and the paths they name

The components of a path can be read back from its URL: no escaped component holds a slash, and
each decodes to the bytes it was made from. So two paths have one URL exactly if they have the same
components, whatever bytes their names are made of.
-/

namespace LspHost

namespace Percent

def hexCode (n : Nat) : UInt8 :=
  UInt8.ofNat (hexDigit n).toNat

theorem hexCode_spec : ∀ n < 16, String.utf8EncodeChar (hexDigit n) = [hexCode n] ∧
    hexValue? (hexCode n) = some (UInt8.ofNat n) ∧ hexCode n ≠ Path.slash := by
  decide

def codeOf (escaped : ByteSet) (b : UInt8) : Bytes :=
  if escaped b then [0x25, hexCode (b.toNat / 16), hexCode (b.toNat % 16)] else [b]

theorem encodeChars_encodeByte {escaped : ByteSet} {b : UInt8} (hb : 0x80 ≤ b → escaped b = true) :
    Utf8.encodeChars (encodeByte escaped b) = codeOf escaped b := by
  have hlt := b.toNat_lt
  rw [encodeByte, codeOf]
  cases he : escaped b with
  | true =>
    have hhigh := (hexCode_spec (b.toNat / 16) (by omega)).1
    have hlow := (hexCode_spec (b.toNat % 16) (by omega)).1
    have hpercent : String.utf8EncodeChar '%' = [0x25] := by decide
    simp [Utf8.encodeChars, hhigh, hlow, hpercent]
  | false =>
    have hsmall : b < 0x80 := by
      rw [← UInt8.not_le]
      intro hle
      rw [hb hle] at he
      cases he
    have hcode : String.utf8EncodeChar (Char.ofNat b.toNat) = [b] :=
      Utf8.encodeChar_of_lead (by rw [Utf8.lead, if_pos hsmall])
    simp [Utf8.encodeChars, hcode]

theorem decode_cons_of_ne {b : UInt8} (hb : b ≠ 0x25) (bs : Bytes) :
    decode (b :: bs) = b :: decode bs := by
  rw [decode.eq_def]
  split
  · next h => exact absurd (List.cons.inj h).1 hb
  · next h =>
    obtain ⟨rfl, rfl⟩ := List.cons.inj h
    rfl
  · next h => cases h

theorem decode_codeOf {escaped : ByteSet} (hpercent : escaped 0x25 = true) (b : UInt8)
    (rest : Bytes) : decode (codeOf escaped b ++ rest) = b :: decode rest := by
  have hlt := b.toNat_lt
  rw [codeOf]
  split
  · have hhigh := (hexCode_spec (b.toNat / 16) (by omega)).2.1
    have hlow := (hexCode_spec (b.toNat % 16) (by omega)).2.1
    have hvalue : UInt8.ofNat (b.toNat / 16) * 16 + UInt8.ofNat (b.toNat % 16) = b := by
      rw [← UInt8.toNat_inj, UInt8.toNat_add, UInt8.toNat_mul]
      simp
      omega
    simp [decode, hhigh, hlow, hvalue]
  · next he =>
    refine decode_cons_of_ne ?_ rest
    rintro rfl
    exact he hpercent

theorem slash_notMem_codeOf {escaped : ByteSet} (hslash : escaped Path.slash = true) (b : UInt8) :
    Path.slash ∉ codeOf escaped b := by
  have hlt := b.toNat_lt
  have hhigh := (hexCode_spec (b.toNat / 16) (by omega)).2.2
  have hlow := (hexCode_spec (b.toNat % 16) (by omega)).2.2
  rw [codeOf]
  split
  · simp only [List.mem_cons, List.not_mem_nil, or_false, not_or]
    exact ⟨by decide, hhigh.symm, hlow.symm⟩
  · next he =>
    rw [List.mem_singleton]
    rintro rfl
    exact he hslash

section Sets

variable {escaped : ByteSet} (bs : Bytes)

theorem encodeChars_encode (h : ∀ b, 0x80 ≤ b → escaped b = true) :
    Utf8.encodeChars (encode escaped bs) = bs.flatMap (codeOf escaped) := by
  rw [Utf8.encodeChars, encode, List.flatMap_assoc]
  exact List.flatMap_congr fun b _ => encodeChars_encodeByte (h b)

theorem decode_flatMap_codeOf (h : escaped 0x25 = true) :
    decode (bs.flatMap (codeOf escaped)) = bs := by
  induction bs with
  | nil => rfl
  | cons b bs ih => rw [List.flatMap_cons, decode_codeOf h, ih]

theorem slash_notMem_flatMap_codeOf (h : escaped Path.slash = true) :
    Path.slash ∉ bs.flatMap (codeOf escaped) := by
  rw [List.mem_flatMap, not_exists]
  exact fun b hb => slash_notMem_codeOf h b hb.2

end Sets

theorem fileName_of_le {b : UInt8} (h : 0x80 ≤ b) : fileName b = true := by
  have hcontrol : controls b = true := by
    have hle : (0x7F : UInt8) ≤ b := UInt8.le_trans (by decide) h
    simp [controls, hle]
  simp [fileName, path, fragment, union, hcontrol]

end Percent

namespace Url

theorem flatMap_slash {pieces : List Bytes} (hne : pieces ≠ []) :
    pieces.flatMap (Path.slash :: ·) = Path.slash :: Path.joinSlash pieces := by
  fun_induction Path.joinSlash pieces with
  | case1 => exact absurd rfl hne
  | case2 piece => simp
  | case3 piece pieces hpieces ih =>
    rw [List.flatMap_cons, ih fun h => hpieces h, List.cons_append]

/-- The bytes that a component is written with in a file URL. -/
def fileCode (c : Path.Component) : Bytes :=
  c.bytes.flatMap (Percent.codeOf Percent.fileName)

theorem encodeChars_filePath {cs : List Path.Component} (hne : cs ≠ []) :
    Utf8.encodeChars (filePath cs) = Path.slash :: Path.joinSlash (cs.map fileCode) := by
  have hslash : String.utf8EncodeChar '/' = [Path.slash] := by decide
  have hcomponent : ∀ c : Path.Component,
      Utf8.encodeChars ('/' :: Percent.encode Percent.fileName c.bytes) =
        Path.slash :: fileCode c := by
    intro c
    rw [Utf8.encodeChars, List.flatMap_cons, hslash, ← Utf8.encodeChars,
      Percent.encodeChars_encode _ fun b => Percent.fileName_of_le]
    rfl
  rw [← flatMap_slash (mt List.map_eq_nil_iff.mp hne), List.flatMap_map, filePath]
  · rw [Utf8.encodeChars, List.flatMap_assoc]
    exact List.flatMap_congr fun c _ => hcomponent c
  · exact hne

theorem components_of_filePath {cs : List Path.Component} (h : ∀ c ∈ cs, Path.Inner c) :
    ((Path.splitSlash (Utf8.encodeChars (filePath cs))).map Percent.decode).filterMap
      Path.Component.ofPiece? = cs := by
  by_cases hne : cs = []
  · rw [hne]
    decide
  have hslash : ∀ piece ∈ cs.map fileCode, Path.slash ∉ piece :=
    List.forall_mem_map.mpr fun c _ => Percent.slash_notMem_flatMap_codeOf _ (by decide)
  have hdecode : ∀ c ∈ cs, Path.Component.ofPiece? (Percent.decode (fileCode c)) = some c :=
    fun c hc => by rw [fileCode, Percent.decode_flatMap_codeOf _ (by decide), (h c hc).ofPiece?_bytes]
  rw [encodeChars_filePath hne, Path.splitSlash_slash,
    Path.splitSlash_joinSlash (mt List.map_eq_nil_iff.mp hne) hslash, List.map_cons, List.map_map,
    List.filterMap_cons_none (by decide), List.filterMap_map]
  exact (List.filterMap_congr hdecode).trans List.filterMap_some

theorem ofFilePath?_eq_iff {p q : Path} (hp : p.isAbsolute = true) (hq : q.isAbsolute = true) :
    ofFilePath? p = ofFilePath? q ↔ p.components = q.components := by
  obtain ⟨xs, rfl⟩ := Path.isAbsolute_iff.mp hp
  obtain ⟨ys, rfl⟩ := Path.isAbsolute_iff.mp hq
  rw [ofFilePath?, ofFilePath?, if_pos hp, if_pos hq, Path.components_slash, Path.components_slash]
  refine ⟨fun h => ?_, fun h => by rw [h]⟩
  have hpath := congrArg String.toList (congrArg Url.path (Option.some.inj h))
  simp only [String.toList_ofList, List.drop_succ_cons, List.drop_zero] at hpath
  rw [← components_of_filePath fun c (hc : c ∈ Path.body xs) => Path.inner_of_mem_body hc, hpath,
    components_of_filePath fun c => Path.inner_of_mem_body]

theorem ofFilePath?_pathOf_eq_iff {place place' : Place} (h : ∀ n ∈ place, Path.IsName n)
    (h' : ∀ n ∈ place', Path.IsName n) :
    ofFilePath? (FileTree.pathOf place) = ofFilePath? (FileTree.pathOf place') ↔ place = place' := by
  have hnames : Function.Injective (List.map Path.Component.name) :=
    List.map_injective_iff.mpr fun _ _ => Path.Component.name.inj
  rw [ofFilePath?_eq_iff rfl rfl, FileTree.pathOf, FileTree.pathOf, Path.components_slash,
    Path.components_slash, Path.body_names h, Path.body_names h', List.cons.injEq,
    eq_self_iff_true, true_and, hnames.eq_iff]

end Url
end LspHost
