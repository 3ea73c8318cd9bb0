import LspHost.Proofs.Glob.Literal
import LspHost.Proofs.Path.Tidy
import LspHost.Proofs.Url.FilePath

/-!
# Patterns of a selector and paths of files

The pattern of a filter is matched against the path of the document's URL. For a file that path is
the path of the file without a slash at its end and with certain bytes written as `%` and two
digits. So a filter and a glob on the path itself agree, whatever the glob, exactly for a path that
is written as it is.
-/

namespace LspHost

namespace Percent

variable {escaped : ByteSet}

theorem length_le_flatMap_codeOf (bs : Bytes) :
    bs.length ≤ (bs.flatMap (codeOf escaped)).length := by
  induction bs with
  | nil => exact Nat.le_refl 0
  | cons b bs ih =>
    have hone : 1 ≤ (codeOf escaped b).length := by
      rw [codeOf]
      split <;> simp
    rw [List.flatMap_cons, List.length_append, List.length_cons]
    omega

theorem flatMap_codeOf_eq_self_iff {bs : Bytes} :
    bs.flatMap (codeOf escaped) = bs ↔ ∀ b ∈ bs, escaped b = false := by
  induction bs with
  | nil => simp
  | cons b bs ih =>
    rw [List.flatMap_cons, List.forall_mem_cons]
    cases hb : escaped b with
    | true =>
      have hlonger : bs.length + 1 < (codeOf escaped b ++ bs.flatMap (codeOf escaped)).length := by
        have hcode : (codeOf escaped b).length = 3 := by rw [codeOf, if_pos hb]; rfl
        have hrest := @length_le_flatMap_codeOf escaped bs
        rw [List.length_append]
        omega
      constructor
      · intro h
        rw [h, List.length_cons] at hlonger
        omega
      · intro h
        cases h.1
    | false =>
      have hcode : codeOf escaped b = [b] := by rw [codeOf, hb, if_neg Bool.false_ne_true]
      rw [hcode, List.singleton_append, List.cons.injEq, ih]
      simp

end Percent

namespace Url

/-- The bytes that are escaped when a whole path is written into a URL: those of names, and not the
slashes between them. -/
def pathEscapes : Percent.ByteSet := fun b =>
  b ≠ Path.slash && Percent.fileName b

/-- The bytes of a path as a URL writes them. -/
def written (bs : Bytes) : Bytes :=
  bs.flatMap (Percent.codeOf pathEscapes)

theorem written_eq_self_iff {bs : Bytes} :
    written bs = bs ↔ ∀ b ∈ bs, b ≠ Path.slash → Percent.fileName b = false := by
  rw [written, Percent.flatMap_codeOf_eq_self_iff]
  refine forall₂_congr fun b _ => ?_
  by_cases hb : b = Path.slash <;> simp [pathEscapes, hb]

theorem written_slash (bs : Bytes) : written (Path.slash :: bs) = Path.slash :: written bs := by
  rfl

theorem written_append (xs ys : Bytes) : written (xs ++ ys) = written xs ++ written ys :=
  List.flatMap_append

theorem written_name {n : Bytes} (h : Path.slash ∉ n) :
    written n = n.flatMap (Percent.codeOf Percent.fileName) := by
  refine List.flatMap_congr fun b hb => ?_
  have hne : b ≠ Path.slash := fun hslash => h (hslash ▸ hb)
  have hset : pathEscapes b = Percent.fileName b := by simp [pathEscapes, hne]
  rw [Percent.codeOf, Percent.codeOf, hset]

theorem written_joinSlash (pieces : List Bytes) :
    written (Path.joinSlash pieces) = Path.joinSlash (pieces.map written) := by
  fun_induction Path.joinSlash pieces with
  | case1 => rfl
  | case2 piece => rfl
  | case3 piece pieces hne ih =>
    rw [written_append, written_slash, ih, List.map_cons,
      Path.joinSlash_cons (mt List.map_eq_nil_iff.mp hne)]

theorem count_written (bs : Bytes) : (written bs).count Path.slash = bs.count Path.slash := by
  induction bs with
  | nil => rfl
  | cons b bs ih =>
    by_cases hb : b = Path.slash
    · rw [hb, written_slash, List.count_cons_self, List.count_cons_self, ih]
    · have hsplit : written (b :: bs) = written [b] ++ written bs := written_append [b] bs
      have hnone : Path.slash ∉ written [b] := by
        rw [written_name (by simpa using Ne.symm hb)]
        exact Percent.slash_notMem_flatMap_codeOf [b] (by decide)
      rw [hsplit, List.count_append, List.count_eq_zero_of_not_mem hnone, Nat.zero_add, ih,
        List.count_cons_of_ne hb]

theorem written_names {names : List Bytes} (h : ∀ n ∈ names, Path.IsName n) :
    written (Path.slash :: Path.joinSlash names) =
      Path.slash :: Path.joinSlash ((names.map .name).map fileCode) := by
  have hcodes : names.map written = (names.map .name).map fileCode := by
    rw [List.map_map]
    exact List.map_congr_left fun n hn => written_name (h n hn).slash_notMem
  rw [written_slash, written_joinSlash, hcodes]

/-- The path of a file's URL is the path of the file, written without a slash at its end. -/
theorem path_of_tidy {p : Path} (h : p.Tidy) : ∃ url, ofFilePath? p = some url ∧
    Utf8.encode url.path = written (Path.unslashed p.bytes) := by
  obtain ⟨names, hnames, hunslashed, hcomponents, -⟩ := h.exists_names
  refine ⟨_, if_pos h.absolute, ?_⟩
  rw [hunslashed, written_names hnames, hcomponents, List.drop_one, List.tail_cons, Utf8.encode,
    String.toList_ofList]
  by_cases hne : names = []
  · rw [hne]
    decide
  · exact encodeChars_filePath (mt List.map_eq_nil_iff.mp hne)

/-- It is the path of the file itself exactly if that does not end in a slash and no byte of it is
escaped. -/
theorem written_unslashed_iff {p : Path} (h : p.Tidy) :
    written (Path.unslashed p.bytes) = p.bytes ↔
      Path.unslashed p.bytes = p.bytes ∧
        ∀ b ∈ p.bytes, b ≠ Path.slash → Percent.fileName b = false := by
  obtain ⟨names, hnames, hunslashed, -, hsame | hslash⟩ := h.exists_names
  · rw [hsame, written_eq_self_iff]
    exact (and_iff_right rfl).symm
  · -- a slash at the end is the one that the URL does not have
    have hcount : p.bytes.count Path.slash = (Path.unslashed p.bytes).count Path.slash + 1 := by
      rw [hslash.2, List.count_append, List.count_singleton_self, ← hslash.2]
    constructor
    · intro heq
      have hwritten := congrArg (List.count Path.slash) heq
      rw [count_written] at hwritten
      omega
    · intro heq
      rw [heq.1] at hcount
      omega

end Url

/-- A filter that asks for a pattern and nothing else matches the URL of a file exactly if the glob
matches the path of that URL: the path of the file without a slash at its end, each byte that is
escaped in file URLs written as `%` and two digits. Whatever the glob, that is as good as matching
the path of the file itself exactly for a path that is written as it is; for any other path some glob
tells them apart. -/
theorem DocumentFilter.pattern_on_files (p : Path) (h : p.Tidy) :
    ∃ url, Url.ofFilePath? p = some url ∧
      (∀ pattern g, compileGlob pattern = .ok g → ∀ language,
        (isMatch { pattern := some g } url language = true ↔
          g.pattern.Matches (Url.written (Path.unslashed p.bytes)))) ∧
      ((∀ pattern g, compileGlob pattern = .ok g → ∀ language,
        isMatch { pattern := some g } url language = g.isMatch p.bytes) ↔
          Path.unslashed p.bytes = p.bytes ∧
            ∀ b ∈ p.bytes, b ≠ Path.slash → Percent.fileName b = false) := by
  obtain ⟨url, hurl, hpath⟩ := Url.path_of_tidy h
  have hfilter : ∀ (g : Glob) (language : String),
      isMatch { pattern := some g } url language = true ↔
        g.pattern.Matches (Url.written (Path.unslashed p.bytes)) := by
    intro g language
    rw [← hpath, ← Glob.Pattern.isMatch_iff]
    rfl
  refine ⟨url, hurl, fun _ g _ => hfilter g, ?_⟩
  rw [← Url.written_unslashed_iff h]
  constructor
  · intro hagree
    -- the glob for the URL's path alone is one of those on which both agree
    obtain ⟨g, hg, hspells⟩ := Glob.compileGlob_spelling url.path.toList
    have hurlpath : Utf8.encodeChars url.path.toList = Url.written (Path.unslashed p.bytes) := hpath
    have hfile : g.isMatch p.bytes = true := by
      rw [← hagree _ g hg "", hfilter, hspells, hurlpath]
    rw [Glob.isMatch, Glob.Pattern.isMatch_iff, hspells, hurlpath] at hfile
    exact hfile.symm
  · intro hsame pattern g _ language
    rw [Bool.eq_iff_iff, hfilter, hsame, Glob.isMatch, Glob.Pattern.isMatch_iff]

theorem Path.tidy_spaced : (Path.ofString "/w/a b.mar").Tidy := by
  have hbytes : Path.ofString "/w/a b.mar" =
      ⟨[0x2F, 0x77, 0x2F, 0x61, 0x20, 0x62, 0x2E, 0x6D, 0x61, 0x72]⟩ := by
    decide
  rw [hbytes]
  exact ⟨by decide, by decide, by decide, by decide⟩

/-- The file has a blank in its name, which its URL does not have. -/
theorem DocumentFilter.pattern_on_spaced_file :
    let p := Path.ofString "/w/a b.mar"
    p.Tidy ∧ ∃ url, Url.ofFilePath? p = some url ∧ ∃ pattern g, compileGlob pattern = .ok g ∧
      ∃ language, isMatch { pattern := some g } url language ≠ g.isMatch p.bytes := by
  intro p
  obtain ⟨url, hurl, -, hagree⟩ := pattern_on_files p Path.tidy_spaced
  have hblank : ¬ ∀ b ∈ p.bytes, b ≠ Path.slash → Percent.fileName b = false := by decide
  refine ⟨Path.tidy_spaced, url, hurl, ?_⟩
  by_contra hnone
  refine hblank (hagree.mp fun pattern g hg language => ?_).2
  by_contra hne
  exact hnone ⟨pattern, g, hg, language, hne⟩

/-- The glob for that very path matches the path and not the document. -/
theorem DocumentFilter.pattern_not_alike :
    let p := Path.ofString "/w/a b.mar"
    p.Tidy ∧ ∃ g, compileGlob "/w/a b.mar" = .ok g ∧ ∃ url, Url.ofFilePath? p = some url ∧
      g.isMatch p.bytes = true ∧ isMatch { pattern := some g } url "margarine" = false := by
  intro p
  refine ⟨Path.tidy_spaced, _, rfl, _, rfl, ?_, ?_⟩
  · decide +kernel
  · decide +kernel

end LspHost
