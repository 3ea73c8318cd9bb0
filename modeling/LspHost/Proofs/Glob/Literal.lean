import LspHost.Proofs.Glob.Matching
import LspHost.Selector

/-!
# Globs for a single text

A glob with a backslash in front of every character compiles and matches one text, whatever
characters are in it. So two texts that every glob treats alike are the same.
-/

namespace LspHost.Glob

def spelling (cs : List Char) : String :=
  String.ofList (cs.flatMap fun c => ['\\', c])

theorem Reader.step_escaped {r : Reader} (h : r.mode = .plain) (c : Char) :
    ['\\', c].foldlM Reader.step r =
      .ok { r with last := some c, tokens := .literal c :: r.tokens } := by
  obtain ⟨mode, last, tokens, groups⟩ := r
  obtain rfl : mode = .plain := h
  rfl

theorem Reader.foldlM_spelling {r : Reader} (h : r.mode = .plain) (cs : List Char) :
    ∃ last, (cs.flatMap fun c => ['\\', c]).foldlM Reader.step r =
      .ok { r with last, tokens := (cs.map .literal).reverse ++ r.tokens } := by
  induction cs generalizing r with
  | nil => exact ⟨r.last, rfl⟩
  | cons c cs ih =>
    obtain ⟨last, hcs⟩ := @ih { r with last := some c, tokens := .literal c :: r.tokens } h
    refine ⟨last, ?_⟩
    rw [List.flatMap_cons, List.foldlM_append, Reader.step_escaped h]
    change (cs.flatMap fun c => ['\\', c]).foldlM Reader.step _ = _
    rw [hcs, List.map_cons, List.reverse_cons, List.append_assoc, List.singleton_append]

theorem readTokens_spelling (cs : List Char) :
    readTokens (spelling cs) = .ok (cs.map .literal) := by
  obtain ⟨last, hcs⟩ := Reader.foldlM_spelling (r := {}) rfl cs
  have hread : (spelling cs).toList.foldlM Reader.step {} =
      .ok { last, tokens := (cs.map .literal).reverse } := by
    rw [spelling, String.toList_ofList, hcs, List.append_nil]
  have hfinish : Reader.finish { last, tokens := (cs.map .literal).reverse } =
      .ok (cs.map .literal).reverse.reverse := rfl
  rw [List.reverse_reverse] at hfinish
  rw [readTokens, hread]
  exact hfinish

theorem compileGlob_spelling (cs : List Char) :
    ∃ g, compileGlob (spelling cs) = .ok g ∧
      ∀ bs, g.pattern.Matches bs ↔ bs = Utf8.encodeChars cs := by
  refine ⟨{ source := spelling cs, pattern := .ofTokens (cs.map .literal) }, ?_,
    fun bs => Pattern.matches_literals_iff cs⟩
  have hliteral : cs.map Token.literal ≠ [.leading] := by
    intro h
    obtain ⟨c, -, hc⟩ := List.map_eq_singleton_iff.mp h
    cases hc
  have hread : ofString (spelling cs) =
      .ok { source := spelling cs, pattern := .ofTokens (cs.map .literal) } := by
    rw [ofString, readTokens_spelling, Except.map, if_neg hliteral]
  rw [compileGlob, hread]
  rfl

end LspHost.Glob
