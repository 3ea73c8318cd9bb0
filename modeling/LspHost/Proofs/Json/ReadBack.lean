import LspHost.Json.Reader
import LspHost.Json.Writer
import Mathlib.Data.List.Basic
import Mathlib.Tactic.Choose
import Mathlib.Tactic.SplitIfs

/-!
# What is written is read back

Indented text is cut into the tokens of the value that it was written for, and these tokens build
that value again. Numbers are left out, which have their own ways of being written, and values that
are nested more deeply than the reader follows.
-/

namespace LspHost.Json

/-- Without numbers, and with no more than `n` arrays and objects inside each other. -/
inductive Plain : Nat → Json → Prop
  | null {n : Nat} : Plain n .null
  | bool {n : Nat} (b : Bool) : Plain n (.bool b)
  | str {n : Nat} (s : String) : Plain n (.str s)
  | arr {n : Nat} {items : List Json} (h : ∀ j ∈ items, Plain n j) : Plain (n + 1) (.arr items)
  | obj {n : Nat} {members : List (String × Json)} (h : ∀ m ∈ members, Plain n m.2) :
      Plain (n + 1) (.obj members)

namespace Lexer

/-- In front of `rest`, the characters are cut into these tokens. -/
def Reads (cs : List Char) (ts : List Token) (rest : List Char) : Prop :=
  ∀ tokens, (cs ++ rest).foldlM step? { tokens } =
    rest.foldlM step? { tokens := ts.reverse ++ tokens }

/-- What can follow a value in indented text. -/
def Ends (rest : List Char) : Prop :=
  ∃ c after, rest = c :: after ∧ (c = ',' ∨ c = '\n')

section

variable {cs ds rest : List Char} {ts us : List Token}

theorem Reads.append (hc : Reads cs ts (ds ++ rest)) (hd : Reads ds us rest) :
    Reads (cs ++ ds) (ts ++ us) rest := by
  intro tokens
  rw [List.append_assoc, hc, hd, List.reverse_append, List.append_assoc]

theorem Reads.mark {c : Char} {t : Token} (h : mark? c = some t) : Reads [c] [t] rest := by
  intro tokens
  have hblank : isBlank c = false := by
    rw [mark?.eq_def] at h
    split at h <;> first | rfl | cases h
  have hstep : step? { tokens } c = some { tokens := t :: tokens } := by
    rw [step?, between?, hblank, h]
    rfl
  rw [List.singleton_append, List.foldlM_cons, hstep]
  rfl

theorem Reads.blank {c : Char} (h : isBlank c = true) : Reads [c] [] rest := by
  intro tokens
  have hstep : step? { tokens } c = some { tokens } := by
    rw [step?, between?, h]
    rfl
  rw [List.singleton_append, List.foldlM_cons, hstep]
  rfl

theorem hexValue?_hexDigitLower : ∀ k < 16, hexValue? (hexDigitLower k) = some k := by
  decide

theorem foldlM_escapeChar (c : Char) (before : List Char) (tokens : List Token) :
    (escapeChar c ++ rest).foldlM step? { mode := .text before, tokens } =
      rest.foldlM step? { mode := .text (c :: before), tokens } := by
  rw [escapeChar.eq_def]
  split
  case h_8 hquote hbackslash _ _ _ _ _ =>
    by_cases hcontrol : c.toNat < 0x20
    · -- a control character is written as a code of four digits, the first two of them 0
      rw [if_pos hcontrol]
      have hhigh := hexValue?_hexDigitLower (c.toNat / 16) (by omega)
      have hlow := hexValue?_hexDigitLower (c.toNat % 16) (by omega)
      have hthird : step? { mode := .code before 2 0 none, tokens } (hexDigitLower (c.toNat / 16)) =
          some { mode := .code before 1 (c.toNat / 16) none, tokens } := by
        simp [step?, hhigh]
      have hcode : c.toNat / 16 * 16 + c.toNat % 16 = c.toNat := by omega
      have hdone : codeDone? before c.toNat none = some (.text (c :: before)) := by
        rw [codeDone?, if_neg (by omega), if_neg (by omega), Char.ofNat_toNat]
      have hfourth : step? { mode := .code before 1 (c.toNat / 16) none, tokens }
          (hexDigitLower (c.toNat % 16)) = some { mode := .text (c :: before), tokens } := by
        simp [step?, hlow, hcode, hdone]
      change (hexDigitLower (c.toNat / 16) :: hexDigitLower (c.toNat % 16) :: rest).foldlM step?
        { mode := .code before 2 0 none, tokens } = _
      rw [List.foldlM_cons, hthird, Option.bind_eq_bind, Option.bind_some, List.foldlM_cons,
        hfourth, Option.bind_eq_bind, Option.bind_some]
    · rw [if_neg hcontrol]
      have hstep : step? { mode := .text before, tokens } c =
          some { mode := .text (c :: before), tokens } := by
        simp only [step?]
        rw [if_neg hquote, if_neg hbackslash, if_neg hcontrol]
      rw [List.singleton_append, List.foldlM_cons, hstep, Option.bind_eq_bind, Option.bind_some]
  all_goals rfl

theorem foldlM_flatMap_escapeChar (cs before : List Char) (tokens : List Token) :
    (cs.flatMap escapeChar ++ rest).foldlM step? { mode := .text before, tokens } =
      rest.foldlM step? { mode := .text (cs.reverse ++ before), tokens } := by
  induction cs generalizing before with
  | nil => rfl
  | cons c cs ih =>
    rw [List.flatMap_cons, List.append_assoc, foldlM_escapeChar, ih, List.reverse_cons,
      List.append_assoc, List.singleton_append]

theorem Reads.quote (s : String) : Reads (quote s).toList [.text s] rest := by
  intro tokens
  have hchars : (Json.quote s).toList = '"' :: (s.toList.flatMap escapeChar ++ ['"']) :=
    String.toList_ofList
  have hopen : step? { tokens } '"' = some { mode := .text [], tokens } := rfl
  have hclose : step? { mode := .text s.toList.reverse, tokens } '"' =
      some { tokens := .text s :: tokens } := by
    simp [step?]
  rw [hchars, List.cons_append, List.foldlM_cons, hopen, Option.bind_eq_bind, Option.bind_some,
    List.append_assoc, foldlM_flatMap_escapeChar, List.append_nil, List.singleton_append,
    List.foldlM_cons, hclose]
  rfl

theorem Reads.indentation (depth : Nat) : Reads (indentation depth).toList [] rest := by
  have hblanks : ∀ k, Reads (List.replicate k ' ') [] rest := by
    intro k
    induction k with
    | zero => exact fun tokens => rfl
    | succ k ih => exact (Reads.blank rfl).append ih
  have hchars : (Json.indentation depth).toList = ['\n'] ++ List.replicate (2 * depth) ' ' :=
    String.toList_ofList
  rw [hchars]
  exact (Reads.blank rfl).append (hblanks _)

theorem Reads.word {j : Json} (hj : j = .null ∨ j = .bool true ∨ j = .bool false)
    (hrest : Ends rest) : Reads (atomText j).toList [.atom j] rest := by
  obtain ⟨c, after, rfl, rfl | rfl⟩ := hrest
  all_goals
    intro tokens
    rcases hj with rfl | rfl | rfl <;> rfl

theorem ends_comma : Ends (',' :: rest) :=
  ⟨',', rest, rfl, Or.inl rfl⟩

theorem ends_indentation (depth : Nat) : Ends ((Json.indentation depth).toList ++ rest) := by
  refine ⟨'\n', List.replicate (2 * depth) ' ' ++ rest, ?_, Or.inr rfl⟩
  rw [Json.indentation, String.toList_ofList, List.cons_append]

theorem Reads.intercalate {α : Type} {text : α → String} {tokens : α → List Token} {xs : List α}
    (h : ∀ x ∈ xs, ∀ rest, Ends rest → Reads (text x).toList (tokens x) rest) (hrest : Ends rest) :
    Reads (",".intercalate (xs.map text)).toList ([Token.comma].intercalate (xs.map tokens))
      rest := by
  rw [String.toList_intercalate]
  induction xs with
  | nil => exact fun tokens => rfl
  | cons x xs ih =>
    have hx := h x List.mem_cons_self
    have hxs := ih fun y hy => h y (List.mem_cons_of_mem x hy)
    cases xs with
    | nil => simpa using hx rest hrest
    | cons y ys =>
      simp only [List.map_cons, List.intercalate_cons_cons, List.append_assoc] at hxs ⊢
      have hcomma : ∀ later, Reads ",".toList [.comma] later := fun later => Reads.mark rfl
      exact (hx _ ends_comma).append ((hcomma _).append hxs)

theorem Reads.enclosed {α : Type} {text : α → String} {tokens : α → List Token} {xs : List α}
    (h : ∀ x ∈ xs, ∀ rest, Ends rest → Reads (text x).toList (tokens x) rest) {a b : Char}
    {opening closing : Token} (ha : mark? a = some opening) (hb : mark? b = some closing)
    (depth : Nat) :
    Reads (a :: (",".intercalate (xs.map text)).toList ++ (Json.indentation depth).toList ++ [b])
      (opening :: [Token.comma].intercalate (xs.map tokens) ++ [closing]) rest := by
  have hlast : Reads ((Json.indentation depth).toList ++ [b]) [closing] rest :=
    (Reads.indentation depth).append (Reads.mark hb)
  have hends : Ends ((Json.indentation depth).toList ++ [b] ++ rest) := by
    rw [List.append_assoc]
    exact ends_indentation depth
  have hfirst : Reads [a] [opening] ((",".intercalate (xs.map text)).toList ++
    ((Json.indentation depth).toList ++ [b]) ++ rest) := Reads.mark ha
  have hall := hfirst.append ((Reads.intercalate h hends).append hlast)
  rwa [← List.append_assoc, ← List.append_assoc] at hall

end

end Lexer

namespace Builder

/-- Wherever a value may come, the tokens give this one. Up to `n` arrays and objects are opened for
it. -/
def Builds (n : Nat) (ts : List Token) (j : Json) : Prop :=
  ∀ frames expect, frames.length + n ≤ maxOpen → expect = .value ∨ expect = .valueOrClose →
    ts.foldlM step? { frames, expect } = some (give frames j)

theorem builds_atom {n : Nat} (j : Json) : Builds n [.atom j] j := by
  rintro frames expect - (rfl | rfl)
  · rfl
  · rfl

theorem builds_text {n : Nat} (s : String) : Builds n [.text s] (.str s) := by
  rintro frames expect - (rfl | rfl)
  · rfl
  · rfl

/-- Items with commas between them are taken in one after the other. `enter` is where the builder
stands in front of an item, and `after` where it stands behind one. -/
theorem foldlM_series {α : Type} {tokens : α → List Token} (enter after : List α → Builder)
    (hcomma : ∀ taken, step? (after taken) .comma = some (enter taken)) {xs : List α}
    (h : ∀ x ∈ xs, ∀ taken, (tokens x).foldlM step? (enter taken) = some (after (x :: taken)))
    (hne : xs ≠ []) {start : Builder} {before : List α}
    (hstart : ∀ x ∈ xs, (tokens x).foldlM step? start = some (after (x :: before))) :
    ([Token.comma].intercalate (xs.map tokens)).foldlM step? start =
      some (after (xs.reverse ++ before)) := by
  induction xs generalizing start before with
  | nil => exact absurd rfl hne
  | cons x xs ih =>
    have hx := hstart x List.mem_cons_self
    cases xs with
    | nil =>
      rw [List.map_singleton, List.intercalate_singleton]
      exact hx
    | cons y ys =>
      have hys := ih (fun z hz => h z (List.mem_cons_of_mem x hz)) (List.cons_ne_nil y ys)
        fun z hz => h z (List.mem_cons_of_mem x hz) (x :: before)
      simp only [List.map_cons, List.intercalate_cons_cons, List.append_assoc] at hys ⊢
      rw [List.foldlM_append, hx, Option.bind_eq_bind, Option.bind_some, List.singleton_append,
        List.foldlM_cons, hcomma, Option.bind_eq_bind, Option.bind_some, hys,
        List.reverse_cons (a := x), List.append_assoc, List.singleton_append]

theorem builds_arr_nil {n : Nat} : Builds (n + 1) [.openArr, .closeArr] (.arr []) := by
  intro frames expect hopen hexpect
  have hroom : frames.length < maxOpen := by omega
  have hbegin : step? { frames, expect } .openArr =
      some { frames := .items [] :: frames, expect := .valueOrClose } := by
    rcases hexpect with rfl | rfl <;> exact if_pos hroom
  rw [List.foldlM_cons, hbegin]
  rfl

theorem builds_arr {n : Nat} {js : List Json} (hne : js ≠ []) {tokens : Json → List Token}
    (h : ∀ j ∈ js, Builds n (tokens j) j) :
    Builds (n + 1) (.openArr :: [Token.comma].intercalate (js.map tokens) ++ [.closeArr])
      (.arr js) := by
  intro frames expect hopen hexpect
  have hbegin : step? { frames, expect } .openArr =
      some { frames := .items [] :: frames, expect := .valueOrClose } := by
    have hroom : frames.length < maxOpen := by omega
    rcases hexpect with rfl | rfl <;> exact if_pos hroom
  have hopen' : (frames.length + 1) + n ≤ maxOpen := by omega
  have hitems := foldlM_series (fun taken => ⟨.items taken :: frames, .value⟩)
    (fun taken => ⟨.items taken :: frames, .commaOrClose⟩) (fun taken => rfl)
    (fun j hj taken => h j hj (.items taken :: frames) .value hopen' (Or.inl rfl)) hne
    fun j hj => h j hj (.items [] :: frames) .valueOrClose hopen' (Or.inr rfl)
  have hend : step? ⟨.items (js.reverse ++ []) :: frames, .commaOrClose⟩ .closeArr =
      some (give frames (.arr js)) := by
    rw [List.append_nil]
    exact congrArg (fun items => some (give frames (.arr items))) js.reverse_reverse
  rw [List.cons_append, List.foldlM_cons, hbegin, Option.bind_eq_bind, Option.bind_some,
    List.foldlM_append, hitems, Option.bind_eq_bind, Option.bind_some, List.foldlM_cons, hend]
  rfl

theorem builds_obj_nil {n : Nat} : Builds (n + 1) [.openObj, .closeObj] (.obj []) := by
  intro frames expect hopen hexpect
  have hroom : frames.length < maxOpen := by omega
  have hbegin : step? { frames, expect } .openObj = some { frames, expect := .keyOrClose [] } := by
    rcases hexpect with rfl | rfl <;> exact if_pos hroom
  rw [List.foldlM_cons, hbegin]
  rfl

theorem builds_obj {n : Nat} {ms : List (String × Json)} (hne : ms ≠ [])
    {tokens : String × Json → List Token} (h : ∀ m ∈ ms, Builds n (tokens m) m.2) :
    Builds (n + 1) (.openObj ::
      [Token.comma].intercalate (ms.map fun m => .text m.1 :: .colon :: tokens m) ++ [.closeObj])
      (.obj ms) := by
  intro frames expect hopen hexpect
  have hbegin : step? { frames, expect } .openObj =
      some { frames, expect := .keyOrClose [] } := by
    have hroom : frames.length < maxOpen := by omega
    rcases hexpect with rfl | rfl <;> exact if_pos hroom
  have hopen' : (frames.length + 1) + n ≤ maxOpen := by omega
  have hmember : ∀ m ∈ ms, ∀ taken place, place = .key taken ∨ place = .keyOrClose taken →
      (Token.text m.1 :: .colon :: tokens m).foldlM step? { frames, expect := place } =
        some { frames := .members (m :: taken) "" :: frames, expect := .commaOrClose } := by
    intro m hm taken place hplace
    have hkey : step? { frames, expect := place } (.text m.1) =
        some { frames, expect := .colon taken m.1 } := by
      rcases hplace with rfl | rfl <;> rfl
    have hcolon : step? { frames, expect := .colon taken m.1 } .colon =
        some { frames := .members taken m.1 :: frames, expect := .value } := rfl
    have hvalue := h m hm (.members taken m.1 :: frames) .value hopen' (Or.inl rfl)
    rw [List.foldlM_cons, hkey, Option.bind_eq_bind, Option.bind_some, List.foldlM_cons, hcolon,
      Option.bind_eq_bind, Option.bind_some, hvalue, give]
  have hmembers := foldlM_series (fun taken => ⟨frames, .key taken⟩)
    (fun taken => ⟨.members taken "" :: frames, .commaOrClose⟩) (fun taken => rfl)
    (fun m hm taken => hmember m hm taken _ (Or.inl rfl)) hne
    fun m hm => hmember m hm [] _ (Or.inr rfl)
  have hend : step? ⟨.members (ms.reverse ++ []) "" :: frames, .commaOrClose⟩ .closeObj =
      some (give frames (.obj ms)) := by
    rw [List.append_nil]
    exact congrArg (fun members => some (give frames (.obj members))) ms.reverse_reverse
  rw [List.cons_append, List.foldlM_cons, hbegin, Option.bind_eq_bind, Option.bind_some,
    List.foldlM_append, hmembers, Option.bind_eq_bind, Option.bind_some, List.foldlM_cons, hend]
  rfl

end Builder

open Lexer Builder

theorem indentedItems_eq (depth : Nat) (js : List Json) :
    indentedItems depth js =
      js.map fun j => Json.indentation depth ++ indentedAt depth j := by
  induction js with
  | nil => rfl
  | cons j js ih => rw [indentedItems, ih, List.map_cons]

theorem indentedMembers_eq (depth : Nat) (ms : List (String × Json)) :
    indentedMembers depth ms =
      ms.map fun m => Json.indentation depth ++ quote m.1 ++ ": " ++ indentedAt depth m.2 := by
  induction ms with
  | nil => rfl
  | cons m ms ih => rw [indentedMembers, ih, List.map_cons]

/-- What is written for a plain value is cut into tokens that build this value. The induction is on
the value, for every depth that it may stand at. -/
theorem exists_tokens {n : Nat} {j : Json} (h : Plain n j) (depth : Nat) :
    ∃ ts, (∀ rest, Ends rest → Reads (indentedAt depth j).toList ts rest) ∧ Builds n ts j := by
  induction h generalizing depth with
  | null => exact ⟨[.atom .null], fun rest => Reads.word (Or.inl rfl), builds_atom _⟩
  | bool b =>
    refine ⟨[.atom (.bool b)], fun rest => Reads.word (Or.inr ?_), builds_atom _⟩
    cases b with
    | true => exact Or.inl rfl
    | false => exact Or.inr rfl
  | str s => exact ⟨[.text s], fun rest _ => Reads.quote s, builds_text s⟩
  | @arr n items h ih =>
    cases items with
    | nil =>
      have hchars : (indentedAt depth (.arr [])).toList = ['['] ++ [']'] := by simp [indentedAt]
      refine ⟨[.openArr] ++ [.closeArr], fun rest _ => ?_, builds_arr_nil⟩
      rw [hchars]
      exact (Reads.mark rfl).append (Reads.mark rfl)
    | cons j js =>
      choose! tokens htokens using fun i hi => ih i hi (depth + 1)
      refine ⟨_, fun rest hrest => ?_, builds_arr (List.cons_ne_nil j js) fun i hi =>
        (htokens i hi).2⟩
      have hchars : (indentedAt depth (.arr (j :: js))).toList = '[' ::
          (",".intercalate (indentedItems (depth + 1) (j :: js))).toList ++
            (Json.indentation depth).toList ++ [']'] := by
        simp [indentedAt]
      rw [hchars, indentedItems_eq]
      refine Reads.enclosed (fun i hi rest hends => ?_) rfl rfl depth
      rw [String.toList_append]
      exact (Reads.indentation _).append ((htokens i hi).1 rest hends)
  | @obj n members h ih =>
    cases members with
    | nil =>
      have hchars : (indentedAt depth (.obj [])).toList = ['\x7b'] ++ ['\x7d'] := by
        simp [indentedAt]
      refine ⟨[.openObj] ++ [.closeObj], fun rest _ => ?_, builds_obj_nil⟩
      rw [hchars]
      exact (Reads.mark rfl).append (Reads.mark rfl)
    | cons m ms =>
      choose! tokens htokens using fun i hi => ih i hi (depth + 1)
      refine ⟨_, fun rest hrest => ?_, builds_obj (List.cons_ne_nil m ms) fun i hi =>
        (htokens i hi).2⟩
      have hchars : (indentedAt depth (.obj (m :: ms))).toList = '\x7b' ::
          (",".intercalate (indentedMembers (depth + 1) (m :: ms))).toList ++
            (Json.indentation depth).toList ++ ['\x7d'] := by
        simp [indentedAt]
      rw [hchars, indentedMembers_eq]
      refine Reads.enclosed (fun i hi rest hends => ?_) rfl rfl depth
      have hvalue := (htokens i hi).1 rest hends
      have hcolon : Reads ": ".toList [.colon]
          ((indentedAt (depth + 1) i.2).toList ++ rest) :=
        (Reads.mark (c := ':') rfl).append (Reads.blank (c := ' ') rfl)
      rw [String.toList_append, String.toList_append, String.toList_append, List.append_assoc,
        List.append_assoc]
      exact (Reads.indentation _).append ((Reads.quote i.1).append (hcolon.append hvalue))

theorem ofString?_indented {n : Nat} {j : Json} (h : Plain n j) (hn : n ≤ Builder.maxOpen) :
    ofString? (j.indented ++ "\n") = some j := by
  obtain ⟨ts, hreads, hbuilds⟩ := exists_tokens h 0
  have hline : Ends ['\n'] := ⟨'\n', [], rfl, Or.inr rfl⟩
  have hcut : tokens? (j.indented ++ "\n").toList = some ts := by
    have hall := hreads ['\n'] hline []
    have hlast : ['\n'].foldlM Lexer.step? { tokens := ts.reverse ++ [] } =
        some { tokens := ts.reverse ++ [] } := rfl
    have htext : (j.indented ++ "\n").toList = (indentedAt 0 j).toList ++ ['\n'] :=
      String.toList_append
    rw [tokens?, htext, hall, hlast, Option.bind_eq_bind, Option.bind_some, finish?]
    simp
  have hbuilt := hbuilds [] .value ((Nat.zero_add n).symm ▸ hn) (Or.inl rfl)
  rw [ofString?, hcut, Option.bind_eq_bind, Option.bind_some, ofTokens?, hbuilt]
  rfl

end LspHost.Json
