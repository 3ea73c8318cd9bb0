import LspHost.Path.Normal
import LspHost.Proofs.Path.Components
import Mathlib.Data.List.Induction

/-!
# Laws of the normal form

The components that a path keeps are names, below the root or below some `..` that nothing took
back. Folding such a list again changes nothing, and folding it on top of other components does
what the list it came from does. So a path may be brought into normal form before or after another
one is joined to it or before it is joined to another one.
-/

namespace LspHost.Path

/-- Names below the root, or below a run of `..`. -/
inductive NormalForm : List Component → Prop
  | absolute {names : List Bytes} (h : ∀ n ∈ names, IsName n) :
      NormalForm (.root :: names.map .name)
  | relative (k : Nat) {names : List Bytes} (h : ∀ n ∈ names, IsName n) :
      NormalForm (List.replicate k .parent ++ names.map .name)

def origin (absolute : Bool) : List Component :=
  if absolute then [.root] else []

theorem normalComponents_eq (p : Path) :
    p.normalComponents = ((body p.bytes).foldl foldComponent (origin p.isAbsolute)).reverse := by
  rw [normalComponents, components_eq, List.foldl_append]
  cases h : p.isAbsolute with
  | true =>
    obtain ⟨bs, rfl⟩ := isAbsolute_iff.mp h
    rw [split_slash]
    rfl
  | false =>
    rcases split_fst_relative h with hs | hs
    · rw [hs]
      rfl
    · rw [hs]
      rfl

theorem foldl_names (names : List Bytes) (kept : List Component) :
    (names.map Component.name).foldl foldComponent kept =
      (names.map Component.name).reverse ++ kept := by
  induction names generalizing kept with
  | nil => rfl
  | cons n names ih => simp [foldComponent, ih]

theorem foldl_parents (k : Nat) :
    (List.replicate k Component.parent).foldl foldComponent [] = List.replicate k .parent := by
  induction k with
  | zero => rfl
  | succ k ih =>
    rw [List.replicate_succ', List.foldl_append, ih, List.foldl_cons, List.foldl_nil,
      ← List.replicate_succ', List.replicate_succ]
    cases k <;> rfl

theorem foldl_parents_root (k : Nat) :
    (List.replicate k Component.parent).foldl foldComponent [.root] = [.root] := by
  induction k with
  | zero => rfl
  | succ k ih => rw [List.replicate_succ, List.foldl_cons, foldComponent, ih]

theorem NormalForm.foldl {cs : List Component} (h : NormalForm cs) :
    cs.foldl foldComponent [] = cs.reverse := by
  cases h with
  | absolute h => rw [List.foldl_cons, foldl_names, List.reverse_cons]; rfl
  | relative k h =>
    rw [List.foldl_append, foldl_parents, foldl_names, List.reverse_append, List.reverse_replicate]

theorem NormalForm.fold {cs : List Component} {c : Component} (h : NormalForm cs) (hc : Inner c) :
    NormalForm (foldComponent cs.reverse c).reverse := by
  cases hc with
  | name hn =>
    have hlast : ∀ {names : List Bytes}, (∀ n ∈ names, IsName n) → ∀ n ∈ names ++ [_], IsName n :=
      fun h => List.forall_mem_append.mpr ⟨h, List.forall_mem_singleton.mpr hn⟩
    rw [foldComponent, List.reverse_cons, List.reverse_reverse]
    · cases h with
      | absolute h => simpa using NormalForm.absolute (hlast h)
      | relative k h => simpa using NormalForm.relative k (hlast h)
    all_goals nofun
  | parent =>
    cases h with
    | @absolute names h =>
      rcases names.eq_nil_or_concat' with rfl | ⟨before, n, rfl⟩
      · exact .absolute h
      · have hrest := (List.forall_mem_append.mp h).1
        simpa [foldComponent] using NormalForm.absolute hrest
    | @relative k names h =>
      rcases names.eq_nil_or_concat' with rfl | ⟨before, n, rfl⟩
      · -- nothing is left to take back
        have hparent : foldComponent (List.replicate k .parent) .parent =
            List.replicate (k + 1) .parent := by
          cases k <;> rfl
        simpa [hparent] using NormalForm.relative (k + 1) h
      · have hrest := (List.forall_mem_append.mp h).1
        simpa [foldComponent] using NormalForm.relative k hrest

theorem normalForm_normalComponents (p : Path) : NormalForm p.normalComponents := by
  rw [normalComponents_eq]
  have hinner : ∀ c ∈ body p.bytes, Inner c := fun c => inner_of_mem_body
  generalize body p.bytes = cs at hinner
  induction cs using List.reverseRecOn with
  | nil =>
    have hnone : ∀ n ∈ ([] : List Bytes), IsName n := nofun
    cases p.isAbsolute with
    | true => exact .absolute hnone
    | false => exact .relative 0 hnone
  | append_singleton cs c ih =>
    obtain ⟨hcs, hc⟩ := List.forall_mem_append.mp hinner
    rw [List.foldl_append]
    simpa using (ih hcs).fold (hc c (List.mem_singleton_self c))

theorem inner_relative (k : Nat) {names : List Bytes} (h : ∀ n ∈ names, IsName n) :
    ∀ c ∈ List.replicate k Component.parent ++ names.map .name, Inner c :=
  List.forall_mem_append.mpr ⟨fun _ hc => List.eq_of_mem_replicate hc ▸ .parent, inner_names h⟩

theorem ofComponents_inner {cs : List Component} (h : ∀ c ∈ cs, Inner c) :
    ofComponents cs = ⟨joinSlash (cs.map Component.bytes)⟩ := by
  cases cs with
  | nil => rfl
  | cons c cs =>
    cases h c List.mem_cons_self with
    | parent => rfl
    | name => rfl

theorem components_ofComponents {cs : List Component} (h : NormalForm cs) :
    (ofComponents cs).components = cs := by
  cases h with
  | absolute h => rw [ofComponents, components_slash, body_bytes (inner_names h)]
  | relative k h =>
    have hinner := inner_relative k h
    rw [ofComponents_inner hinner, components_bytes hinner]

theorem components_normalize (p : Path) : p.normalize.components = p.normalComponents :=
  components_ofComponents (normalForm_normalComponents p)

theorem normalComponents_of_normalForm {p : Path} (h : NormalForm p.components) :
    p.normalComponents = p.components := by
  rw [normalComponents, h.foldl, List.reverse_reverse]

theorem normalComponents_normalize (p : Path) :
    p.normalize.normalComponents = p.normalComponents := by
  rw [normalComponents_of_normalForm] <;> rw [components_normalize]
  exact normalForm_normalComponents p

theorem normalize_normalize (p : Path) : p.normalize.normalize = p.normalize := by
  rw [normalize, normalComponents_normalize, normalize]

theorem root_mem_foldComponent_iff {c : Component} (hc : Inner c) (kept : List Component) :
    .root ∈ foldComponent kept c ↔ .root ∈ kept := by
  cases hc with
  | name => simp [foldComponent]
  | parent =>
    cases kept with
    | nil => simp [foldComponent]
    | cons last kept => cases last <;> simp [foldComponent]

theorem isAbsolute_normalize (p : Path) : p.normalize.isAbsolute = p.isAbsolute := by
  rw [Bool.eq_iff_iff, ← root_mem_components_iff, components_normalize, normalComponents_eq,
    List.mem_reverse]
  have hinner : ∀ c ∈ body p.bytes, Inner c := fun c => inner_of_mem_body
  generalize body p.bytes = cs at hinner
  induction cs using List.reverseRecOn with
  | nil => cases p.isAbsolute <;> decide
  | append_singleton cs c ih =>
    obtain ⟨hcs, hc⟩ := List.forall_mem_append.mp hinner
    rw [List.foldl_concat, root_mem_foldComponent_iff (hc c (List.mem_singleton_self c))]
    exact ih hcs

theorem normalComponents_join {p : Path} (q : Path) (hp : p.isAbsolute = false) :
    (q.join p).normalComponents =
      ((body p.bytes).foldl foldComponent q.normalComponents.reverse).reverse := by
  rw [normalComponents_eq, isAbsolute_join, hp, Bool.false_or, body_join hp, List.foldl_append,
    normalComponents_eq, List.reverse_reverse]

/-- Folding what has been folded does what it did before, on top of any components. -/
theorem foldl_reverse_foldl (cs kept : List Component) (h : ∀ c ∈ cs, Inner c) :
    (cs.foldl foldComponent []).reverse.foldl foldComponent kept =
      cs.foldl foldComponent kept := by
  induction cs using List.reverseRecOn with
  | nil => rfl
  | append_singleton cs c ih =>
    obtain ⟨hcs, hc⟩ := List.forall_mem_append.mp h
    rw [List.foldl_concat, List.foldl_concat, ← ih hcs]
    generalize cs.foldl foldComponent [] = folded
    cases hc c (List.mem_singleton_self c) with
    | name => simp [foldComponent]
    | parent =>
      -- a `..` takes back the name that the folded list ends in, or is added to it
      cases folded with
      | nil => rfl
      | cons last folded => cases last <;> simp [foldComponent]

theorem NormalForm.current_notMem {cs : List Component} (h : NormalForm cs) : .current ∉ cs := by
  cases h <;> simp

theorem NormalForm.of_isAbsolute {p : Path} (h : NormalForm p.components)
    (hp : p.isAbsolute = true) : ∃ names : List Bytes, p.components = .root :: names.map .name ∧
      ∀ n ∈ names, IsName n := by
  rw [← root_mem_components_iff] at hp
  generalize p.components = cs at h hp
  cases h with
  | absolute h => exact ⟨_, rfl, h⟩
  | relative k h => simp at hp

theorem NormalForm.of_relative {p : Path} (h : NormalForm p.components)
    (hp : p.isAbsolute = false) : ∃ (k : Nat) (names : List Bytes),
      p.components = List.replicate k .parent ++ names.map .name ∧ ∀ n ∈ names, IsName n := by
  have hroot : .root ∉ p.components := by simp [root_mem_components_iff, hp]
  generalize p.components = cs at h hroot
  cases h with
  | absolute h => exact absurd List.mem_cons_self hroot
  | relative k h => exact ⟨k, _, rfl, h⟩

theorem normalForm_normalize (p : Path) : NormalForm p.normalize.components := by
  rw [components_normalize]
  exact normalForm_normalComponents p

theorem exists_names_of_normalize {p : Path} (hp : p.isAbsolute = true) (h : p.normalize = p) :
    ∃ names : List Bytes, (∀ n ∈ names, IsName n) ∧ p = ⟨slash :: joinSlash names⟩ := by
  have hform : NormalForm p.components := h ▸ normalForm_normalize p
  obtain ⟨names, hcomponents, hnames⟩ := hform.of_isAbsolute hp
  have hbytes : (names.map Component.name).map Component.bytes = names := by
    rw [List.map_map]
    exact List.map_id names
  refine ⟨names, hnames, ?_⟩
  rw [← h, normalize, normalComponents_of_normalForm hform, hcomponents, ofComponents, hbytes]

theorem body_normalize {p : Path} (hp : p.isAbsolute = false) :
    body p.normalize.bytes = p.normalize.components := by
  refine (components_relative ?_).symm
  refine (split_fst_relative ((isAbsolute_normalize p).trans hp)).resolve_right fun h => ?_
  refine (normalForm_normalize p).current_notMem ?_
  rw [components_eq, h]
  exact List.mem_cons_self

theorem foldl_body_normalize {p : Path} (hp : p.isAbsolute = false) (kept : List Component) :
    (body p.normalize.bytes).foldl foldComponent kept = (body p.bytes).foldl foldComponent kept := by
  rw [body_normalize hp, components_normalize, normalComponents_eq, hp, origin,
    if_neg Bool.false_ne_true, foldl_reverse_foldl _ _ fun c => inner_of_mem_body]

theorem normalComponents_join_normalize (q p : Path) :
    (q.join p.normalize).normalComponents = (q.join p).normalComponents := by
  cases hp : p.isAbsolute with
  | true =>
    rw [join, join, isAbsolute_normalize, if_pos hp, if_pos hp, normalComponents_normalize]
  | false =>
    rw [normalComponents_join q ((isAbsolute_normalize p).trans hp), foldl_body_normalize hp,
      ← normalComponents_join q hp]

theorem normalComponents_normalize_join (q p : Path) :
    (q.normalize.join p).normalComponents = (q.join p).normalComponents := by
  cases hp : p.isAbsolute with
  | true => rw [join, join, if_pos hp, if_pos hp]
  | false => rw [normalComponents_join _ hp, normalComponents_join _ hp, normalComponents_normalize]

/-- Below the root the `..` that nothing took back have nothing to take back either. -/
theorem exists_components_normalize (p : Path) : ∃ (k : Nat) (names : List Bytes),
    p.normalize.components =
      (if p.isAbsolute then [.root] else List.replicate k .parent) ++ names.map .name ∧
    ((ofString "/").join p).normalize.components = .root :: names.map .name := by
  have hform := normalForm_normalize p
  rw [← isAbsolute_normalize p]
  cases hp : p.normalize.isAbsolute with
  | true =>
    obtain ⟨names, hnames, -⟩ := hform.of_isAbsolute hp
    refine ⟨0, names, hnames, ?_⟩
    rwa [join, if_pos ((isAbsolute_normalize p).symm.trans hp)]
  | false =>
    obtain ⟨k, names, hnames, -⟩ := hform.of_relative hp
    refine ⟨k, names, hnames, ?_⟩
    have hroot : (ofString "/").normalComponents = [.root] := by decide
    rw [components_normalize, ← normalComponents_join_normalize, normalComponents_join _ hp,
      body_normalize ((isAbsolute_normalize p).symm.trans hp), hnames, hroot, List.reverse_singleton,
      List.foldl_append, foldl_parents_root, foldl_names, List.reverse_append, List.reverse_reverse,
      List.reverse_singleton, List.singleton_append]

/-- The normal form of a path has no `.`, and has `..` only as a run at the beginning of a relative
path; below the root that run vanishes. It keeps the components that are in normal form already.
Bringing a path into normal form a second time changes nothing, and it may be done before or after
another path is joined, on either side. -/
theorem normalize_laws (p : Path) :
    .current ∉ p.normalize.components ∧
    (∃ (k : Nat) (names : List Bytes),
      p.normalize.components =
        (if p.isAbsolute then [.root] else List.replicate k .parent) ++ names.map .name ∧
      ((ofString "/").join p).normalize.components = .root :: names.map .name) ∧
    (p.normalize.components = p.components ↔ NormalForm p.components) ∧
    p.normalize.normalize = p.normalize ∧
    (∀ q : Path, (q.join p).normalize = (q.normalize.join p).normalize) ∧
    ∀ q : Path, (q.join p.normalize).normalize = (q.join p).normalize := by
  refine ⟨(normalForm_normalize p).current_notMem, exists_components_normalize p,
    ⟨fun h => h ▸ normalForm_normalize p, fun h => ?_⟩, normalize_normalize p, fun q => ?_,
    fun q => ?_⟩
  · rw [components_normalize, normalComponents_of_normalForm h]
  · exact congrArg ofComponents (normalComponents_normalize_join q p).symm
  · exact congrArg ofComponents (normalComponents_join_normalize q p)

example : (ofString "./a//../../b/c/..").normalize = ofString "../b" := by decide

end LspHost.Path
