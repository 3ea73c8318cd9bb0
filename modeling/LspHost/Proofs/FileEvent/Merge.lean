import LspHost.FileEvent
import Mathlib.Data.List.Induction
import Mathlib.Tactic.SplitIfs

/-!
# What merging does to the events of one URL

A merged list names each URL at most once, so it is known by the kind it has for each URL. Adding an
event changes that kind for its own URL only, and there as `settle` says. Merging a whole list
therefore leaves for each URL what `net` makes of the kinds of that URL's own events.
-/

namespace LspHost.FileEvent

/-- The kinds of the events about a URL, in order. -/
def kindsOf (url : Url) (events : List FileEvent) : List Int32 :=
  (events.filter (·.url = url)).map kind

def kind? (url : Url) (events : List FileEvent) : Option Int32 :=
  (kindsOf url events).head?

/-- What is left of a URL after one more event about it. -/
def settle : Option Int32 → Int32 → Option Int32
  | none, next => some next
  | some first, next => mergeKinds first next

/-- What is left of a URL after events of these kinds. -/
def net (kinds : List Int32) : Option Int32 :=
  kinds.foldl settle none

def Distinct (events : List FileEvent) : Prop :=
  (events.map url).Nodup

@[simp] theorem kindsOf_nil (url : Url) : kindsOf url [] = [] := rfl

theorem kindsOf_cons_self (e : FileEvent) (events : List FileEvent) :
    kindsOf e.url (e :: events) = e.kind :: kindsOf e.url events := by
  simp [kindsOf]

theorem kindsOf_cons_of_ne {url : Url} {e : FileEvent} (h : e.url ≠ url)
    (events : List FileEvent) : kindsOf url (e :: events) = kindsOf url events := by
  simp [kindsOf, h]

@[simp] theorem kindsOf_append (url : Url) (xs ys : List FileEvent) :
    kindsOf url (xs ++ ys) = kindsOf url xs ++ kindsOf url ys := by
  simp [kindsOf]

theorem kindsOf_eq_nil_iff (url : Url) (events : List FileEvent) :
    kindsOf url events = [] ↔ url ∉ events.map FileEvent.url := by
  simp [kindsOf, List.filter_eq_nil_iff]

@[simp] theorem net_concat (kinds : List Int32) (k : Int32) :
    net (kinds ++ [k]) = settle (net kinds) k := by
  simp [net]

theorem settle_eq_none_iff (o : Option Int32) (next : Int32) :
    settle o next = none ↔ o = some created ∧ next = deleted := by
  cases o with
  | none => simp [settle]
  | some first =>
    rw [settle, mergeKinds]
    split_ifs with h₁ h₂ h₃
    · have hne : changed ≠ deleted := by decide
      simp [h₁.2, hne]
    · simp [h₂]
    · have hne : deleted ≠ created := by decide
      simp [h₃.1, hne]
    · simpa using h₂

theorem url_mem_of_mem_merge {merged : List FileEvent} {e : FileEvent} {url : Url}
    (h : url ∈ (merge merged e).map FileEvent.url) :
    url ∈ merged.map FileEvent.url ∨ url = e.url := by
  induction merged with
  | nil => exact Or.inr (by simpa [merge] using h)
  | cons m rest ih =>
    by_cases hm : m.url = e.url
    · rw [merge, if_pos hm] at h
      split at h
      · exact Or.inl (by simpa using h)
      · exact Or.inl (List.mem_cons_of_mem _ h)
    · rw [merge, if_neg hm, List.map_cons, List.mem_cons] at h
      rcases h with rfl | h
      · exact Or.inl (by simp)
      · exact (ih h).imp_left (List.mem_cons_of_mem _)

theorem merge_of_notMem {merged : List FileEvent} {e : FileEvent} (h : e.url ∉ merged.map url) :
    merge merged e = merged ++ [e] := by
  induction merged with
  | nil => rfl
  | cons m rest ih =>
    rw [List.map_cons, List.mem_cons, not_or] at h
    rw [merge, if_neg (Ne.symm h.1), ih h.2, List.cons_append]

theorem urls_merge_sublist {merged : List FileEvent} {e : FileEvent} (h : e.url ∈ merged.map url) :
    ((merge merged e).map url).Sublist (merged.map url) := by
  induction merged with
  | nil => cases h
  | cons m rest ih =>
    by_cases hm : m.url = e.url
    · rw [merge, if_pos hm]
      split
      · exact List.Sublist.refl _
      · exact List.sublist_cons_self _ _
    · rw [merge, if_neg hm]
      exact (ih ((List.mem_cons.mp h).resolve_left (Ne.symm hm))).cons_cons _

theorem distinct_merge {merged : List FileEvent} (h : Distinct merged) (e : FileEvent) :
    Distinct (merge merged e) := by
  induction merged with
  | nil => simp [Distinct, merge]
  | cons m rest ih =>
    obtain ⟨hm, hrest⟩ := List.nodup_cons.mp (show (m.url :: rest.map url).Nodup from h)
    by_cases he : m.url = e.url
    · rw [merge, if_pos he]
      split
      · exact h
      · exact hrest
    · rw [merge, if_neg he]
      refine List.nodup_cons.mpr ⟨?_, ih hrest⟩
      intro hmem
      rcases url_mem_of_mem_merge hmem with hmem | hmem
      · exact hm hmem
      · exact he hmem

theorem kindsOf_merge_of_ne {e : FileEvent} {url : Url} (h : e.url ≠ url)
    (merged : List FileEvent) : kindsOf url (merge merged e) = kindsOf url merged := by
  induction merged with
  | nil => simp [merge, kindsOf_cons_of_ne h]
  | cons m rest ih =>
    by_cases hm : m.url = e.url
    · rw [merge, if_pos hm, kindsOf_cons_of_ne (hm ▸ h)]
      split
      · exact kindsOf_cons_of_ne (by simpa [hm] using h) rest
      · rfl
    · rw [merge, if_neg hm]
      by_cases hu : m.url = url
      · subst hu
        rw [kindsOf_cons_self, kindsOf_cons_self, ih]
      · rw [kindsOf_cons_of_ne hu, kindsOf_cons_of_ne hu, ih]

theorem kindsOf_merge_self {merged : List FileEvent} (h : Distinct merged) (e : FileEvent) :
    kindsOf e.url (merge merged e) = (settle (kind? e.url merged) e.kind).toList := by
  induction merged with
  | nil => simp [merge, kind?, kindsOf, settle]
  | cons m rest ih =>
    obtain ⟨hm, hrest⟩ := List.nodup_cons.mp (show (m.url :: rest.map url).Nodup from h)
    by_cases he : m.url = e.url
    · have hnone : kindsOf e.url rest = [] := (kindsOf_eq_nil_iff _ _).mpr (he ▸ hm)
      have hkind : kind? e.url (m :: rest) = some m.kind := by
        rw [kind?, ← he, kindsOf_cons_self, List.head?_cons]
      rw [merge, if_pos he, hkind, settle]
      cases hk : mergeKinds m.kind e.kind with
      | none => simpa using hnone
      | some k => simp [kindsOf, he, ← hnone]
    · have hkind : kind? e.url (m :: rest) = kind? e.url rest := by
        rw [kind?, kindsOf_cons_of_ne he, kind?]
      rw [merge, if_neg he, kindsOf_cons_of_ne he, hkind, ih hrest]

theorem coalesce_concat (events : List FileEvent) (e : FileEvent) :
    coalesce (events ++ [e]) = merge (coalesce events) e := by
  simp [coalesce]

theorem distinct_coalesce (events : List FileEvent) : Distinct (coalesce events) := by
  induction events using List.reverseRecOn with
  | nil => exact List.nodup_nil
  | append_singleton events e ih =>
    rw [coalesce_concat]
    exact distinct_merge ih e

/-- A merged list has for each URL exactly what the URL's own events come to. -/
theorem kindsOf_coalesce (url : Url) (events : List FileEvent) :
    kindsOf url (coalesce events) = (net (kindsOf url events)).toList := by
  induction events using List.reverseRecOn with
  | nil => rfl
  | append_singleton events e ih =>
    rw [coalesce_concat, kindsOf_append]
    by_cases h : e.url = url
    · subst h
      have hkind : kind? e.url (coalesce events) = net (kindsOf e.url events) := by
        rw [kind?, ih]
        cases net (kindsOf e.url events) <;> rfl
      rw [kindsOf_merge_self (distinct_coalesce events), hkind, kindsOf_cons_self, kindsOf_nil,
        net_concat]
    · rw [kindsOf_merge_of_ne h, ih, kindsOf_cons_of_ne h, kindsOf_nil, List.append_nil]

theorem mem_coalesce_iff {events : List FileEvent} (e : FileEvent) :
    e ∈ coalesce events ↔ net (kindsOf e.url events) = some e.kind := by
  have hmem : e ∈ coalesce events ↔ e.kind ∈ kindsOf e.url (coalesce events) := by
    simp only [kindsOf, List.mem_map, List.mem_filter, decide_eq_true_eq]
    constructor
    · exact fun he => ⟨e, ⟨he, rfl⟩, rfl⟩
    · rintro ⟨⟨url, kind⟩, ⟨he, hurl⟩, hkind⟩
      obtain rfl : url = e.url := hurl
      obtain rfl : kind = e.kind := hkind
      exact he
  rw [hmem, kindsOf_coalesce, Option.mem_toList]

theorem merge_of_mem_created {merged : List FileEvent} {e : FileEvent}
    (h : ∀ m ∈ merged, m.kind = created) (he : e ∈ merged) : merge merged e = merged := by
  induction merged with
  | nil => cases he
  | cons m rest ih =>
    obtain ⟨hm, hrest⟩ := List.forall_mem_cons.mp h
    by_cases hurl : m.url = e.url
    · have hkeep : mergeKinds m.kind e.kind = some m.kind := by
        rw [hm, h e he]
        decide
      rw [merge, if_pos hurl, hkeep]
    · have hne : e ≠ m := fun heq => hurl (congrArg url heq.symm)
      rw [merge, if_neg hurl, ih hrest ((List.mem_cons.mp he).resolve_left hne)]

theorem coalesce_of_created {events : List FileEvent} (h : ∀ e ∈ events, e.kind = created) :
    coalesce events = events.eraseDups := by
  induction events using List.reverseRecOn with
  | nil => rfl
  | append_singleton events e ih =>
    obtain ⟨hevents, he⟩ := List.forall_mem_append.mp h
    rw [coalesce_concat, ih hevents, List.eraseDups_append]
    by_cases hmem : e ∈ events
    · have hnone : [e].removeAll events = [] := by simp [List.removeAll, hmem]
      rw [hnone, List.eraseDups_nil, List.append_nil]
      exact merge_of_mem_created (fun m hm => hevents m (List.mem_eraseDups.mp hm))
        (List.mem_eraseDups.mpr hmem)
    · have hone : [e].removeAll events = [e] := by simp [List.removeAll, hmem]
      rw [hone, merge_of_notMem]
      · rfl
      · intro hurl
        obtain ⟨m, hm, heq⟩ := List.mem_map.mp hurl
        have hm := List.mem_eraseDups.mp hm
        have hkind : m.kind = e.kind := (hevents m hm).trans (he e (List.mem_singleton_self e)).symm
        have hsame : m = e := congrArg₂ FileEvent.mk heq hkind
        exact hmem (hsame ▸ hm)

end LspHost.FileEvent
