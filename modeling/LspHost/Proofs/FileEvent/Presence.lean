import LspHost.Proofs.FileEvent.Merge

/-!
# What events say about the presence of a file

Events about a file are truthful if each could happen where the ones before it had left the file:
it is created only while it is absent, and changed or deleted only while it is present. One list of
events is a faithful account of another if it is truthful about every file that the other is
truthful about, leaves it where the other leaves it, and does not pass over a file that was there.
Merging gives a faithful account, and accounts of two lists in a row give an account of both.
-/

namespace LspHost.FileEvent

/-- Whether a file is there after an event, if the event could happen at all. -/
def happen? (there : Bool) (kind : Int32) : Option Bool :=
  if kind = created then if there then none else some true
  else if kind = changed then if there then some true else none
  else if kind = deleted then if there then some false else none
  else none

def follow? (there : Bool) (kinds : List Int32) : Option Bool :=
  kinds.foldlM happen? there

/-- Whether the file of a URL is there after events, if they are truthful about it. -/
def presence? (url : Url) (there : Bool) (events : List FileEvent) : Option Bool :=
  follow? there (kindsOf url events)

def Mentions (url : Url) (events : List FileEvent) : Prop :=
  url ∈ events.map FileEvent.url

/-- What events of a file come to that was there or not before and is there or not afterwards. -/
def change? : Bool → Bool → Option Int32
  | true, true => some changed
  | true, false => some deleted
  | false, true => some created
  | false, false => none

theorem follow?_append (there : Bool) (xs ys : List Int32) :
    follow? there (xs ++ ys) = (follow? there xs).bind fun mid => follow? mid ys := by
  simp [follow?, List.foldlM_append]

@[simp] theorem follow?_nil (there : Bool) : follow? there [] = some there := rfl

@[simp] theorem follow?_singleton (there : Bool) (k : Int32) :
    follow? there [k] = happen? there k := by
  simp [follow?]

theorem presence?_append (url : Url) (there : Bool) (xs ys : List FileEvent) :
    presence? url there (xs ++ ys) =
      (presence? url there xs).bind fun mid => presence? url mid ys := by
  rw [presence?, kindsOf_append, follow?_append]
  rfl

theorem happen?_change (there after : Bool) (k : Int32) (h : change? there after = some k) :
    happen? there k = some after := by
  cases there <;> cases after <;> cases h <;> rfl

theorem change?_of_happen {there after : Bool} {k : Int32} (h : happen? there k = some after) :
    change? there after = some k := by
  unfold happen? at h
  split_ifs at h <;> simp_all [change?]

theorem settle_change {there mid after : Bool} {k : Int32} (h : happen? mid k = some after) :
    settle (change? there mid) k = change? there after := by
  have hk := change?_of_happen h
  cases there <;> cases mid <;> cases after <;> simp [change?] at hk <;> subst hk <;> decide

theorem net_of_follow {there after : Bool} {kinds : List Int32} (hne : kinds ≠ [])
    (h : follow? there kinds = some after) : net kinds = change? there after := by
  induction kinds using List.reverseRecOn generalizing after with
  | nil => exact absurd rfl hne
  | append_singleton kinds k ih =>
    obtain ⟨mid, hmid, hk⟩ := Option.bind_eq_some_iff.mp (follow?_append there kinds [k] ▸ h)
    rw [follow?_singleton] at hk
    rw [net_concat]
    by_cases hnil : kinds = []
    · subst hnil
      obtain rfl : there = mid := Option.some.inj hmid
      exact (change?_of_happen hk).symm
    · rw [ih hnil hmid]
      exact settle_change hk

theorem follow_net {there after : Bool} {kinds : List Int32}
    (h : follow? there kinds = some after) : follow? there (net kinds).toList = some after := by
  by_cases hne : kinds = []
  · subst hne
    exact h
  · rw [net_of_follow hne h]
    cases hc : change? there after with
    | none =>
      obtain ⟨rfl, rfl⟩ : there = false ∧ after = false := by
        revert hc
        cases there <;> cases after <;> simp [change?]
      rfl
    | some k =>
      rw [Option.toList_some, follow?_singleton]
      exact happen?_change there after k hc

/-- One list of events tells of every file what another one tells of it. -/
def Faithful (raw account : List FileEvent) : Prop :=
  ∀ url there after, presence? url there raw = some after →
    presence? url there account = some after ∧
      (there = true → Mentions url raw → Mentions url account)

namespace Faithful

theorem refl (events : List FileEvent) : Faithful events events :=
  fun _ _ _ h => ⟨h, fun _ hm => hm⟩

theorem trans {xs ys zs : List FileEvent} (h : Faithful xs ys) (h' : Faithful ys zs) :
    Faithful xs zs := by
  intro url there after hx
  obtain ⟨hy, hm⟩ := h url there after hx
  obtain ⟨hz, hm'⟩ := h' url there after hy
  exact ⟨hz, fun ht hmem => hm' ht (hm ht hmem)⟩

theorem append {xs xs' ys ys' : List FileEvent} (hx : Faithful xs xs') (hy : Faithful ys ys') :
    Faithful (xs ++ ys) (xs' ++ ys') := by
  intro url there after h
  rw [presence?_append] at h
  obtain ⟨mid, hmid, hafter⟩ := Option.bind_eq_some_iff.mp h
  obtain ⟨hxp, hxm⟩ := hx url there mid hmid
  obtain ⟨hyp, hym⟩ := hy url mid after hafter
  refine ⟨by rw [presence?_append, hxp]; exact hyp, ?_⟩
  intro ht hm
  rw [Mentions, List.map_append, List.mem_append] at hm ⊢
  by_cases hxs : url ∈ xs.map FileEvent.url
  · exact Or.inl (hxm ht hxs)
  · -- nothing has happened to the file so far, so it is still there
    have hnone : kindsOf url xs = [] := (kindsOf_eq_nil_iff url xs).mpr hxs
    have hstay : mid = there := by
      rw [presence?, hnone, follow?_nil] at hmid
      exact (Option.some.inj hmid).symm
    exact Or.inr (hym (hstay.trans ht) (hm.resolve_left hxs))

theorem coalesce (events : List FileEvent) : Faithful events (FileEvent.coalesce events) := by
  intro url there after h
  refine ⟨?_, ?_⟩
  · rw [presence?, kindsOf_coalesce]
    exact follow_net h
  · intro ht hm
    subst ht
    have hne : kindsOf url events ≠ [] := fun hnil => (kindsOf_eq_nil_iff url events).mp hnil hm
    have hnet := net_of_follow hne h
    rw [Mentions]
    by_contra hno
    rw [← kindsOf_eq_nil_iff, kindsOf_coalesce, hnet] at hno
    cases after <;> simp [change?] at hno

end Faithful
end LspHost.FileEvent
