import LspHost.Proofs.FileEvent.Presence
import LspHost.Watch.Notice

/-!
# What a server makes of merged events

A server that hears of a creation or a change takes the file to be there, whatever it took before,
and one that hears of a deletion takes it to be gone. Merged events tell it the same about a file as
the raw ones, unless the file was there before and its events cancel: it is created, the creation is
still to be told of, and then it is deleted. That can only happen to a file that was created over
itself, as the target of a rename is, so that its events do not show that it was there before.
-/

namespace LspHost.FileEvent

/-- Whether a server takes a file to be there after an event. -/
def hear (there : Bool) (kind : Int32) : Bool :=
  if kind = created ∨ kind = changed then true else if kind = deleted then false else there

/-- What a server takes to be there after a list of events. -/
def heard (there : Url → Bool) (events : List FileEvent) : Url → Bool :=
  events.foldl (fun there e => Function.update there e.url (hear (there e.url) e.kind)) there

def Telling (kind : Int32) : Prop :=
  kind = created ∨ kind = changed ∨ kind = deleted
deriving Decidable

/-- The events end with a creation that is still to be told of: no deletion is pending before it,
and at most further writing comes after it. -/
def TellsCreation (kinds : List Int32) : Prop :=
  ∃ before after, kinds = before ++ created :: after ∧ net before ≠ some deleted ∧
    ∀ k ∈ after, k = created ∨ k = changed

/-- The events end with the deletion of a file whose creation is still to be told of. -/
def Cancel (kinds : List Int32) : Prop :=
  ∃ before, kinds = before ++ [deleted] ∧ TellsCreation before

/-- The file is created while it is there. -/
def CreatedOver (there : Bool) (kinds : List Int32) : Prop :=
  ∃ before after, kinds = before ++ created :: after ∧ before.foldl hear there = true

section Hearing

theorem heard_apply (there : Url → Bool) (events : List FileEvent) (url : Url) :
    heard there events url = (kindsOf url events).foldl hear (there url) := by
  induction events generalizing there with
  | nil => rfl
  | cons e events ih =>
    rw [heard, List.foldl_cons, ← heard, ih]
    by_cases h : e.url = url
    · subst h
      rw [kindsOf_cons_self, List.foldl_cons, Function.update_self]
    · rw [kindsOf_cons_of_ne h, Function.update_of_ne (Ne.symm h)]

theorem hear_eq_of_telling {kind : Int32} (h : Telling kind) (there there' : Bool) :
    hear there kind = hear there' kind := by
  rcases h with rfl | rfl | rfl <;> rfl

end Hearing

section Net

theorem settle_eq_created_iff (o : Option Int32) (next : Int32) :
    settle o next = some created ↔
      next = created ∧ o ≠ some deleted ∨ next = changed ∧ o = some created := by
  cases o with
  | none => simp [settle]
  | some first =>
    rw [settle, mergeKinds]
    split_ifs with h₁ h₂ h₃
    · simp [h₁]
    · simp [h₂]
      decide
    · simp [h₃]
      decide
    · have hover : ¬ (next = changed ∧ first = created) := fun h => h₁ h.symm
      have hback : next = created → first ≠ deleted := fun h hf => h₃ ⟨hf, h⟩
      simp only [Option.some.injEq, ne_eq, hover, or_false]
      exact ⟨fun h => ⟨h, hback h⟩, fun h => h.1⟩

/-- What is left of a file is a creation exactly if the events end with one to be told of. -/
theorem net_eq_created_iff (kinds : List Int32) :
    net kinds = some created ↔ TellsCreation kinds := by
  induction kinds using List.reverseRecOn with
  | nil => simp [net, TellsCreation]
  | append_singleton kinds k ih =>
    rw [net_concat, settle_eq_created_iff, ih]
    constructor
    · rintro (⟨rfl, hne⟩ | ⟨rfl, before, after, rfl, hne, hafter⟩)
      · exact ⟨kinds, [], rfl, hne, List.forall_mem_nil _⟩
      · refine ⟨before, after ++ [changed], by simp, hne, ?_⟩
        intro k hk
        rcases List.mem_append.mp hk with hk | hk
        · exact hafter k hk
        · exact Or.inr (List.mem_singleton.mp hk)
    · rintro ⟨before, after, hsplit, hne, hafter⟩
      induction after using List.reverseRecOn with
      | nil =>
        obtain ⟨rfl, hk⟩ := List.append_inj' hsplit rfl
        exact Or.inl ⟨List.singleton_inj.mp hk, hne⟩
      | append_singleton after last =>
        rw [← List.cons_append, ← List.append_assoc] at hsplit
        obtain ⟨rfl, hk⟩ := List.append_inj' hsplit rfl
        obtain rfl := List.singleton_inj.mp hk
        have htells : TellsCreation (before ++ created :: after) :=
          ⟨before, after, rfl, hne, fun k hk => hafter k (List.mem_append_left _ hk)⟩
        rcases hafter k (List.mem_append_right _ List.mem_cons_self) with rfl | rfl
        · have hnet := ih.mpr htells
          exact Or.inl ⟨rfl, by rw [hnet]; decide⟩
        · exact Or.inr ⟨rfl, htells⟩

theorem cancel_iff (kinds : List Int32) : Cancel kinds ↔ kinds ≠ [] ∧ net kinds = none := by
  constructor
  · rintro ⟨before, rfl, htells⟩
    rw [net_concat, settle_eq_none_iff, net_eq_created_iff]
    exact ⟨by simp, htells, rfl⟩
  · rintro ⟨hne, hnet⟩
    obtain ⟨before, k, rfl⟩ := (List.eq_nil_or_concat kinds).resolve_left hne
    rw [List.concat_eq_append] at hnet ⊢
    rw [net_concat, settle_eq_none_iff, net_eq_created_iff] at hnet
    obtain ⟨htells, rfl⟩ := hnet
    exact ⟨before, rfl, htells⟩

instance (kinds : List Int32) : Decidable (Cancel kinds) :=
  decidable_of_iff _ (cancel_iff kinds).symm

variable {kinds : List Int32}

theorem telling_of_concat {k : Int32} (h : ∀ k' ∈ kinds ++ [k], Telling k') :
    (∀ k' ∈ kinds, Telling k') ∧ Telling k :=
  ⟨fun k' hk => h k' (List.mem_append_left _ hk), h k (by simp)⟩

theorem hear_of_net (h : ∀ k ∈ kinds, Telling k) {k : Int32} (hn : net kinds = some k)
    (there : Bool) : hear there k = kinds.foldl hear there := by
  induction kinds using List.reverseRecOn generalizing k with
  | nil => cases hn
  | append_singleton kinds next _ =>
    obtain ⟨-, hnext⟩ := telling_of_concat h
    rw [List.foldl_append, List.foldl_cons, List.foldl_nil,
      hear_eq_of_telling hnext _ there]
    rw [net_concat] at hn
    cases hks : net kinds with
    | none =>
      rw [hks, settle] at hn
      rw [Option.some.inj hn]
    | some first =>
      rw [hks, settle, mergeKinds] at hn
      split_ifs at hn with h₁ h₂ h₃
      · rw [← Option.some.inj hn, h₁.2]
        rfl
      · rw [← Option.some.inj hn, h₃.2]
        rfl
      · rw [Option.some.inj hn]

theorem eq_deleted_of_hear {k : Int32} (h : hear true k = false) : k = deleted := by
  unfold hear at h
  split_ifs at h with h₁ h₂
  exact h₂

theorem foldl_hear_of_cancel (h : Cancel kinds) (there : Bool) :
    kinds.foldl hear there = false := by
  obtain ⟨before, rfl, -⟩ := h
  rw [List.foldl_append, List.foldl_cons, List.foldl_nil]
  rfl

theorem net_of_not_createdOver (h : ∀ k ∈ kinds, Telling k) (ho : ¬ CreatedOver true kinds)
    (hne : kinds ≠ []) :
    net kinds = some (if kinds.foldl hear true then changed else deleted) := by
  induction kinds using List.reverseRecOn with
  | nil => exact absurd rfl hne
  | append_singleton kinds next ih =>
    obtain ⟨hkinds, hnext⟩ := telling_of_concat h
    have ho' : ¬ CreatedOver true kinds := by
      rintro ⟨before, after, rfl, hthere⟩
      exact ho ⟨before, after ++ [next], by simp, hthere⟩
    have hgone : next = created → kinds.foldl hear true = false := by
      rintro rfl
      by_contra hthere
      exact ho ⟨kinds, [], rfl, by simpa using hthere⟩
    rw [net_concat, List.foldl_append, List.foldl_cons, List.foldl_nil]
    by_cases hnil : kinds = []
    · subst hnil
      rcases hnext with rfl | rfl | rfl
      · exact absurd (hgone rfl) (by simp)
      · rfl
      · rfl
    · rw [ih hkinds ho' hnil]
      rcases hnext with rfl | rfl | rfl
      · rw [hgone rfl]
        decide
      · cases kinds.foldl hear true <;> decide
      · cases kinds.foldl hear true <;> decide

theorem createdOver_of_cancel (h : ∀ k ∈ kinds, Telling k) (hc : Cancel kinds) :
    CreatedOver true kinds := by
  obtain ⟨hne, hnet⟩ := (cancel_iff kinds).mp hc
  by_contra ho
  rw [net_of_not_createdOver h ho hne] at hnet
  cases hnet

end Net

section Merged

variable {events : List FileEvent}

theorem telling_of_kindsOf (h : ∀ e ∈ events, Telling e.kind) (url : Url) :
    ∀ k ∈ kindsOf url events, Telling k := by
  intro k hk
  obtain ⟨e, he, rfl⟩ := List.mem_map.mp hk
  exact h e (List.mem_filter.mp he).1

/-- Merged events are heard as the raw ones, unless the file's events cancel. -/
theorem heard_coalesce (there : Url → Bool) (h : ∀ e ∈ events, Telling e.kind) (url : Url) :
    heard there (coalesce events) url =
      if Cancel (kindsOf url events) then there url else heard there events url := by
  rw [heard_apply, heard_apply, kindsOf_coalesce]
  cases hn : net (kindsOf url events) with
  | none =>
    by_cases hnil : kindsOf url events = []
    · simp [hnil]
    · rw [if_pos ((cancel_iff _).mpr ⟨hnil, hn⟩)]
      rfl
  | some k =>
    have hc : ¬ Cancel (kindsOf url events) := by
      intro hc
      cases hn.symm.trans ((cancel_iff _).mp hc).2
    rw [if_neg hc]
    exact hear_of_net (telling_of_kindsOf h url) hn (there url)

end Merged

end LspHost.FileEvent

namespace LspHost

open FileEvent (Telling)

theorem Notice.telling_of_mem_pathKinds {n : Notice} {t : FileTree} {p : Path} {kind : Int32}
    (h : (p, kind) ∈ n.pathKinds t) : Telling kind := by
  obtain ⟨noticeKind, paths⟩ := n
  cases noticeKind with
  | created => exact Or.inl (by simp_all [pathKinds])
  | removed => exact Or.inr (Or.inr (by simp_all [pathKinds]))
  | renamedFrom => exact Or.inr (Or.inr (by simp_all [pathKinds]))
  | renamedTo => exact Or.inl (by simp_all [pathKinds])
  | renamedBoth =>
    cases paths with
    | nil => simp [pathKinds] at h
    | cons source targets =>
      simp only [pathKinds, List.mem_cons, Prod.mk.injEq, List.mem_map] at h
      rcases h with ⟨-, h⟩ | ⟨target, -, -, h⟩
      · exact Or.inr (Or.inr h)
      · exact Or.inl h.symm
  | renamed =>
    simp only [pathKinds, List.mem_map, Prod.mk.injEq] at h
    obtain ⟨q, -, -, h⟩ := h
    split_ifs at h
    · exact Or.inl h.symm
    · exact Or.inr (Or.inr h.symm)
  | modified => exact Or.inr (Or.inl (by simp_all [pathKinds]))
  | other => simp [pathKinds] at h

namespace WatchFilter

theorem eventOf_eq_some_iff {p : Path} {kind : Int32} {e : FileEvent} :
    eventOf p kind = some e ↔ Url.ofFilePath? p = some e.url ∧ e.kind = kind := by
  rw [eventOf, Option.map_eq_some_iff]
  constructor
  · rintro ⟨url, hurl, rfl⟩
    exact ⟨hurl, rfl⟩
  · rintro ⟨hurl, rfl⟩
    exact ⟨e.url, hurl, rfl⟩

theorem kind_of_eventOf {p : Path} {kind : Int32} {e : FileEvent} (h : eventOf p kind = some e) :
    e.kind = kind :=
  (eventOf_eq_some_iff.mp h).2

theorem kind_of_mem_pathEvents {f : WatchFilter} {t : FileTree} {p : Path} {kind : Int32}
    {e : FileEvent} (h : e ∈ f.pathEvents t p kind) :
    e.kind = FileEvent.created ∨ e.kind = kind := by
  unfold pathEvents at h
  split_ifs at h
  · obtain ⟨q, -, hq⟩ := List.mem_filterMap.mp h
    exact Or.inl (kind_of_eventOf hq)
  · exact Or.inr (kind_of_eventOf (Option.mem_toList.mp h))
  · cases h

theorem telling_of_mem_changes {f : WatchFilter} {t : FileTree} {n : Notice} {e : FileEvent}
    (he : e ∈ f.changes t n) : Telling e.kind := by
  simp only [changes, List.mem_flatMap] at he
  obtain ⟨⟨p, kind⟩, hp, he⟩ := he
  rcases kind_of_mem_pathEvents he with h | h
  · exact Or.inl h
  · exact h ▸ Notice.telling_of_mem_pathKinds hp

end WatchFilter

namespace FileEvent

/-- A server hears of every file in merged events what it hears in the raw ones, exactly if the file
was not there before or its events do not cancel. If they do, the server goes on taking it to be
there, although it has been created over itself and deleted then. The deletion of a file that was
there before is told of in all other cases. -/
theorem heard_coalesce_iff (there : Url → Bool) {events : List FileEvent}
    (h : ∀ e ∈ events, Telling e.kind) (url : Url) :
    (heard there (coalesce events) url = heard there events url ↔
      ¬ (there url = true ∧ Cancel (kindsOf url events))) ∧
    (Cancel (kindsOf url events) →
      heard there events url = false ∧ CreatedOver true (kindsOf url events)) ∧
    (there url = true → heard there events url = false →
      (⟨url, deleted⟩ ∈ coalesce events ↔ ¬ Cancel (kindsOf url events))) := by
  have hk := telling_of_kindsOf h url
  have hgone : Cancel (kindsOf url events) → heard there events url = false := fun hc =>
    (heard_apply there events url).trans (foldl_hear_of_cancel hc (there url))
  refine ⟨?_, fun hc => ⟨hgone hc, createdOver_of_cancel hk hc⟩, fun hthere hdeleted => ?_⟩
  · rw [heard_coalesce there h]
    by_cases hc : Cancel (kindsOf url events)
    · rw [if_pos hc, hgone hc]
      simp [hc]
    · simp [hc]
  · rw [mem_coalesce_iff]
    constructor
    · intro hn hc
      cases hn.symm.trans ((cancel_iff _).mp hc).2
    · intro hc
      rw [heard_apply, hthere] at hdeleted
      cases hn : net (kindsOf url events) with
      | none =>
        have hnil : kindsOf url events = [] := by
          by_contra hne
          exact hc ((cancel_iff _).mpr ⟨hne, hn⟩)
        rw [hnil] at hdeleted
        cases hdeleted
      | some k =>
        have hheard := (hear_of_net hk hn true).trans hdeleted
        rw [eq_deleted_of_hear hheard]

/-- Of two files that were there, one is written to, replaced and removed, so that its events
cancel, and the other is removed and made again before it is removed for good. -/
theorem heard_coalesce_iff_replaced :
    let there : Url → Bool := fun _ => true
    let a : Url := { scheme := "file", authority := some {}, path := "/a" }
    let b : Url := { scheme := "file", authority := some {}, path := "/b" }
    let events : List FileEvent :=
      [⟨a, changed⟩, ⟨b, deleted⟩, ⟨a, created⟩, ⟨b, created⟩, ⟨a, deleted⟩, ⟨b, deleted⟩]
    (∀ e ∈ events, Telling e.kind) ∧
      heard there (coalesce events) a ≠ heard there events a ∧
      heard there (coalesce events) b = heard there events b ∧ ⟨b, deleted⟩ ∈ coalesce events := by
  intro there a b events
  have htelling : ∀ e ∈ events, Telling e.kind := by decide
  have hcancel : Cancel (kindsOf a events) := by decide
  have hleft : ¬ Cancel (kindsOf b events) := by decide
  obtain ⟨halike, -, -⟩ := heard_coalesce_iff there htelling a
  obtain ⟨halike', -, htold⟩ := heard_coalesce_iff there htelling b
  refine ⟨htelling, fun h => halike.mp h ⟨rfl, hcancel⟩, halike'.mpr (fun h => hleft h.2), ?_⟩
  exact (htold rfl (by decide)).mpr hleft

/-- A watched file that is there is replaced by one that is renamed to it, and then removed. Nothing
is left of the events that the watcher reports, and the server goes on taking it to be there. -/
theorem not_heard_alike_replaced :
    let filter? := (WatchFilter.ofGlob (Path.ofString "/w") "**/.clientrc").toOption
    let tree : FileTree := { entries := [], current := [] }
    let file := Path.ofString "/w/.clientrc"
    let notices : List Notice :=
      [⟨.renamedBoth, [Path.ofString "/w/draft", file]⟩, ⟨.removed, [file]⟩]
    let url : Url := { scheme := "file", authority := some {}, path := "/w/.clientrc" }
    let events : List FileEvent := [⟨url, created⟩, ⟨url, deleted⟩]
    (filter?.map fun f => (notices.flatMap (f.changes tree), f.batch tree notices)) =
        some (events, coalesce events) ∧
      (∀ e ∈ events, Telling e.kind) ∧
      heard (fun _ => true) events url = false ∧
      heard (fun _ => true) (coalesce events) url = true := by
  decide +kernel

end FileEvent
end LspHost
