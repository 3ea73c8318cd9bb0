import LspHost.Proofs.FileEvent.Merge

/-!
# The order of merged events

What the events of one file come to is found by going through their kinds one by one, and a merged
list has an entry for each file whose events come to something. An entry begins with the first
event of its file after the last one that cancelled a creation, and the entries stand in the order
in which they have begun.
-/

namespace LspHost.FileEvent

/-- What the events of one file come to, if they come to anything. -/
inductive ComesTo : List Int32 → Option Int32 → Prop
  | nothing : ComesTo [] none
  | begun {kinds : List Int32} (next : Int32) (h : ComesTo kinds none) :
      ComesTo (kinds ++ [next]) (some next)
  | stillCreated {kinds : List Int32} (h : ComesTo kinds (some created)) :
      ComesTo (kinds ++ [changed]) (some created)
  | cancelled {kinds : List Int32} (h : ComesTo kinds (some created)) :
      ComesTo (kinds ++ [deleted]) none
  | remade {kinds : List Int32} (h : ComesTo kinds (some deleted)) :
      ComesTo (kinds ++ [created]) (some changed)
  | overtaken {kinds : List Int32} {first next : Int32} (h : ComesTo kinds (some first))
      (hnew : first = created → next ≠ changed ∧ next ≠ deleted)
      (hgone : first = deleted → next ≠ created) : ComesTo (kinds ++ [next]) (some next)

theorem comesTo_net (kinds : List Int32) : ComesTo kinds (net kinds) := by
  induction kinds using List.reverseRecOn with
  | nil => exact .nothing
  | append_singleton kinds next ih =>
    rw [net_concat]
    cases hn : net kinds with
    | none =>
      rw [hn] at ih
      exact .begun next ih
    | some first =>
      rw [hn] at ih
      rw [settle, mergeKinds]
      split_ifs with h₁ h₂ h₃
      · obtain ⟨rfl, rfl⟩ := h₁
        exact .stillCreated ih
      · obtain ⟨rfl, rfl⟩ := h₂
        exact .cancelled ih
      · obtain ⟨rfl, rfl⟩ := h₃
        exact .remade ih
      · refine .overtaken ih (fun hf => ⟨fun hk => h₁ ⟨hf, hk⟩, fun hk => h₂ ⟨hf, hk⟩⟩) ?_
        exact fun hf hk => h₃ ⟨hf, hk⟩

theorem net_of_comesTo {kinds : List Int32} {left : Option Int32} (h : ComesTo kinds left) :
    net kinds = left := by
  induction h with
  | nothing => rfl
  | begun next h ih => rw [net_concat, ih, settle]
  | stillCreated h ih =>
    rw [net_concat, ih]
    rfl
  | cancelled h ih =>
    rw [net_concat, ih]
    rfl
  | remade h ih =>
    rw [net_concat, ih]
    rfl
  | overtaken h hnew hgone ih =>
    rw [net_concat, ih, settle, mergeKinds, if_neg fun hk => (hnew hk.1).1 hk.2,
      if_neg fun hk => (hnew hk.1).2 hk.2, if_neg fun hk => hgone hk.1 hk.2]

theorem comesTo_iff {kinds : List Int32} {left : Option Int32} :
    ComesTo kinds left ↔ net kinds = left :=
  ⟨net_of_comesTo, fun h => h ▸ comesTo_net kinds⟩

def AboutAt (url : Url) (events : List FileEvent) (i : Nat) : Prop :=
  ∃ kind, events[i]? = some ⟨url, kind⟩

/-- The event at a position deletes a file whose creation has not been told of yet. -/
def CancelsAt (url : Url) (events : List FileEvent) (i : Nat) : Prop :=
  events[i]? = some ⟨url, deleted⟩ ∧ ComesTo (kindsOf url (events.take i)) (some created)

/-- The event at a position is the first about a URL after the last that cancelled a creation. -/
structure BeginsAt (url : Url) (events : List FileEvent) (i : Nat) : Prop where
  about : AboutAt url events i
  last : ∀ j, CancelsAt url events j → j < i
  first : ∀ j, j < i → AboutAt url events j → ∃ k, j ≤ k ∧ CancelsAt url events k

section Positions

variable {url : Url} {events : List FileEvent} {e : FileEvent} {i : Nat}

theorem AboutAt.lt (h : AboutAt url events i) : i < events.length := by
  obtain ⟨kind, h⟩ := h
  exact (List.getElem?_eq_some_iff.mp h).1

theorem CancelsAt.aboutAt (h : CancelsAt url events i) : AboutAt url events i :=
  ⟨deleted, h.1⟩

theorem getElem?_concat_eq_some_iff {x : FileEvent} :
    (events ++ [e])[i]? = some x ↔ events[i]? = some x ∨ i = events.length ∧ e = x := by
  rcases Nat.lt_trichotomy i events.length with hlt | rfl | hgt
  · rw [List.getElem?_append_left hlt]
    simp [Nat.ne_of_lt hlt]
  · simp
  · have hout : (events ++ [e]).length ≤ i := by simpa using Nat.succ_le_of_lt hgt
    rw [List.getElem?_eq_none hout, List.getElem?_eq_none (Nat.le_of_lt hgt)]
    simp [Nat.ne_of_gt hgt]

theorem aboutAt_concat_iff :
    AboutAt url (events ++ [e]) i ↔ AboutAt url events i ∨ i = events.length ∧ e.url = url := by
  simp only [AboutAt, getElem?_concat_eq_some_iff, exists_or, exists_and_left]
  refine or_congr_right (and_congr_right fun _ => ?_)
  exact ⟨fun ⟨kind, he⟩ => he ▸ rfl, fun hu => ⟨e.kind, hu ▸ rfl⟩⟩

theorem cancelsAt_concat_iff :
    CancelsAt url (events ++ [e]) i ↔ CancelsAt url events i ∨
      i = events.length ∧ e = ⟨url, deleted⟩ ∧ net (kindsOf url events) = some created := by
  rw [CancelsAt, getElem?_concat_eq_some_iff, or_and_right, and_assoc]
  refine or_congr ?_ (and_congr_right fun hi => and_congr_right fun _ => ?_)
  · refine and_congr_right fun hi => ?_
    rw [List.take_append_of_le_length (Nat.le_of_lt (List.getElem?_eq_some_iff.mp hi).1)]
  · rw [hi, List.take_left, comesTo_iff]

/-- If nothing is left of a file, each of its events has been cancelled. -/
theorem cancelled_of_net (hn : net (kindsOf url events) = none) (ha : AboutAt url events i) :
    ∃ k, i ≤ k ∧ CancelsAt url events k := by
  induction events using List.reverseRecOn with
  | nil => exact absurd ha.lt (Nat.not_lt_zero i)
  | append_singleton events e ih =>
    by_cases he : e.url = url
    · -- the last event about the file has cancelled what there was
      subst he
      rw [kindsOf_append, kindsOf_cons_self, kindsOf_nil, net_concat, settle_eq_none_iff] at hn
      have hlast : e = ⟨e.url, deleted⟩ := by rw [← hn.2]
      refine ⟨events.length, ?_, cancelsAt_concat_iff.mpr (Or.inr ⟨rfl, hlast, hn.1⟩)⟩
      exact Nat.lt_succ_iff.mp (by simpa using ha.lt)
    · rw [kindsOf_append, kindsOf_cons_of_ne he, kindsOf_nil, List.append_nil] at hn
      obtain ⟨k, hk, hc⟩ := ih hn ((aboutAt_concat_iff.mp ha).resolve_right fun h => he h.2)
      exact ⟨k, hk, cancelsAt_concat_iff.mpr (Or.inl hc)⟩

theorem beginsAt_length (hn : net (kindsOf e.url events) = none) :
    BeginsAt e.url (events ++ [e]) events.length where
  about := aboutAt_concat_iff.mpr (Or.inr ⟨rfl, rfl⟩)
  last j hc := by
    rcases cancelsAt_concat_iff.mp hc with hc | ⟨-, -, hnet⟩
    · exact hc.aboutAt.lt
    · cases hn.symm.trans hnet
  first j hj ha := by
    have hbefore := (aboutAt_concat_iff.mp ha).resolve_right fun h => Nat.ne_of_lt hj h.1
    obtain ⟨k, hk, hc⟩ := cancelled_of_net hn hbefore
    exact ⟨k, hk, cancelsAt_concat_iff.mpr (Or.inl hc)⟩

theorem BeginsAt.unique {j : Nat} (hi : BeginsAt url events i) (hj : BeginsAt url events j) :
    i = j := by
  rcases Nat.lt_trichotomy i j with hlt | heq | hgt
  · obtain ⟨k, hk, hc⟩ := hj.first i hlt hi.about
    exact absurd (hi.last k hc) (Nat.not_lt.mpr hk)
  · exact heq
  · obtain ⟨k, hk, hc⟩ := hi.first j hgt hj.about
    exact absurd (hj.last k hc) (Nat.not_lt.mpr hk)

/-- As long as something is left of a file, its entry has begun where it has. -/
theorem BeginsAt.concat (hb : BeginsAt url events i)
    (hn : net (kindsOf url (events ++ [e])) ≠ none) : BeginsAt url (events ++ [e]) i where
  about := aboutAt_concat_iff.mpr (Or.inl hb.about)
  last j hc := by
    rcases cancelsAt_concat_iff.mp hc with hc | ⟨-, he, hnet⟩
    · exact hb.last j hc
    · obtain rfl : e.url = url := congrArg FileEvent.url he
      refine absurd ?_ hn
      rw [kindsOf_append, kindsOf_cons_self, kindsOf_nil, net_concat, settle_eq_none_iff]
      exact ⟨hnet, congrArg FileEvent.kind he⟩
  first j hj ha := by
    have hne : j ≠ events.length := Nat.ne_of_lt (Nat.lt_trans hj hb.about.lt)
    have hbefore := (aboutAt_concat_iff.mp ha).resolve_right fun h => hne h.1
    obtain ⟨k, hk, hc⟩ := hb.first j hj hbefore
    exact ⟨k, hk, cancelsAt_concat_iff.mpr (Or.inl hc)⟩

theorem exists_beginsAt (hn : net (kindsOf url events) ≠ none) : ∃ i, BeginsAt url events i := by
  induction events using List.reverseRecOn with
  | nil => exact absurd rfl hn
  | append_singleton events e ih =>
    by_cases hbefore : net (kindsOf url events) = none
    · by_cases he : e.url = url
      · subst he
        exact ⟨events.length, beginsAt_length hbefore⟩
      · rw [kindsOf_append, kindsOf_cons_of_ne he, kindsOf_nil, List.append_nil] at hn
        exact absurd hbefore hn
    · obtain ⟨i, hb⟩ := ih hbefore
      exact ⟨i, hb.concat hn⟩

theorem beginsAt_concat_iff (hbefore : net (kindsOf url events) ≠ none)
    (hn : net (kindsOf url (events ++ [e])) ≠ none) :
    BeginsAt url (events ++ [e]) i ↔ BeginsAt url events i := by
  refine ⟨fun hb => ?_, fun hb => hb.concat hn⟩
  obtain ⟨j, hj⟩ := exists_beginsAt hbefore
  obtain rfl := hb.unique (hj.concat hn)
  exact hj

theorem net_ne_none_of_mem (h : url ∈ (coalesce events).map FileEvent.url) :
    net (kindsOf url events) ≠ none := by
  obtain ⟨e, he, rfl⟩ := List.mem_map.mp h
  rw [(mem_coalesce_iff e).mp he]
  nofun

end Positions

/-- What is left of one file has begun before what is left of another one. -/
def Precedes (events : List FileEvent) (url url' : Url) : Prop :=
  ∀ i j, BeginsAt url events i → BeginsAt url' events j → i < j

theorem pairwise_precedes (events : List FileEvent) :
    ((coalesce events).map url).Pairwise (Precedes events) := by
  induction events using List.reverseRecOn with
  | nil => exact List.Pairwise.nil
  | append_singleton events e ih =>
    have hkept : ∀ {url}, url ∈ (coalesce events).map FileEvent.url →
        url ∈ (coalesce (events ++ [e])).map FileEvent.url →
        ∀ i, BeginsAt url (events ++ [e]) i ↔ BeginsAt url events i :=
      fun h h' i => beginsAt_concat_iff (net_ne_none_of_mem h) (net_ne_none_of_mem h')
    by_cases he : e.url ∈ (coalesce events).map FileEvent.url
    · have hsub : ((coalesce (events ++ [e])).map FileEvent.url).Sublist
          ((coalesce events).map FileEvent.url) := by
        rw [coalesce_concat]
        exact urls_merge_sublist he
      refine (ih.sublist hsub).imp_of_mem fun hu hv hbefore i j hi hj => ?_
      exact hbefore i j ((hkept (hsub.subset hu) hu i).mp hi) ((hkept (hsub.subset hv) hv j).mp hj)
    · have hsplit : (coalesce (events ++ [e])).map FileEvent.url =
          (coalesce events).map FileEvent.url ++ [e.url] := by
        rw [coalesce_concat, merge_of_notMem he, List.map_append, List.map_singleton]
      have hold : ∀ {url}, url ∈ (coalesce events).map FileEvent.url →
          url ∈ (coalesce (events ++ [e])).map FileEvent.url :=
        fun h => hsplit ▸ List.mem_append_left _ h
      rw [hsplit, List.pairwise_append]
      refine ⟨ih.imp_of_mem fun hu hv hbefore i j hi hj => ?_, List.pairwise_singleton _ _, ?_⟩
      · exact hbefore i j ((hkept hu (hold hu) i).mp hi) ((hkept hv (hold hv) j).mp hj)
      · intro url hu url' hv i j hi hj
        obtain rfl := List.mem_singleton.mp hv
        have hnone : net (kindsOf e.url events) = none := by
          by_contra hsome
          obtain ⟨kind, hk⟩ := Option.ne_none_iff_exists'.mp hsome
          exact he (List.mem_map.mpr ⟨⟨e.url, kind⟩, (mem_coalesce_iff _).mpr hk, rfl⟩)
        rw [hj.unique (beginsAt_length hnone)]
        exact ((hkept hu (hold hu) i).mp hi).about.lt

/-- Merging leaves for every file at most one entry, which says what the file's own events come to,
and none if they come to nothing. Every entry has begun with one of the events, and the entries
stand in the order in which they have begun. -/
theorem coalesce_in_order (events : List FileEvent) :
    ((coalesce events).map url).Nodup ∧
    (∀ url kind, ⟨url, kind⟩ ∈ coalesce events ↔ ComesTo (kindsOf url events) (some kind)) ∧
    (∀ e ∈ coalesce events, ∃ i, BeginsAt e.url events i) ∧
    (coalesce events).Pairwise fun e e' =>
      ∀ i j, BeginsAt e.url events i → BeginsAt e'.url events j → i < j := by
  refine ⟨distinct_coalesce events, fun url kind => ?_, fun e he => ?_, ?_⟩
  · rw [comesTo_iff]
    exact mem_coalesce_iff _
  · exact exists_beginsAt (net_ne_none_of_mem (List.mem_map_of_mem he))
  · exact List.pairwise_map.mp (pairwise_precedes events)

/-- A file that is made and removed again begins anew with the event after that. -/
example :
    let a : Url := { scheme := "file", authority := some {}, path := "/a" }
    let b : Url := { scheme := "file", authority := some {}, path := "/b" }
    coalesce [⟨a, created⟩, ⟨b, deleted⟩, ⟨a, deleted⟩, ⟨b, created⟩, ⟨a, 7⟩, ⟨a, deleted⟩] =
      [⟨b, changed⟩, ⟨a, deleted⟩] := by
  decide

end LspHost.FileEvent
