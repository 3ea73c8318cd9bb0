import LspHost.Proofs.FileEvent.Merge
import LspHost.Watch.Forwarder

/-!
# Merging what has been merged

A list in which each URL appears once is merged already, down to the order of its entries. So
merging can be taken up again from its own result when further events come, and whoever gathers
batches may begin with a merged one.
-/

namespace LspHost

namespace FileEvent

theorem coalesce_append (xs ys : List FileEvent) :
    coalesce (xs ++ ys) = ys.foldl merge (coalesce xs) := by
  simp [coalesce]

theorem coalesce_of_distinct {events : List FileEvent} (h : Distinct events) :
    coalesce events = events := by
  induction events using List.reverseRecOn with
  | nil => rfl
  | append_singleton events e ih =>
    rw [Distinct, List.map_append, List.nodup_append] at h
    obtain ⟨hevents, -, hapart⟩ := h
    have hnew : e.url ∉ events.map url := fun hmem => hapart _ hmem _ List.mem_cons_self rfl
    rw [coalesce_concat, ih hevents, merge_of_notMem hnew]

end FileEvent

namespace Forwarder

theorem gatherAll_of_inHand (queue : List (List FileEvent)) (events : List FileEvent) :
    gatherAll { queue, inHand := some events } =
      { queue := [], inHand := some (events ++ queue.flatten) } := by
  unfold gatherAll
  induction queue generalizing events with
  | nil => simp
  | cons batch rest ih =>
    rw [List.foldl_cons, gather, ih, List.flatten_cons, List.append_assoc]

end Forwarder

namespace FileEvent

/-- Further events are merged with merged ones as with those that they were made from. So a second
merge changes nothing, and neither does merging the batch that a forwarder has in hand before it
gathers the others. -/
theorem coalesce_resumed (xs ys : List FileEvent) :
    coalesce (coalesce xs ++ ys) = coalesce (xs ++ ys) ∧
    coalesce (coalesce xs) = coalesce xs ∧
    ∀ queue, (Forwarder.gatherAll { queue, inHand := some (coalesce xs) }).release =
      (Forwarder.gatherAll { queue, inHand := some xs }).release := by
  have hagain : coalesce (coalesce xs) = coalesce xs :=
    coalesce_of_distinct (distinct_coalesce xs)
  have hresumed : ∀ more, coalesce (coalesce xs ++ more) = coalesce (xs ++ more) := by
    intro more
    rw [coalesce_append, coalesce_append, hagain]
  refine ⟨hresumed ys, hagain, fun queue => ?_⟩
  rw [Forwarder.gatherAll_of_inHand, Forwarder.gatherAll_of_inHand]
  simp only [Forwarder.release, Option.getD_some, hresumed]

/-- Events that come after others cannot be merged before them. -/
example :
    let a : Url := { scheme := "file", authority := some {}, path := "/a" }
    coalesce ([⟨a, changed⟩] ++ coalesce [⟨a, created⟩, ⟨a, deleted⟩]) = [⟨a, changed⟩] ∧
      coalesce ([⟨a, changed⟩] ++ [⟨a, created⟩, ⟨a, deleted⟩]) = [] := by
  decide

end FileEvent
end LspHost
