import LspHost.Url.Basic

/-!
# File events

An event says that the file of a URL was created, changed or deleted, or carries a type that means
nothing here. `coalesce` merges a list of events so that each URL appears once, in the place of the
event that began it, and a file that was created and deleted again does not appear at all.
-/

namespace LspHost

structure FileEvent where
  url : Url
  kind : Int32
deriving Repr, DecidableEq

namespace FileEvent

def created : Int32 := 1
def changed : Int32 := 2
def deleted : Int32 := 3

/-- What is left of an event of kind `first` when one of kind `next` follows it. -/
def mergeKinds (first next : Int32) : Option Int32 :=
  if first = created ∧ next = changed then some created
  else if first = created ∧ next = deleted then none
  else if first = deleted ∧ next = created then some changed
  else some next

/-- Adds an event to a list in which each URL appears at most once. -/
def merge (merged : List FileEvent) (e : FileEvent) : List FileEvent :=
  match merged with
  | [] => [e]
  | m :: rest =>
    if m.url = e.url then
      match mergeKinds m.kind e.kind with
      | some kind => { m with kind } :: rest
      | none => rest
    else m :: merge rest e

def coalesce (events : List FileEvent) : List FileEvent :=
  events.foldl merge []

end FileEvent
end LspHost
