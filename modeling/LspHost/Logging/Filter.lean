import LspHost.Logging.Directive
import LspHost.Logging.Record

/-!
# Log filters

A filter is a list of directives. Of those that are about a record the most specific one decides
whether it is shown: the one with the longest target, then one that asks for a field. Of two that
are equally specific the later decides.
-/

namespace LspHost

structure LogFilter where
  directives : List Directive
deriving Repr, DecidableEq

namespace LogFilter

/-- Without any directive only errors are shown. -/
def ofDirectives (directives : List Directive) : LogFilter :=
  ⟨if directives = [] then [{ limit := ⟨some .error⟩ }] else directives⟩

/-- The directives between the commas of a text. -/
def ofText (text : String) : Except Directive.Fault LogFilter :=
  (((splitChars ',' text.toList).filter (· ≠ [])).mapM Directive.ofChars).map ofDirectives

def ofLevel (level : Level) : LogFilter :=
  ⟨[{ target := some LogRecord.origin, limit := ⟨some level⟩ }]⟩

/-- Whether a directive is about a record: the target begins the record's origin, and the record has
the field. -/
def concerns (r : LogRecord) (d : Directive) : Bool :=
  d.isStatic &&
    d.target.all (fun t => t.toList.isPrefixOf LogRecord.origin.toList) &&
    d.field.all fun f => r.hasField f.name

/-- How specific a directive is, to be compared from the left. The greater name goes first. -/
def specificity (d : Directive) : Nat × Nat × String :=
  ((d.target.map fun t => t.utf8ByteSize + 1).getD 0, d.field.toList.length,
    (d.field.map FieldFilter.name).getD "")

def atLeastAsSpecific (a b : Directive) : Bool :=
  let (t, f, name) := specificity a
  let (u, g, other) := specificity b
  u < t || (t = u && (g < f || (f = g && other ≤ name)))

def moreSpecific (chosen : Option Directive) (d : Directive) : Option Directive :=
  match chosen with
  | some best => some (if atLeastAsSpecific d best then d else best)
  | none => some d

/-- The directive that decides about a record. -/
def deciding? (f : LogFilter) (r : LogRecord) : Option Directive :=
  (f.directives.filter (concerns r)).foldl moreSpecific none

def shows (f : LogFilter) (r : LogRecord) : Bool :=
  (f.deciding? r).any (·.limit.shows r.level)

end LogFilter
end LspHost
