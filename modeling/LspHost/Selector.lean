import LspHost.ClientError
import LspHost.Glob.Parser
import LspHost.Url.Basic

/-!
# Document selectors

A filter asks for a scheme, a language or a URL path that matches a glob, and does not care about
what it does not name. A selector selects the documents that any of its filters matches.
-/

namespace LspHost

def compileGlob (pattern : String) : Except ClientError Glob :=
  (Glob.ofString pattern).mapError fun e =>
    .invalidGlob pattern ("error parsing glob '" ++ pattern ++ "': " ++ e.reason)

structure DocumentFilter where
  scheme : Option String := none
  language : Option String := none
  pattern : Option Glob := none
deriving Repr, DecidableEq

def DocumentFilter.isMatch (f : DocumentFilter) (url : Url) (language : String) : Bool :=
  f.scheme.all (· = url.scheme) && f.language.all (· = language) &&
    f.pattern.all fun glob => glob.isMatch (Utf8.encode url.path)

structure DocumentSelector where
  filters : List DocumentFilter := []
deriving Repr, DecidableEq

def DocumentSelector.selects (s : DocumentSelector) (url : Url) (language : String) : Bool :=
  s.filters.any fun f => f.isMatch url language

end LspHost
