import LspHost.Path.Basic

/-!
# Lexical normal form of a path

`normalize` reads the components of a path from left to right and keeps those that still count: a
`..` takes back the name before it, vanishes at the root, and stays where nothing is left to take
back. File system and symbolic links play no part.
-/

namespace LspHost.Path

/-- One more component on top of those kept so far, last one first. -/
def foldComponent (kept : List Component) : Component → List Component
  | .current => kept
  | .parent =>
    match kept with
    | .name _ :: rest => rest
    | .root :: rest => .root :: rest
    | kept => .parent :: kept
  | c => c :: kept

/-- The shortest path with these components. -/
def ofComponents : List Component → Path
  | .root :: rest => ⟨slash :: joinSlash (rest.map Component.bytes)⟩
  | cs => ⟨joinSlash (cs.map Component.bytes)⟩

def normalComponents (p : Path) : List Component :=
  (p.components.foldl foldComponent []).reverse

def normalize (p : Path) : Path :=
  ofComponents p.normalComponents

end LspHost.Path
