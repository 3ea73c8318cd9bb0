import LspHost.Text.CodeSet

/-!
# Blanks

The characters that set words apart.
-/

namespace LspHost

def blanks : CodeSet := .ofRows [
  "9-D 20 85 A0 1680 2000-200A 2028-2029 202F 205F 3000"]

def trimBlanks (cs : List Char) : List Char :=
  ((cs.dropWhile blanks.contains).reverse.dropWhile blanks.contains).reverse

end LspHost
