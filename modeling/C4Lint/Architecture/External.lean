/-
# External systems

A reference to a system outside the description need not be declared.  The name shows it: it holds
the word "external" in any case.
-/
import C4Lint.Text.Lowercase

namespace C4Lint

/-- Whether a name refers to a system outside the description. -/
def isExternal (name : Text) : Bool :=
  "_external".toList.isSuffixOf name || Text.occursIn "external".toList (Text.lowercase name)

end C4Lint
