/-
# Names in relationships and the elements they refer to

A name in a relationship should be declared, and declared before.  The first check is made at the
relationship, against what is known by then (`undefinedEnds`).  The second is made at the end of the
document (`crossReferences`): each name that is still not declared is reported once, where a
relationship first mentions it, and so is each element that no relationship mentions.
-/
import C4Lint.Issue

namespace C4Lint

/-- A name at one end of a relationship, with the line of the relationship. -/
structure Mention where
  /-- The name. -/
  name : Text
  /-- The line on which the relationship is stated. -/
  line : Nat
deriving DecidableEq, Repr

namespace Mention

/-- The first mention of each name that is not among the `seen` ones. -/
def firsts (seen : Std.TreeSet Text) : List Mention → List Mention
  | [] => []
  | m :: ms =>
    if seen.contains m.name then firsts seen ms else m :: firsts (seen.insert m.name) ms

end Mention

namespace Architecture

/-- The ends of a relationship whose names are not known yet. -/
def undefinedEnds (a : Architecture) (r : Relationship) : List Finding :=
  (Endpoint.all.filter fun p => !a.resolves (r.nameAt p)).map fun p =>
    .undefinedBeforeUse p (r.nameAt p)

/-- All names in relationships, in the order in which they are mentioned. -/
def mentions (a : Architecture) : List Mention :=
  a.relationships.toList.flatMap fun r => Endpoint.all.map fun p => ⟨r.nameAt p, r.line⟩

/-- The first mentions of names that are declared nowhere. -/
def neverDefined (a : Architecture) : List Mention :=
  Mention.firsts ∅ (a.mentions.filter fun m => !a.resolves m.name)

/-- The elements that no relationship mentions. -/
def unconnected (a : Architecture) : List Element :=
  a.elements.toList.filter fun e => !a.relationships.any fun r => r.touches e.name

/-- The issues that only the whole architecture shows. -/
def crossReferences (a : Architecture) : List Issue :=
  (a.neverDefined.map fun m => (Finding.neverDefined m.name).issue m.line none)
    ++ a.unconnected.map fun e => (Finding.unconnected e.kind e.name).issue e.line none

end Architecture

end C4Lint
