/-
# How similar two texts are

The measure looks for characters that two texts share at about the same place.  It averages the part
of the first text that is shared, the part of the second that is, and the part of what is shared that
stands in the same order in both.  It is 1 for equal texts and 0 for texts without anything in common.

`Text.mostSimilar?` uses it to guess which of some names was meant by one that is none of them.
-/
import C4Lint.Text.Basic

namespace C4Lint.Text

/-- The place in `b` that a character `c` at place `i` of another text is matched with: the first one
that holds `c`, is at most `reach` away and is not `taken`. -/
def matchPlace? (b : Text) (reach : Nat) (taken : List Nat) (i : Nat) (c : Char) : Option Nat :=
  (List.range b.length).find? fun j =>
    i ≤ j + reach && j ≤ i + reach && b[j]? == some c && !taken.contains j

/-- The characters of a text, of which the first stands at place `i`, that can be matched with
characters of `b`, each with its place in `b`. -/
def matched (b : Text) (reach : Nat) (taken : List Nat) (i : Nat) : Text → List (Char × Nat)
  | [] => []
  | c :: a =>
    match matchPlace? b reach taken i c with
    | none => matched b reach taken (i + 1) a
    | some j => (c, j) :: matched b reach (j :: taken) (i + 1) a

/-- How similar two texts are, between 0 and 1. -/
def similarity (a b : Text) : Float :=
  if a.isEmpty && b.isEmpty then 1
  else
    let shared := matched b (max a.length b.length / 2 - 1) [] 0 a
    if shared.isEmpty then 0
    else
      let places := shared.map Prod.snd
      let inOrderOfB := (b.zipIdx.filter fun p => places.contains p.2).map Prod.fst
      let displaced := ((shared.map Prod.fst).zip inOrderOfB).countP fun p => p.1 != p.2
      let count := shared.length.toFloat
      (count / a.length.toFloat + count / b.length.toFloat
        + (shared.length - displaced / 2).toFloat / count) / 3

/-- How similar a name has to be at least before it is taken for what was meant. -/
def similarityBound : Float := 0.7

/-- Of the things whose names are similar to a text the one with the most similar name, and of several
such the last. -/
def mostSimilar? {α : Type} (name : α → Text) (t : Text) (xs : List α) : Option α :=
  (xs.filter fun x => similarity t (name x) > similarityBound).foldl
    (fun best x =>
      match best with
      | none => some x
      | some y => if similarity t (name x) < similarity t (name y) then some y else some x)
    none

end C4Lint.Text
