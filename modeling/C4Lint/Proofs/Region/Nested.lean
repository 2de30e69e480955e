/-
# Where a nested section ends

A tracker goes over the statements of a document one by one.  `Tracker.after` is the tracker behind
some statements, and by `Tracker.getElem?_regions` it says which region each of them belongs to.

Nested sections are followed by counting: a section ends with the first statement that leaves no
more braces open than there were before the section.  `Tracker.region_after_of_forall` and
`Tracker.region_after_of_prefix` say so of the statements behind the opening one, whatever the count
was before.
-/
import C4Lint.Entry
import C4Lint.Proofs.Token.Block

namespace C4Lint

namespace Region

/-- The word before the brace that opens the section, and nothing outside of the sections. -/
def keyword : Region → Text
  | outside => []
  | model => "model".toList
  | views => "views".toList

lemma opened?_eq_some_iff {t : Text} {r : Region} :
    opened? t = some r ↔ r ≠ .outside ∧ t = r.keyword ++ " \x7b".toList := by
  rw [opened?]
  split_ifs with hmodel hviews
  · subst hmodel
    cases r <;> decide
  · subst hviews
    cases r <;> decide
  · refine iff_of_false (by simp) ?_
    rintro ⟨hr, rfl⟩
    cases r with
    | outside => exact hr rfl
    | model => exact hmodel (by decide)
    | views => exact hviews (by decide)

end Region

namespace Tracker

variable {nesting : Nesting} {k : Tracker} {t : Text} {ts us : List Text} {r : Region}

/-! ### The tracker behind some statements -/

/-- The tracker behind the statements. -/
def after (nesting : Nesting) (k : Tracker) (ts : List Text) : Tracker :=
  ts.foldl (advance nesting) k

@[simp] lemma after_nil : after nesting k [] = k := rfl

@[simp] lemma after_cons : after nesting k (t :: ts) = after nesting (advance nesting k t) ts := rfl

/-- A statement belongs to the region of the tracker behind it. -/
theorem getElem?_regions {i : Nat} (hi : i < ts.length) :
    (regions nesting k ts)[i]? = some (after nesting k (ts.take (i + 1))).region := by
  induction ts generalizing k i with
  | nil => exact absurd hi (Nat.not_lt_zero i)
  | cons t ts ih =>
    cases i with
    | zero => simp [regions]
    | succ i =>
      rw [List.length_cons] at hi
      rw [regions, List.getElem?_cons_succ, ih (by omega), List.take_succ_cons, after_cons]

/-! ### Counting -/

lemma advance_nested_of_opened? (h : Region.opened? t = some r) :
    advance .nested k t = ⟨r, k.depth + 1, k.depth⟩ := by
  rw [advance, advanceNested, h]

/-- A statement that opens no section keeps the region as long as more braces are open than before
the section. -/
lemma advance_nested_of_lt (h : Region.opened? t = none)
    (hlt : k.openedAt + (Token.braces (Token.scan t)).closing
      < k.depth + (Token.braces (Token.scan t)).opening) :
    (advance .nested k t).region = k.region ∧ (advance .nested k t).openedAt = k.openedAt ∧
      (advance .nested k t).depth + (Token.braces (Token.scan t)).closing
        = k.depth + (Token.braces (Token.scan t)).opening := by
  rw [advance, advanceNested, h]
  refine ⟨if_neg ?_, rfl, ?_⟩
  · omega
  · simp only
    omega

/-- It leaves every section if no more braces are open then. -/
lemma region_advance_nested_of_le (h : Region.opened? t = none)
    (hle : k.depth + (Token.braces (Token.scan t)).opening
      ≤ k.openedAt + (Token.braces (Token.scan t)).closing) :
    (advance .nested k t).region = .outside := by
  rw [advance, advanceNested, h]
  exact if_pos (by omega)

lemma region_advance_nested_of_outside (h : Region.opened? t = none) (hk : k.region = .outside) :
    (advance .nested k t).region = .outside := by
  rw [advance, advanceNested, h]
  simp [hk]

/-- Outside of the sections only a statement that opens one leads into it. -/
lemma region_after_of_outside (hts : ∀ t ∈ ts, Region.opened? t = none)
    (hk : k.region = .outside) : (after .nested k ts).region = .outside := by
  induction ts generalizing k with
  | nil => exact hk
  | cons t ts ih =>
    exact ih (fun u hu => hts u (List.mem_cons_of_mem _ hu))
      (region_advance_nested_of_outside (hts t List.mem_cons_self) hk)

/-- A section goes on as long as the statements leave one of its braces open. -/
theorem region_after_of_forall (hts : ∀ t ∈ ts, Region.opened? t = none)
    (h : ∀ us, us <+: ts → k.openedAt + (Token.braces (us.flatMap Token.scan)).closing
      < k.depth + (Token.braces (us.flatMap Token.scan)).opening) :
    (after .nested k ts).region = k.region := by
  induction ts generalizing k with
  | nil => rfl
  | cons t ts ih =>
    have hone := h [t] (by simp)
    rw [List.flatMap_singleton] at hone
    obtain ⟨hregion, hopened, hdepth⟩ := advance_nested_of_lt (hts t List.mem_cons_self) hone
    rw [after_cons, ih (fun u hu => hts u (List.mem_cons_of_mem _ hu)) ?_, hregion]
    intro us hus
    have hcons := h (t :: us) (List.cons_prefix_cons.2 ⟨rfl, hus⟩)
    simp only [List.flatMap_cons, Token.opening_braces_append, Token.closing_braces_append] at hcons
    omega

/-- A section has ended once some of the statements have left none of its braces open. -/
theorem region_after_of_prefix (hts : ∀ t ∈ ts, Region.opened? t = none) (hus : us <+: ts)
    (hk : k.openedAt < k.depth)
    (h : k.depth + (Token.braces (us.flatMap Token.scan)).opening
      ≤ k.openedAt + (Token.braces (us.flatMap Token.scan)).closing) :
    (after .nested k ts).region = .outside := by
  induction ts generalizing k us with
  | nil =>
    rw [List.prefix_nil.1 hus] at h
    simp only [List.flatMap_nil, Token.opening_braces_nil, Token.closing_braces_nil] at h
    omega
  | cons t ts ih =>
    have hrest : ∀ u ∈ ts, Region.opened? u = none := fun u hu => hts u (List.mem_cons_of_mem _ hu)
    have hnone : Region.opened? t = none := hts t List.mem_cons_self
    rcases List.prefix_cons_iff.1 hus with rfl | ⟨vs, rfl, hvs⟩
    · simp only [List.flatMap_nil, Token.opening_braces_nil, Token.closing_braces_nil] at h
      omega
    rw [after_cons]
    simp only [List.flatMap_cons, Token.opening_braces_append, Token.closing_braces_append] at h
    rcases Nat.lt_or_ge (k.openedAt + (Token.braces (Token.scan t)).closing)
      (k.depth + (Token.braces (Token.scan t)).opening) with hlt | hle
    · obtain ⟨-, hopened, hdepth⟩ := advance_nested_of_lt hnone hlt
      exact ih hrest hvs (by omega) (by omega)
    · exact region_after_of_outside hrest (region_advance_nested_of_le hnone hle)

/-! ### Behind a statement that opens a section

Such a statement starts the count anew, so that what was counted before it does not matter. -/

variable {opener : Text}

/-- The section goes on while the statements have nowhere closed more braces than they have
opened. -/
theorem region_after_opener_of_forall (hr : Region.opened? opener = some r)
    (hts : ∀ t ∈ ts, Region.opened? t = none)
    (h : ∀ us, us <+: ts → (Token.braces (us.flatMap Token.scan)).closing
      ≤ (Token.braces (us.flatMap Token.scan)).opening) :
    (after .nested (advance .nested k opener) ts).region = r := by
  rw [advance_nested_of_opened? hr]
  refine region_after_of_forall hts fun us hus => ?_
  have := h us hus
  simp only
  omega

/-- The section has ended once they have. -/
theorem region_after_opener_of_prefix (hr : Region.opened? opener = some r)
    (hts : ∀ t ∈ ts, Region.opened? t = none) (hus : us <+: ts)
    (h : (Token.braces (us.flatMap Token.scan)).opening
      < (Token.braces (us.flatMap Token.scan)).closing) :
    (after .nested (advance .nested k opener) ts).region = .outside := by
  rw [advance_nested_of_opened? hr]
  refine region_after_of_prefix hts hus (Nat.lt_succ_self _) ?_
  simp only
  omega

end Tracker

end C4Lint
