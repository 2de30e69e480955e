/-
# Nested sections and the balance of braces

Under the nested rule the tracker keeps a count of open braces that reaches back to the beginning of
the document, and stray closing braces may have bent it on the way, since the count does not go
below zero.  None of that shows.  Two trackers that agree on how many braces of the current section
are open agree from then on (`Tracker.SameBalance`), and a statement that opens a section makes any
two agree.  So the region of a statement depends on the braces since the last section was opened and
on nothing before that.  The main statement is `Tracker.regions_nested_by_balance`.
-/
import C4Lint.Proofs.Region.Neutral

namespace C4Lint.Tracker

open Token (braces scan)

variable {nesting : Nesting} {k : Tracker} {opener : Text} {ts us : List Text} {r : Region}

/-- Every run keeps the invariant that a tracker in a section has a brace of it open. -/
theorem inBlock_after (hk : InBlock nesting k) (ts : List Text) :
    InBlock nesting (after nesting k ts) := by
  induction ts generalizing k with
  | nil => exact hk
  | cons t ts ih => exact ih (inBlock_advance nesting k t)

/-! ### What the past leaves behind -/

/-- The trackers are in the same region and, in a section, count equally many open braces of it. -/
structure SameBalance (k l : Tracker) : Prop where
  /-- The regions agree. -/
  region_eq : l.region = k.region
  /-- In a section, the counts agree from where it was opened. -/
  depth_add : k.region ≠ .outside → k.depth + l.openedAt = l.depth + k.openedAt

/-- Behind a statement that opens a section, any two trackers agree on the balance. -/
lemma sameBalance_of_opened? (hr : Region.opened? opener = some r) (k l : Tracker) :
    SameBalance (advance .nested k opener) (advance .nested l opener) := by
  rw [advance_nested_of_opened? hr, advance_nested_of_opened? hr]
  refine ⟨rfl, fun _ => ?_⟩
  simp only
  omega

/-- Trackers that agree on the balance agree behind the next statement. -/
theorem SameBalance.advance {l : Tracker} (h : SameBalance k l) (t : Text) :
    SameBalance (advance .nested k t) (advance .nested l t) := by
  cases hopened : Region.opened? t with
  | some r => exact sameBalance_of_opened? hopened k l
  | none =>
    by_cases hregion : k.region = .outside
    · -- outside of the sections both stay there
      have hk := region_advance_nested_of_outside hopened hregion
      have hl := region_advance_nested_of_outside hopened (h.region_eq.trans hregion)
      exact ⟨hl.trans hk.symm, fun hne => absurd hk hne⟩
    · have hdepth := h.depth_add hregion
      rcases Nat.lt_or_ge (k.openedAt + (braces (scan t)).closing)
        (k.depth + (braces (scan t)).opening) with hlt | hle
      · obtain ⟨hr, ho, hd⟩ := advance_nested_of_lt (k := k) hopened hlt
        obtain ⟨hr', ho', hd'⟩ := advance_nested_of_lt (k := l) hopened (by omega)
        exact ⟨by rw [hr, hr', h.region_eq], fun _ => by omega⟩
      · -- the section ends for both
        have hk := region_advance_nested_of_le hopened hle
        have hl := region_advance_nested_of_le (k := l) hopened (by omega)
        exact ⟨hl.trans hk.symm, fun hne => absurd hk hne⟩

/-- Trackers that agree on the balance give all statements to come the same regions. -/
theorem SameBalance.regions_eq {l : Tracker} (h : SameBalance k l) (ts : List Text) :
    regions .nested l ts = regions .nested k ts := by
  induction ts generalizing k l with
  | nil => rfl
  | cons t ts ih => rw [regions, regions, (h.advance t).region_eq, ih (h.advance t)]

/-- From a statement on that opens a section, the regions do not depend on what was before. -/
lemma regions_opener_eq (hr : Region.opened? opener = some r) (k l : Tracker) (ts : List Text) :
    regions .nested l (opener :: ts) = regions .nested k (opener :: ts) := by
  have h := sameBalance_of_opened? hr k l
  rw [regions, regions, h.region_eq, h.regions_eq]

/-! ### The regions -/

/-- Before a section is opened there is none. -/
lemma eq_outside_of_mem_regions (hts : ∀ t ∈ ts, Region.opened? t = none)
    (hk : k.region = .outside) : ∀ r ∈ regions .nested k ts, r = .outside := by
  intro r hr
  obtain ⟨i, hi⟩ := List.mem_iff_getElem?.1 hr
  have hlt : i < ts.length := by
    have := (List.getElem?_eq_some_iff.1 hi).1
    rwa [length_regions] at this
  rw [getElem?_regions hlt, Option.some.injEq] at hi
  rw [← hi]
  exact region_after_of_outside (fun t ht => hts t (List.mem_of_mem_take ht)) hk

/-- Whether a section lasts is decided by the balance of braces since it was opened. -/
lemma region_after_opener (hr : Region.opened? opener = some r)
    (hts : ∀ t ∈ ts, Region.opened? t = none) :
    (after .nested (advance .nested k opener) ts).region
      = if ∀ m ≤ ts.length, (braces ((ts.take m).flatMap scan)).closing
          ≤ (braces ((ts.take m).flatMap scan)).opening then r else .outside := by
  split_ifs with h
  · refine region_after_opener_of_forall hr hts fun us hus => ?_
    rw [List.prefix_iff_eq_take.1 hus]
    exact h us.length hus.length_le
  · simp only [not_forall, Nat.not_le] at h
    obtain ⟨m, -, hlt⟩ := h
    exact region_after_opener_of_prefix hr hts (List.take_prefix m ts) hlt

/-- Whatever statements came before, a section that is opened then lasts for as long as nowhere
since more braces have been closed than opened, and before the first section there is none.  From
the statement that opens a section on, all regions are the same whatever came before.  In a section,
the count of open braces is above what it was when the section was opened. -/
theorem regions_nested_by_balance (us : List Text) :
    (∀ (opener : Text) (r : Region) (ts : List Text), Region.opened? opener = some r →
      (∀ t ∈ ts, Region.opened? t = none) → ∀ j ≤ ts.length,
      (regions .nested (after .nested {} us) (opener :: ts))[j]?
        = some (if ∀ m ≤ j, (braces ((ts.take m).flatMap scan)).closing
            ≤ (braces ((ts.take m).flatMap scan)).opening then r else .outside)) ∧
    ((∀ t ∈ us, Region.opened? t = none) → ∀ r ∈ regions .nested {} us, r = .outside) ∧
    (∀ (vs : List Text) (opener : Text) (r : Region) (ts : List Text),
      Region.opened? opener = some r →
      regions .nested (after .nested {} us) (opener :: ts)
        = regions .nested (after .nested {} vs) (opener :: ts)) ∧
    ((after .nested {} us).region ≠ .outside →
      (after .nested {} us).openedAt < (after .nested {} us).depth) := by
  refine ⟨fun opener r ts hr hts j hj => ?_, fun hus => eq_outside_of_mem_regions hus rfl,
    fun vs opener r ts hr => regions_opener_eq hr _ _ ts,
    inBlock_after (inBlock_initial .nested) us rfl⟩
  have hlt : j < (opener :: ts).length := Nat.lt_succ_of_le hj
  have htake : ∀ t ∈ ts.take j, Region.opened? t = none :=
    fun t ht => hts t (List.mem_of_mem_take ht)
  have hcut : ∀ m ≤ j, (ts.take j).take m = ts.take m := by
    intro m hm
    rw [List.take_take, Nat.min_eq_left hm]
  rw [getElem?_regions hlt, List.take_succ_cons, after_cons, region_after_opener hr htake,
    List.length_take_of_le hj]
  congr 1
  refine if_congr (forall₂_congr fun m hm => ?_) rfl rfl
  rw [hcut m hm]

/-- A stray closing brace and a model that is not closed come before the views; in the views a block
is opened, closed together with the views, and one more is opened. -/
theorem regions_nested_by_balance_unclosed :
    let us := ["\x7d".toList, "model \x7b".toList, "group \x7b".toList]
    let ts := ["a \x7b".toList, "\x7d \x7d".toList, "b \x7b".toList]
    Region.opened? "views \x7b".toList = some .views ∧ (∀ t ∈ ts, Region.opened? t = none) ∧
    (regions .nested (after .nested {} us) ("views \x7b".toList :: ts))[1]? = some .views ∧
    (regions .nested (after .nested {} us) ("views \x7b".toList :: ts))[3]? = some .outside ∧
    (∀ r ∈ regions .nested {} ts, r = .outside) ∧
    regions .nested (after .nested {} us) ("views \x7b".toList :: us)
      = regions .nested (after .nested {} ts) ("views \x7b".toList :: us) ∧
    (after .nested {} us).region ≠ .outside ∧
    (after .nested {} us).openedAt < (after .nested {} us).depth := by
  intro us ts
  have hopened : Region.opened? "views \x7b".toList = some .views := by decide
  have hnone : ∀ t ∈ ts, Region.opened? t = none := by decide
  have hregion : (after .nested {} us).region ≠ .outside := by decide +kernel
  obtain ⟨hbalance, -, hpast, hdepth⟩ := regions_nested_by_balance us
  exact ⟨hopened, hnone, (hbalance _ _ _ hopened hnone 1 (by decide)).trans (by decide +kernel),
    (hbalance _ _ _ hopened hnone 3 (by decide)).trans (by decide +kernel),
    (regions_nested_by_balance ts).2.1 hnone, hpast ts _ _ us hopened, hregion, hdepth hregion⟩

end C4Lint.Tracker
