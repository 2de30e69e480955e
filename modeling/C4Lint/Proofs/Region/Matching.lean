/-
# The brace that closes a nested section

A nested section is meant to end with the statement that holds the matching brace of the one that
opened it.  Counting the braces of whole statements comes close to that.  It never ends a section
early, and it ends it where it should, unless a statement opens more blocks behind the matching
brace than it closes there (`Tracker.Reopens`): then as many braces are open as before, and the
section goes on.  The main statement is `Tracker.regions_nested_of_opened?`.
-/
import C4Lint.Proofs.Region.Nested

namespace C4Lint.Tracker

open Token (ClosesBlock WellNested braces scan)

/-- Behind the statements `us`, which leave the block open, the statement `t` closes it and then
opens more blocks than it closes. -/
def Reopens (us : List Text) (t : Text) : Prop :=
  ¬ClosesBlock (us.flatMap scan) ∧
    ∃ inner c rest, (us ++ [t]).flatMap scan = inner ++ c :: rest ∧ c.lexeme = .closeBrace ∧
      WellNested inner ∧ (braces rest).closing < (braces rest).opening

variable {k : Tracker} {t opener : Text} {ts us vs : List Text} {r : Region}

/-- Which statement closes a block and opens another can be read off the number of braces. -/
lemma reopens_iff :
    Reopens us t ↔ ¬ClosesBlock (us.flatMap scan) ∧ ClosesBlock ((us ++ [t]).flatMap scan) ∧
      (braces ((us ++ [t]).flatMap scan)).closing ≤ (braces ((us ++ [t]).flatMap scan)).opening := by
  -- up to the matching brace, one more brace closes than opens
  have hcount : ∀ {inner c} rest, c.lexeme = .closeBrace → WellNested inner →
      (braces (inner ++ c :: rest)).closing + (braces rest).opening
        = (braces (inner ++ c :: rest)).opening + (braces rest).closing + 1 := by
    intro inner c rest hc hinner
    have heq := hinner.opening_eq_closing
    obtain ⟨hzero, hone⟩ := Token.braces_cons_of_closeBrace hc rest
    simp only [Token.opening_braces_append, Token.closing_braces_append]
    omega
  constructor
  · rintro ⟨hopen, inner, c, rest, hsplit, hc, hinner, hlt⟩
    have := hcount rest hc hinner
    rw [hsplit]
    exact ⟨hopen, ⟨inner, c, rest, rfl, hc, hinner⟩, by omega⟩
  · rintro ⟨hopen, ⟨inner, c, rest, hsplit, hc, hinner⟩, hle⟩
    have := hcount rest hc hinner
    rw [hsplit] at hle
    exact ⟨hopen, inner, c, rest, hsplit, hc, hinner, by omega⟩

instance (us : List Text) (t : Text) : Decidable (Reopens us t) :=
  decidable_of_iff _ reopens_iff.symm

/-- Statements that leave the block open close no more braces than they open. -/
lemma closing_le_of_not_closesBlock (h : ¬ClosesBlock (ts.flatMap scan)) (hus : us <+: ts) :
    (braces (us.flatMap scan)).closing ≤ (braces (us.flatMap scan)).opening := by
  by_contra hlt
  exact h (Token.closesBlock_iff.2 ⟨us.flatMap scan, hus.flatMap scan, by omega⟩)

/-- Statements that close the block come to a first one that does. -/
lemma exists_first_closesBlock (h : ClosesBlock (ts.flatMap scan)) :
    ∃ us t vs, ts = us ++ t :: vs ∧ ¬ClosesBlock (us.flatMap scan) ∧
      ClosesBlock ((us ++ [t]).flatMap scan) := by
  induction ts using List.reverseRecOn with
  | nil => exact absurd h (by decide)
  | append_singleton ts t ih =>
    by_cases hts : ClosesBlock (ts.flatMap scan)
    · obtain ⟨us, u, vs, rfl, hus, hu⟩ := ih hts
      exact ⟨us, u, vs ++ [t], by simp, hus, hu⟩
    · exact ⟨ts, t, [], rfl, hts, h⟩

/-- A section goes on while its closing brace has not come. -/
lemma region_after_of_not_closesBlock (hr : Region.opened? opener = some r)
    (hts : ∀ t ∈ ts, Region.opened? t = none) (h : ¬ClosesBlock (ts.flatMap scan)) :
    (after .nested (advance .nested k opener) ts).region = r :=
  region_after_opener_of_forall hr hts fun _ hus => closing_le_of_not_closesBlock h hus

/-- A section that is closed in favour of another block goes on as well. -/
lemma region_after_of_reopens (hr : Region.opened? opener = some r)
    (hus : ∀ u ∈ us ++ [t], Region.opened? u = none) (h : Reopens us t) :
    (after .nested (advance .nested k opener) (us ++ [t])).region = r := by
  obtain ⟨hopen, -, hle⟩ := reopens_iff.1 h
  refine region_after_opener_of_forall hr hus fun vs hvs => ?_
  rcases List.prefix_concat_iff.1 hvs with rfl | hvs
  · exact hle
  · exact closing_le_of_not_closesBlock hopen hvs

/-- A section is over once a statement has closed it without opening another block. -/
lemma region_after_of_closesBlock (hr : Region.opened? opener = some r)
    (hts : ∀ u ∈ us ++ t :: vs, Region.opened? u = none) (hopen : ¬ClosesBlock (us.flatMap scan))
    (h : ClosesBlock ((us ++ [t]).flatMap scan)) (hre : ¬Reopens us t) :
    (after .nested (advance .nested k opener) (us ++ t :: vs)).region = .outside := by
  have hlt : ¬(braces ((us ++ [t]).flatMap scan)).closing
      ≤ (braces ((us ++ [t]).flatMap scan)).opening :=
    fun hle => hre (reopens_iff.2 ⟨hopen, h, hle⟩)
  have hfirst : us ++ [t] <+: us ++ t :: vs := ⟨vs, by simp⟩
  exact region_after_opener_of_prefix hr hts hfirst (Nat.not_le.1 hlt)

/-- Behind a statement that opens a section and as long as no other one does, a statement belongs to
the section exactly if the brace that closes it has not come by then, provided that no statement so
far has closed it and opened another block.  Without the proviso the section lasts at least until its
closing brace, and a statement that closes it and opens another block still belongs to it. -/
theorem regions_nested_of_opened? (k : Tracker) (hr : Region.opened? opener = some r)
    (hts : ∀ t ∈ ts, Region.opened? t = none) :
    (∀ i < ts.length, (∀ j ≤ i, ∀ t ∈ ts[j]?, ¬Reopens (ts.take j) t) →
      (regions .nested (advance .nested k opener) ts)[i]?
        = some (if ClosesBlock ((ts.take (i + 1)).flatMap scan) then .outside else r)) ∧
    (∀ i < ts.length, ¬ClosesBlock ((ts.take (i + 1)).flatMap scan) →
      (regions .nested (advance .nested k opener) ts)[i]? = some r) ∧
    ∀ i, ∀ t ∈ ts[i]?, Reopens (ts.take i) t →
      (regions .nested (advance .nested k opener) ts)[i]? = some r := by
  have htake : ∀ i, ∀ t ∈ ts.take (i + 1), Region.opened? t = none :=
    fun i t ht => hts t (List.mem_of_mem_take ht)
  refine ⟨fun i hi hre => ?_, fun i hi h => ?_, fun i t ht h => ?_⟩
  · rw [getElem?_regions hi]
    split_ifs with h
    · obtain ⟨us, t, vs, hsplit, hopen, hclose⟩ := exists_first_closesBlock h
      have hlen : us.length ≤ i := by
        have := congrArg List.length hsplit
        simp only [List.length_take, List.length_append, List.length_cons] at this
        omega
      have hget : ts[us.length]? = some t := by
        rw [← List.getElem?_take_of_lt (Nat.lt_succ_of_le hlen), hsplit]
        simp
      have hus : ts.take us.length = us := by
        have := congrArg (List.take us.length) hsplit
        simpa [List.take_take, Nat.min_eq_left (Nat.le_succ_of_le hlen)] using this
      have hnone := htake i
      rw [hsplit] at hnone ⊢
      rw [region_after_of_closesBlock hr hnone hopen hclose (hus ▸ hre us.length hlen t hget)]
    · rw [region_after_of_not_closesBlock hr (htake i) h]
  · rw [getElem?_regions hi, region_after_of_not_closesBlock hr (htake i) h]
  · have hlast : ts.take (i + 1) = ts.take i ++ [t] := by
      rw [List.take_add_one, Option.mem_def.1 ht, Option.toList_some]
    have hnone := htake i
    rw [hlast] at hnone
    rw [getElem?_regions (List.getElem?_eq_some_iff.1 ht).1, hlast,
      region_after_of_reopens hr hnone h]

/-- A block in the model, a brace in a string, and two closing braces in one statement: the second
of them closes the model. -/
theorem regions_nested_two_closing_braces :
    let ts := ["a = person \"\x7d\" \x7b".toList, "\x7d \x7d".toList]
    Region.opened? "model \x7b".toList = some .model ∧ (∀ t ∈ ts, Region.opened? t = none) ∧
    (regions .nested (advance .nested {} "model \x7b".toList) ts)[0]? = some .model ∧
    (regions .nested (advance .nested {} "model \x7b".toList) ts)[1]? = some .outside := by
  intro ts
  have hopened : Region.opened? "model \x7b".toList = some .model := by decide
  have hnone : ∀ t ∈ ts, Region.opened? t = none := by decide
  have h := regions_nested_of_opened? {} hopened hnone
  exact ⟨hopened, hnone, h.2.1 0 (by decide) (by decide +kernel),
    (h.1 1 (by decide) (by decide +kernel)).trans (by decide +kernel)⟩

/-- A nested section does not always end at its closing brace: if a statement closes the model and
opens another block, then it still belongs to the model. -/
theorem not_regions_nested_eq_matching :
    ¬∀ (k : Tracker) (opener : Text) (r : Region) (ts : List Text),
      Region.opened? opener = some r → (∀ t ∈ ts, Region.opened? t = none) →
      ∀ i < ts.length, (regions .nested (advance .nested k opener) ts)[i]?
        = some (if ClosesBlock ((ts.take (i + 1)).flatMap scan) then .outside else r) := by
  intro h
  have hregion := h {} "model \x7b".toList .model ["\x7d group \x7b".toList] (by decide)
    (by decide) 0 (by decide)
  revert hregion
  decide +kernel

end C4Lint.Tracker
