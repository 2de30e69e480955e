/-
# Texts that differ in their margins

The blanks at both ends of a line are its margins; they hold indentation, trailing blanks and
carriage returns.  `Text.MarginEq` relates two texts whose lines are the same up to margins.  What
goes over line ends is to be found in both texts then, although not at the same places: the two can
be cut at a character that is not blank, and the parts are related again with that character on both
sides of the cut (`MarginEq.cut`).  Between two such characters on one line nothing differs
(`MarginEq.eq_of_newline_not_mem`), and blanks between them stay blanks (`MarginEq.blanks_iff`).
-/
import C4Lint.Proofs.Text.Lines
import C4Lint.Proofs.Text.Trim

namespace C4Lint.Text

/-- The texts have the same lines up to blanks at the ends of lines. -/
inductive MarginEq : Text → Text → Prop
  /-- Both are a single line. -/
  | last {l m : Text} (hl : '\n' ∉ l) (hm : '\n' ∉ m) (h : trim l = trim m) : MarginEq l m
  /-- Both have a first line, and more behind it. -/
  | line {l m t u : Text} (hl : '\n' ∉ l) (hm : '\n' ∉ m) (h : trim l = trim m)
      (htu : MarginEq t u) : MarginEq (l ++ '\n' :: t) (m ++ '\n' :: u)

variable {a b g g' l m t u v : Text} {c d : Char}

/-- Texts are related if what stands between their line feeds is the same when it is trimmed. -/
theorem marginEq_of_map_trim_eq (h : (a.splitOn '\n').map trim = (b.splitOn '\n').map trim) :
    MarginEq a b := by
  induction a using lines_induction generalizing b with
  | last a ha =>
    rw [List.splitOn_eq_singleton ha] at h
    rcases newline_not_mem_or_exists b with hb | ⟨m, u, hm, rfl⟩
    · rw [List.splitOn_eq_singleton hb] at h
      exact .last ha hb (by simpa using h)
    · -- one line against at least two
      rw [List.splitOn_append_cons_self_of_not_mem hm] at h
      simp [List.splitOn_ne_nil] at h
  | cons l t hl ih =>
    rw [List.splitOn_append_cons_self_of_not_mem hl] at h
    rcases newline_not_mem_or_exists b with hb | ⟨m, u, hm, rfl⟩
    · rw [List.splitOn_eq_singleton hb] at h
      simp [List.splitOn_ne_nil] at h
    · rw [List.splitOn_append_cons_self_of_not_mem hm, List.map_cons, List.map_cons,
        List.cons.injEq] at h
      exact .line hl hm h.1 (ih h.2)

namespace MarginEq

lemma symm (h : MarginEq a b) : MarginEq b a := by
  induction h with
  | last hl hm h => exact .last hm hl h.symm
  | line hl hm h _ ih => exact .line hm hl h.symm ih

/-- The characters that are not blank are the same. -/
lemma inked_eq (h : MarginEq a b) : inked a = inked b := by
  have hline : ∀ {l m}, trim l = trim m → inked l = inked m := by
    intro l m hlm
    rw [← inked_trim, hlm, inked_trim]
  induction h with
  | last _ _ h => exact hline h
  | @line l m t u _ _ h _ ih =>
    have hfeed : ∀ s : Text, inked ('\n' :: s) = inked s := fun s =>
      List.filter_cons_of_neg (by decide)
    rw [inked_append, inked_append, hfeed, hfeed, hline h, ih]

lemma blanks_iff (h : MarginEq (c :: g ++ [d]) (c :: g' ++ [d])) (hc : isBlank c = false) :
    Blanks g ↔ Blanks g' := by
  have hinked := h.inked_eq
  rw [inked_append, inked_append, inked_cons hc, inked_cons hc] at hinked
  rw [← inked_eq_nil_iff, ← inked_eq_nil_iff, List.cons.inj (List.append_cancel_right hinked) |>.2]

/-! ### One line -/

/-- A single line is related to single lines only, which are the same when they are trimmed. -/
lemma trim_eq_of_newline_not_mem (h : MarginEq a b) (ha : '\n' ∉ a) : trim a = trim b := by
  cases h with
  | last _ _ h => exact h
  | line => simp at ha

/-- On one line nothing differs between two characters that are not blank. -/
theorem eq_of_newline_not_mem (h : MarginEq (c :: g ++ [d]) (c :: g' ++ [d]))
    (hc : isBlank c = false) (hd : isBlank d = false) (hg : '\n' ∉ g) : g = g' := by
  have hnotblank : ∀ {e : Char}, isBlank e = false → '\n' ≠ e := by
    rintro e he rfl
    exact absurd he (by decide)
  have hself : ∀ w : Text, trim (c :: w ++ [d]) = c :: w ++ [d] := by
    intro w
    rw [trim_append_cons hd, trimStart, dropWhile_eq_self (by simpa using hc)]
    rfl
  have htrim := h.trim_eq_of_newline_not_mem (by simp [hg, hnotblank hc, hnotblank hd])
  rw [hself, hself] at htrim
  exact List.append_cancel_right (List.cons.inj htrim).2

/-- Two lines that are the same when they are trimmed can be cut at the same character. -/
lemma exists_append_cons_of_trim_eq (hc : isBlank c = false) (h : trim (u ++ c :: v) = trim m) :
    ∃ u' v', m = u' ++ c :: v' ∧ trim (u ++ [c]) = trim (u' ++ [c]) ∧
      trim (c :: v) = trim (c :: v') := by
  obtain ⟨x, y, hm, hx, hy⟩ := trim_eq m
  rw [← h, trim_append_cons hc] at hm
  refine ⟨x ++ trimStart u, trimEnd v ++ y, by rw [hm]; simp, ?_, ?_⟩
  · rw [trim_append_cons hc, trim_append_cons hc, trimStart_append_of_blanks hx,
      trimStart_trimStart]
  · have hcons : ∀ w : Text, trim (c :: w) = c :: trimEnd w := fun w => trim_append_cons hc [] w
    rw [hcons, hcons, trimEnd_append_of_blanks hy, trimEnd_trimEnd]

/-! ### Cutting -/

/-- Related texts can be cut at a character that is not blank.  The induction is on the lines of the
texts; the cut is in the first line or behind it. -/
theorem cut (h : MarginEq (u ++ c :: v) b) (hc : isBlank c = false) :
    ∃ u' v', b = u' ++ c :: v' ∧ MarginEq (u ++ [c]) (u' ++ [c]) ∧
      MarginEq (c :: v) (c :: v') := by
  have hne : '\n' ≠ c := by
    rintro rfl
    exact absurd hc (by decide)
  generalize ha : u ++ c :: v = a at h
  induction h generalizing u v with
  | @last l m hl hm h =>
    subst ha
    obtain ⟨u', v', rfl, hu, hv⟩ := exists_append_cons_of_trim_eq hc h
    simp only [List.mem_append, List.mem_cons, not_or] at hl hm
    exact ⟨u', v', rfl, .last (by simp [hl]) (by simp [hm]) hu,
      .last (by simp [hl]) (by simp [hm]) hv⟩
  | @line l m t s hl hm h hts ih =>
    rcases List.append_eq_append_iff.1 ha with ⟨w, hlw, hcw⟩ | ⟨w, huw, hcw⟩
    · cases w with
      | nil => exact absurd (List.cons.inj hcw).1.symm hne
      | cons e w =>
        obtain ⟨rfl, rfl⟩ := List.cons.inj hcw
        subst hlw
        obtain ⟨u', v', rfl, hu, hv⟩ := exists_append_cons_of_trim_eq hc h
        simp only [List.mem_append, List.mem_cons, not_or] at hl hm
        refine ⟨u', v' ++ '\n' :: s, by simp, .last (by simp [hl]) (by simp [hm]) hu, ?_⟩
        exact .line (l := c :: w) (m := c :: v') (by simp [hl]) (by simp [hm]) hv hts
    · cases w with
      | nil => exact absurd (List.cons.inj hcw).1 hne
      | cons e w =>
        obtain ⟨rfl, htw⟩ := List.cons.inj hcw
        subst huw
        obtain ⟨u', v', rfl, hu, hv⟩ := ih htw.symm
        refine ⟨m ++ '\n' :: u', v', by simp, ?_, hv⟩
        have hline := MarginEq.line hl hm h hu
        simpa using hline

/-- Behind a cut, the texts can be cut again. -/
lemma cut_cons (h : MarginEq (c :: g ++ d :: v) (c :: t)) (hc : isBlank c = false)
    (hd : isBlank d = false) :
    ∃ g' v', t = g' ++ d :: v' ∧ MarginEq (c :: g ++ [d]) (c :: g' ++ [d]) ∧
      MarginEq (d :: v) (d :: v') := by
  obtain ⟨u', v', ht, hleft, hright⟩ := h.cut hd
  cases u' with
  | nil =>
    -- the first character cannot be the second one as well
    have hlength := congrArg List.length hleft.inked_eq
    rw [inked_append, List.nil_append, inked_cons hc, List.length_append,
      List.length_cons] at hlength
    omega
  | cons e g' =>
    obtain ⟨rfl, rfl⟩ := List.cons.inj ht
    exact ⟨g', v', rfl, hleft, hright⟩

end MarginEq

end C4Lint.Text
