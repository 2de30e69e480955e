/-
# What the outline of a document says

The outline checks read a document from each of its characters on and stop as soon as they know.
This file says what they look for: a workspace is declared where the keyword, a name in quotes and a
brace follow one another (`DeclaresWorkspace`), a section is opened where its name and a brace do
(`Opens`).  By `hasWorkspace_eq_true_iff` and `hasSection_eq_true_iff` the checks find these and
nothing else.
-/
import C4Lint.Proofs.Text.Run
import C4Lint.Outline

namespace C4Lint.Outline

open Text (Blanks)

/-- Somewhere in the text stand the keyword, blanks, a name in quotes and an opening brace.  The name
is not empty and has neither quotes nor line ends; there may be blanks before the brace. -/
def DeclaresWorkspace (content : Text) : Prop :=
  ∃ before space name gap after : Text,
    space ≠ [] ∧ Blanks space ∧ name ≠ [] ∧ (∀ c ∈ name, c ≠ '"' ∧ c ≠ '\n') ∧ Blanks gap ∧
      content = before ++ "workspace".toList ++ space ++ '"' :: name ++ '"' :: gap ++ '{' :: after

/-- Somewhere in the text stand the word and an opening brace, with nothing but blanks between. -/
def Opens (word content : Text) : Prop :=
  ∃ before gap after : Text, Blanks gap ∧ content = before ++ word ++ gap ++ '{' :: after

lemma isNamingChar_eq_true_iff {c : Char} : isNamingChar c = true ↔ c ≠ '"' ∧ c ≠ '\n' := by
  simp [isNamingChar]

/-! ### Blocks -/

lemma beginsBlock_eq_true_iff {t : Text} :
    beginsBlock t = true ↔ ∃ gap after : Text, Blanks gap ∧ t = gap ++ '{' :: after := by
  have hbrace : Text.isBlank '{' = false := by decide
  rw [beginsBlock, beq_iff_eq, List.head?_eq_some_iff]
  constructor
  · rintro ⟨after, h⟩
    obtain ⟨-, gap, hgap, ht⟩ := Text.trimStart_eq_cons_iff.1 h
    exact ⟨gap, after, hgap, ht⟩
  · rintro ⟨gap, after, hgap, ht⟩
    exact ⟨after, Text.trimStart_eq_cons_iff.2 ⟨hbrace, gap, hgap, ht⟩⟩

lemma beginsSection_eq_true_iff {word t : Text} :
    beginsSection word t = true ↔
      ∃ gap after : Text, Blanks gap ∧ t = word ++ gap ++ '{' :: after := by
  rw [beginsSection]
  cases h : Text.after? word t with
  | none =>
    simp only [Option.map_none, Option.getD_none, Bool.false_eq_true, false_iff]
    rintro ⟨gap, after, -, rfl⟩
    rw [List.append_assoc] at h
    exact absurd (h.symm.trans (Text.after?_eq_some_iff.2 rfl)) (by simp)
  | some r =>
    obtain rfl := Text.after?_eq_some_iff.1 h
    simp only [Option.map_some, Option.getD_some, beginsBlock_eq_true_iff, List.append_assoc,
      List.append_cancel_left_eq]

/-- The check for a section finds the word before a brace, wherever it stands. -/
theorem hasSection_eq_true_iff {word content : Text} :
    hasSection word content = true ↔ Opens word content := by
  simp only [hasSection, Text.someTail_eq_true_iff, beginsSection_eq_true_iff, Opens]
  constructor
  · rintro ⟨before, t, rfl, gap, after, hgap, rfl⟩
    exact ⟨before, gap, after, hgap, by simp only [List.append_assoc]⟩
  · rintro ⟨before, gap, after, hgap, rfl⟩
    exact ⟨before, word ++ gap ++ '{' :: after, by simp only [List.append_assoc], gap, after, hgap,
      rfl⟩

/-! ### The workspace -/

lemma beginsNamedBlock_eq_true_iff {t : Text} :
    beginsNamedBlock t = true ↔
      ∃ name gap after : Text, name ≠ [] ∧ (∀ c ∈ name, c ≠ '"' ∧ c ≠ '\n') ∧ Blanks gap ∧
        t = '"' :: name ++ '"' :: gap ++ '{' :: after := by
  have hquote : isNamingChar '"' = false := by decide
  constructor
  · intro h
    unfold beginsNamedBlock at h
    split at h
    · next t =>
      split at h
      · next rest hrest =>
        obtain ⟨-, name, hname, rfl⟩ := Text.dropWhile_eq_cons_iff.1 hrest
        rw [Bool.and_eq_true, beginsBlock_eq_true_iff] at h
        obtain ⟨hfirst, gap, after, hgap, rfl⟩ := h
        refine ⟨name, gap, after, ?_, ?_, hgap, by simp⟩
        · rintro rfl
          simp at hfirst
        · intro c hc
          exact isNamingChar_eq_true_iff.1 (hname c hc)
      · exact absurd h (by simp)
    · exact absurd h (by simp)
  · rintro ⟨name, gap, after, hne, hname, hgap, rfl⟩
    have hdrop : (name ++ '"' :: (gap ++ '{' :: after)).dropWhile isNamingChar
        = '"' :: (gap ++ '{' :: after) :=
      Text.dropWhile_eq_cons_iff.2
        ⟨hquote, name, fun c hc => isNamingChar_eq_true_iff.2 (hname c hc), rfl⟩
    have hblock : beginsBlock (gap ++ '{' :: after) = true :=
      beginsBlock_eq_true_iff.2 ⟨gap, after, hgap, rfl⟩
    cases name with
    | nil => exact absurd rfl hne
    | cons c name =>
      have hc := (hname c List.mem_cons_self).1
      simp only [List.cons_append, List.append_assoc] at hdrop ⊢
      simp only [beginsNamedBlock, hdrop, hblock]
      simp [hc]

lemma beginsWorkspace_eq_true_iff {t : Text} :
    beginsWorkspace t = true ↔
      ∃ space rest : Text, space ≠ [] ∧ Blanks space ∧ beginsNamedBlock rest = true ∧
        t = "workspace".toList ++ space ++ rest := by
  rw [beginsWorkspace]
  constructor
  · intro h
    split at h
    · next c rest hrest =>
      obtain rfl := Text.after?_eq_some_iff.1 hrest
      rw [Bool.and_eq_true] at h
      refine ⟨c :: rest.takeWhile Text.isBlank, Text.trimStart rest, by simp, ?_, h.2, ?_⟩
      · intro d hd
        rcases List.mem_cons.1 hd with rfl | hd
        · exact h.1
        · exact List.mem_takeWhile_imp hd
      · rw [List.append_assoc, List.cons_append, Text.takeWhile_append_trimStart]
    · exact absurd h (by simp)
  · rintro ⟨space, rest, hne, hspace, hrest, rfl⟩
    cases space with
    | nil => exact absurd rfl hne
    | cons c space =>
      have hafter : Text.after? "workspace".toList ("workspace".toList ++ c :: space ++ rest)
          = some (c :: (space ++ rest)) := Text.after?_eq_some_iff.2 (by simp)
      -- the block begins with a quote, so that blanks before it are skipped and no more
      have htrim : Text.trimStart (space ++ rest) = rest := by
        obtain ⟨name, gap, after, -, -, -, rfl⟩ := beginsNamedBlock_eq_true_iff.1 hrest
        exact Text.trimStart_eq_cons_iff.2
          ⟨by decide, space, fun d hd => hspace d (List.mem_cons_of_mem _ hd), rfl⟩
      rw [hafter]
      simp only [htrim, hrest, hspace c List.mem_cons_self, Bool.and_self]

/-- The check for a workspace finds its declaration, wherever it stands. -/
theorem hasWorkspace_eq_true_iff {content : Text} :
    hasWorkspace content = true ↔ DeclaresWorkspace content := by
  simp only [hasWorkspace, Text.someTail_eq_true_iff, beginsWorkspace_eq_true_iff,
    beginsNamedBlock_eq_true_iff, DeclaresWorkspace]
  constructor
  · rintro ⟨before, t, rfl, space, rest, hne, hspace, ⟨name, gap, after, hname, hchars, hgap, rfl⟩,
      rfl⟩
    exact ⟨before, space, name, gap, after, hne, hspace, hname, hchars, hgap,
      by simp only [List.append_assoc]⟩
  · rintro ⟨before, space, name, gap, after, hne, hspace, hname, hchars, hgap, rfl⟩
    exact ⟨before, "workspace".toList ++ space ++ ('"' :: name ++ '"' :: gap ++ '{' :: after),
      by simp only [List.append_assoc], space, _, hne, hspace,
      ⟨name, gap, after, hname, hchars, hgap, rfl⟩, rfl⟩

instance (content : Text) : Decidable (DeclaresWorkspace content) :=
  decidable_of_iff _ hasWorkspace_eq_true_iff

instance (word content : Text) : Decidable (Opens word content) :=
  decidable_of_iff _ hasSection_eq_true_iff

/-! ### The issues -/

lemma mem_findings {content : Text} {f : Finding} :
    f ∈ findings content ↔
      (f = .missingWorkspace ∧ ¬DeclaresWorkspace content) ∨
      (f = .missingModel ∧ ¬Opens "model".toList content) ∨
      (f = .missingViews ∧ ¬Opens "views".toList content) ∨
      (f = .unbalancedBraces (braces content) ∧
        (braces content).opening ≠ (braces content).closing) := by
  simp only [findings, ← hasWorkspace_eq_true_iff, ← hasSection_eq_true_iff, List.mem_append,
    List.mem_ite_nil_left, List.mem_singleton, or_assoc, and_comm, ne_eq]

end C4Lint.Outline
