/-
# Issues by severity

The numbers of issues and the verdict are about the issues of one severity each.  The issues of the
three severities together are all issues: `Issue.flatMap_withSeverity_perm`.
-/
import Mathlib.Tactic.Common
import C4Lint.Issue

namespace C4Lint.Issue

attribute [ext] Issue

variable {issues : List Issue}

/-- Every issue has one severity, so it is among the issues of one severity and of no other. -/
theorem flatMap_withSeverity_perm (issues : List Issue) :
    (Severity.all.flatMap fun s => withSeverity s issues).Perm issues := by
  induction issues with
  | nil => rfl
  | cons i issues ih =>
    have hcons : ∀ s, withSeverity s (i :: issues)
        = if i.severity = s then i :: withSeverity s issues else withSeverity s issues := by
      intro s
      simp only [withSeverity, List.filter_cons, decide_eq_true_eq]
    simp only [Severity.all, List.flatMap_cons, List.flatMap_nil, List.append_nil] at ih ⊢
    simp only [hcons]
    cases i.severity with
    | error => exact ih.cons i
    | warning => exact List.perm_middle.trans (ih.cons i)
    | info => exact (List.perm_middle.append_left _).trans (List.perm_middle.trans (ih.cons i))

lemma tally_eq (issues : List Issue) :
    tally issues = ⟨(withSeverity .error issues).length, (withSeverity .warning issues).length,
      (withSeverity .info issues).length⟩ := by
  simp only [tally, withSeverity, List.countP_eq_length_filter]

/-- No issue is counted twice, and none is left out. -/
theorem total_tally (issues : List Issue) : (tally issues).total = issues.length := by
  rw [tally_eq, Tally.total, ← (flatMap_withSeverity_perm issues).length_eq]
  simp only [Severity.all, List.flatMap_cons, List.flatMap_nil, List.append_nil, List.length_append]
  omega

lemma passes_eq (issues : List Issue) : passes issues = (withSeverity .error issues).isEmpty := by
  rw [passes, withSeverity, Bool.eq_iff_iff, List.isEmpty_iff, List.filter_eq_nil_iff]
  simp

end C4Lint.Issue
