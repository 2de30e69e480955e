/-
# What a malformed line keeps to itself

A malformed statement is reported and has no other consequence.  If its line is cleared, then the
report is gone, and all the rest of the validation is as it was: the workspace, the elements, the
relationships, what is said about other lines and what the last checks find.  The main statement is
`Validation.ofDocument_clearLine`.

It takes two things.  The statement moves the tracker like every other, and has to leave it as it
was (`Tracker.advance_of_neutral`); under the nested rule this is so if the statement opens as many
braces as it closes.  And the later entries are judged by what is recorded before them, to which a
malformed entry adds nothing (`Architecture.record_of_malformed`).
-/
import C4Lint.Proofs.Architecture.References
import C4Lint.Proofs.Entry.Issues
import C4Lint.Proofs.Region.Neutral
import C4Lint.Proofs.Validation.Issues

namespace C4Lint

open Token (braces scan)
open Architecture (ofEntries)

namespace Entry

variable {e : Entry} {es fs : List Entry} {f : Form}

/-- Clearing a line with a neutral statement takes the entry on it and leaves the others. -/
theorem all_clearLine {nesting : Nesting} {content : Text} (he : e ∈ all nesting content)
    (hneutral : nesting.Neutral e.statement.text) :
    all nesting (Text.clearLine e.line content)
      = (all nesting content).filter fun other => other.line ≠ e.line := by
  have hstatements : ∀ s ∈ Statement.all content, decide (s.line ≠ e.line) = false →
      nesting.Neutral s.text := by
    intro s hs hline
    rw [← map_statement_all nesting] at hs
    obtain ⟨other, hother, rfl⟩ := List.mem_map.1 hs
    -- on the line of the entry stands no other
    have hsame : other.line = e.line := of_not_not (of_decide_eq_false hline)
    obtain rfl := eq_of_line_eq (pairwise_line_all nesting content) hother he hsame
    exact hneutral
  rw [all, Statement.all_clearLine,
    ofStatements_filter (Tracker.inBlock_initial nesting) hstatements]
  rfl

/-! ### Leaving out a malformed entry -/

/-- The entries on other lines than that of one of them. -/
lemma filter_line_ne (h : (es ++ e :: fs).Pairwise fun e f => e.line < f.line) :
    (es ++ e :: fs).filter (fun other => other.line ≠ e.line) = es ++ fs := by
  obtain ⟨hbefore, hbehind⟩ := line_lt_of_pairwise_append_cons h
  have hes : ∀ other ∈ es, decide (other.line ≠ e.line) = true := fun other hother =>
    decide_eq_true (Nat.ne_of_lt (hbefore other hother))
  have hfs : ∀ other ∈ fs, decide (other.line ≠ e.line) = true := fun other hother =>
    decide_eq_true (Nat.ne_of_gt (hbehind other hother))
  rw [List.filter_append, List.filter_cons_of_neg (by simp), List.filter_eq_self.2 hes,
    List.filter_eq_self.2 hfs]

lemma workspaceName?_of_malformed (h : e.reading = .malformed f) :
    workspaceName? (es ++ e :: fs) = workspaceName? (es ++ fs) := by
  rw [workspaceName?, workspaceName?, List.filterMap_append, List.filterMap_append,
    List.filterMap_cons_none (workspace?_eq_none_of_malformed h)]

lemma ofEntries_of_malformed (h : e.reading = .malformed f) :
    ofEntries (es ++ e :: fs) = ofEntries (es ++ fs) := by
  rw [ofEntries, ofEntries, List.foldl_append, List.foldl_append, List.foldl_cons,
    Architecture.record_of_malformed h]

/-- A malformed entry has its own issue and no part in the others. -/
lemma allIssues_of_malformed (h : e.reading = .malformed f) (known : Architecture) :
    allIssues known (es ++ e :: fs)
      = allIssues known es ++ (Finding.malformed f).issue e.line (some e.statement.source)
        :: allIssues (es.foldl .record known) fs := by
  rw [allIssues_append, allIssues, issues_of_malformed h, Architecture.record_of_malformed h,
    List.singleton_append]

end Entry

namespace Validation

/-- A line with a malformed statement, which under the nested rule opens as many braces as it
closes, can be cleared.  The other statements stay in their regions, the workspace, the elements and
the relationships stay the same, and of the issues beyond those of the outline the one that reports
the statement is gone.  It is the only one on its line. -/
theorem ofDocument_clearLine (options : Options) {content : Text} {e : Entry} {form : Form}
    (he : e ∈ Entry.all options.nesting content) (hform : e.reading = .malformed form)
    (hbal : options.nesting = .nested →
      (braces (scan e.statement.text)).opening = (braces (scan e.statement.text)).closing) :
    Entry.all options.nesting (Text.clearLine e.line content)
      = (Entry.all options.nesting content).filter (fun other => other.line ≠ e.line) ∧
    (ofDocument options (Text.clearLine e.line content)).workspace
      = (ofDocument options content).workspace ∧
    (ofDocument options (Text.clearLine e.line content)).architecture
      = (ofDocument options content).architecture ∧
    ∃ before after : List Issue,
      (ofDocument options content).issues
        = Outline.issues content ++ before
          ++ (Finding.malformed form).issue e.line (some e.statement.source) :: after ∧
      (ofDocument options (Text.clearLine e.line content)).issues
        = Outline.issues (Text.clearLine e.line content) ++ before ++ after ∧
      ∀ i ∈ before ++ after, i.line ≠ e.line := by
  have hcleared := Entry.all_clearLine he (Reading.neutral_of_malformed hform hbal)
  have hlines := Entry.pairwise_line_all options.nesting content
  obtain ⟨es, fs, hsplit⟩ := List.append_of_mem he
  have hrest : Entry.all options.nesting (Text.clearLine e.line content) = es ++ fs := by
    rw [hcleared, hsplit, Entry.filter_line_ne (hsplit ▸ hlines)]
  have hothers : ∀ other ∈ es ++ fs, other.line ≠ e.line := by
    intro other hother
    rw [← hrest, hcleared, List.mem_filter, decide_eq_true_eq] at hother
    exact hother.2
  refine ⟨hcleared, ?_, ?_, Entry.allIssues {} es, Entry.allIssues (es.foldl .record {}) fs
    ++ (if options.crossReferences = true then (ofEntries (es ++ fs)).crossReferences else []),
    ?_, ?_, ?_⟩
  · rw [ofDocument, ofDocument, hrest, hsplit]
    exact (Entry.workspaceName?_of_malformed hform).symm
  · rw [ofDocument, ofDocument, hrest, hsplit]
    exact (Entry.ofEntries_of_malformed hform).symm
  · rw [issues_ofDocument, hsplit, Entry.allIssues_of_malformed hform,
      Entry.ofEntries_of_malformed hform]
    simp only [List.append_assoc, List.cons_append]
  · rw [issues_ofDocument, hrest, Entry.allIssues_append]
    simp only [List.append_assoc]
  · intro i hi
    have hline : ∃ other ∈ es ++ fs, i.line = other.line := by
      rw [← List.append_assoc, ← Entry.allIssues_append, List.mem_append,
        List.mem_ite_nil_right] at hi
      rcases hi with hi | ⟨-, hi⟩
      · exact Entry.exists_line_eq_of_mem_allIssues hi
      · exact Architecture.exists_line_eq_of_mem_crossReferences hi
    obtain ⟨other, hother, heq⟩ := hline
    rw [heq]
    exact hothers other hother

/-- A person without a description, who has a pair of braces instead and stands within a block.  The
relationships behind it mention the person, a system and a name that is not declared at all. -/
theorem ofDocument_clearLine_person :
    let content :=
      ("model \x7b\nbank = softwareSystem \"Bank\" \x7b\nuser = person \x7b\x7d\n"
        ++ "user -> bank\n\x7d\nbank -> audit\n\x7d\n").toList
    let cleared :=
      ("model \x7b\nbank = softwareSystem \"Bank\" \x7b\n\n"
        ++ "user -> bank\n\x7d\nbank -> audit\n\x7d\n").toList
    let e : Entry := ⟨⟨3, "user = person \x7b\x7d".toList, "user = person \x7b\x7d".toList⟩, .model⟩
    e ∈ Entry.all .nested content ∧ e.reading = .malformed (.element .person) ∧
      (braces (scan e.statement.text)).opening = (braces (scan e.statement.text)).closing ∧
      Text.clearLine 3 content = cleared ∧
      ∃ before after : List Issue,
        (ofDocument ⟨.nested, true⟩ content).issues
          = Outline.issues content ++ before
            ++ (Finding.malformed (.element .person)).issue 3 (some e.statement.source) :: after ∧
        (ofDocument ⟨.nested, true⟩ cleared).issues
          = Outline.issues cleared ++ before ++ after := by
  intro content cleared e
  have he : e ∈ Entry.all .nested content := by decide +kernel
  have hform : e.reading = .malformed (.element .person) := by decide +kernel
  have hbal :
      (braces (scan e.statement.text)).opening = (braces (scan e.statement.text)).closing := by
    decide +kernel
  have hcleared : Text.clearLine 3 content = cleared := by decide +kernel
  obtain ⟨-, -, -, before, after, hbefore, hafter, -⟩ :=
    ofDocument_clearLine ⟨.nested, true⟩ he hform fun _ => hbal
  exact ⟨he, hform, hbal, hcleared, before, after, hbefore, hcleared ▸ hafter⟩

end Validation

end C4Lint
