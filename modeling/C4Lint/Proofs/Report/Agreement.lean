/-
# The agreement of the text, the JSON and the verdict

A report tells in several places how the validation turned out: by the verdict and the exit status,
by the numbers of issues, by the last line of the text and by its groups.  Each of them is computed
from the issues on its own.  `Report.agrees` says that they agree, whatever the issues are.

The groups of a text are read off its lines by `Report.groups`, which knows nothing of the issues.
-/
import Mathlib.Data.List.TFAE
import Mathlib.Tactic.TFAE
import C4Lint.Proofs.Report.Json
import C4Lint.Proofs.Report.Text

namespace C4Lint

/-- The member of an object that has the given name. -/
def Json.member? (name : Text) : Json → Option Json
  | object members => members.lookup name
  | _ => none

namespace Report

variable {r : Report} {s : Severity} {issues : List Issue} {t : List Text}

/-! ### Reading the groups of a text -/

/-- The line above `n` issues of one severity. -/
def heading (s : Severity) (n : Nat) : Text := label s ++ " (".toList ++ Text.decimal n ++ "):".toList

/-- Whether a line begins like the heading of a group. -/
def isHeading (l : Text) : Bool := Severity.all.any fun s => (label s ++ " (".toList).isPrefixOf l

/-- Whether a line begins like the first line of an issue. -/
def isEntry (l : Text) : Bool := "  Line ".toList.isPrefixOf l

/-- The headings among the lines, each with the number of issues below it up to an empty line. -/
def groups : List Text → List (Text × Nat)
  | [] => []
  | l :: ls =>
    if isHeading l then (l, (ls.takeWhile (· ≠ [])).countP isEntry) :: groups ls else groups ls

lemma isHeading_heading (s : Severity) (n : Nat) : isHeading (heading s n) = true := by
  refine List.any_eq_true.2 ⟨s, s.mem_all, List.isPrefixOf_iff_prefix.2 ?_⟩
  rw [heading, List.append_assoc (label s ++ _)]
  exact List.prefix_append _ _

/-- A heading begins with the first letter of its severity. -/
lemma isHeading_eq_false {l : Text} {c : Char} (hl : l.head? = some c)
    (hc : ∀ s ∈ Severity.all, c ≠ initial s) : isHeading l = false := by
  refine List.any_eq_false.2 fun s hs hprefix => hc s hs ?_
  obtain ⟨rest, rfl⟩ := List.isPrefixOf_iff_prefix.1 hprefix
  rw [List.append_assoc, head?_label_append] at hl
  exact (Option.some.inj hl).symm

lemma groups_append_of_forall {ls : List Text} (h : ∀ l ∈ ls, isHeading l = false) :
    groups (ls ++ t) = groups t := by
  induction ls with
  | nil => rfl
  | cons l ls ih =>
    obtain ⟨hl, hls⟩ := List.forall_mem_cons.1 h
    rw [List.cons_append, groups, hl, if_neg Bool.false_ne_true, ih hls]

lemma head?_of_mem_issueLines {i : Issue} {l : Text} (h : l ∈ issueLines i) :
    l.head? = some ' ' := by
  rcases List.mem_cons.1 h with rfl | h
  · rfl
  · obtain ⟨c, -, rfl⟩ := Option.map_eq_some_iff.1 (Option.mem_toList.1 h)
    rfl

lemma head?_of_mem_flatMap_issueLines {g : List Issue} {l : Text} (h : l ∈ g.flatMap issueLines) :
    l.head? = some ' ' := by
  obtain ⟨i, -, hl⟩ := List.mem_flatMap.1 h
  exact head?_of_mem_issueLines hl

/-- An issue has one line that begins like one, and a context does not begin so. -/
lemma countP_isEntry_flatMap (g : List Issue) : (g.flatMap issueLines).countP isEntry = g.length := by
  have hline : ∀ v : Text, isEntry ("  Line ".toList ++ v) = true := fun v =>
    List.isPrefixOf_iff_prefix.2 (List.prefix_append _ v)
  have hcontext : ∀ v : Text, ¬isEntry ("    Context: ".toList ++ v) = true := fun _ =>
    Bool.false_ne_true
  induction g with
  | nil => rfl
  | cons i g ih =>
    have hfirst : (issueLines i).countP isEntry = 1 := by
      rw [issueLines, List.append_assoc, List.append_assoc, List.countP_cons_of_pos (hline _)]
      cases i.context with
      | none => rfl
      | some c => exact congrArg (· + 1) (List.countP_cons_of_neg (hcontext c))
    rw [List.flatMap_cons, List.countP_append, hfirst, ih, List.length_cons, Nat.add_comm]

/-- A group is read off the lines, if an empty line follows. -/
lemma groups_groupLines_append (h : Issue.withSeverity s issues ≠ []) :
    groups (groupLines issues s ++ [] :: t)
      = (heading s (Issue.withSeverity s issues).length, (Issue.withSeverity s issues).length)
        :: groups ([] :: t) := by
  have hentries : ∀ l ∈ (Issue.withSeverity s issues).flatMap issueLines, isHeading l = false := by
    intro l hl
    exact isHeading_eq_false (head?_of_mem_flatMap_issueLines hl) (by decide)
  have hnonempty : ∀ l ∈ (Issue.withSeverity s issues).flatMap issueLines,
      decide (l ≠ []) = true := by
    intro l hl
    have hhead := head?_of_mem_flatMap_issueLines hl
    rw [decide_eq_true_eq]
    rintro rfl
    cases hhead
  have hempty : isHeading [] = false := rfl
  rw [groupLines_of_ne_nil h, List.cons_append, groups, hempty, if_neg Bool.false_ne_true,
    List.cons_append, ← heading, groups, isHeading_heading, if_pos rfl,
    groups_append_of_forall hentries, List.takeWhile_append_of_pos hnonempty,
    List.takeWhile_cons_of_neg (by simp), List.append_nil, countP_isEntry_flatMap]

/-- The groups are read off the lines of a report.  The induction is on the severities. -/
lemma groups_groupsThen (ss : List Severity) (issues : List Issue) {last : Text}
    (hlast : isHeading last = false) :
    groups (groupsThen ss issues last ++ [[]])
      = (ss.filter fun s => Issue.withSeverity s issues ≠ []).map fun s =>
        (heading s (Issue.withSeverity s issues).length, (Issue.withSeverity s issues).length) := by
  induction ss with
  | nil =>
    have hsummary : isHeading (summaryLine (Issue.tally issues)) = false :=
      isHeading_eq_false rfl (by decide)
    have hlines : ∀ l ∈ groupsThen [] issues last ++ [[]], isHeading l = false := by
      intro l hl
      simp only [groupsThen, List.flatMap_nil, List.nil_append, List.cons_append, List.mem_cons,
        List.not_mem_nil, or_false] at hl
      rcases hl with rfl | rfl | rfl | rfl | rfl
      · rfl
      · exact hsummary
      · rfl
      · exact hlast
      · rfl
    rw [← List.append_nil (groupsThen [] issues last ++ [[]]), groups_append_of_forall hlines]
    rfl
  | cons s ss ih =>
    have hcons : groupsThen (s :: ss) issues last ++ [[]]
        = groupLines issues s ++ (groupsThen ss issues last ++ [[]]) := by
      rw [groupsThen, List.flatMap_cons, groupsThen]
      simp only [List.append_assoc]
    rw [hcons]
    by_cases h : Issue.withSeverity s issues = []
    · rw [groupLines_of_eq_nil h, List.nil_append, ih,
        List.filter_cons_of_neg (by simpa using h)]
    · obtain ⟨l, u, heq, -⟩ := groupsThen_eq_cons ss issues last
      rw [heq, List.cons_append] at ih ⊢
      rw [groups_groupLines_append h, ih,
        List.filter_cons_of_pos (by simpa using h), List.map_cons]

/-- The groups are read off a text that shows no line feeds. -/
theorem groups_text (h : r.IsPlain) :
    groups (r.text.splitOn '\n')
      = (Severity.all.filter fun s => Issue.withSeverity s r.issues ≠ []).map fun s =>
        (heading s (Issue.withSeverity s r.issues).length,
          (Issue.withSeverity s r.issues).length) := by
  by_cases hissues : r.issues = []
  · have hbanner : ∀ l ∈ [banner], '\n' ∉ l := by decide
    rw [text, if_pos (by simpa using hissues), Text.splitOn_unlines hbanner, hissues]
    rfl
  · have htitle : isHeading ("C4 Model DSL Validation Report for: ".toList ++ r.title) = false :=
      isHeading_eq_false rfl (by decide)
    have hrule : isHeading (List.replicate 60 '=') = false := by decide
    have hverdict : isHeading (verdictLine r.passed) = false := by
      cases r.passed <;> decide
    rw [text_of_ne_nil hissues, Text.splitOn_unlines (newline_not_mem_issueReport h),
      issueReport_eq, List.cons_append, List.cons_append, groups, htitle,
      if_neg Bool.false_ne_true, groups, hrule, if_neg Bool.false_ne_true,
      groups_groupsThen _ _ hverdict]

/-! ### The last line, and the only line -/

/-- The text ends with a line about the verdict, or it is one. -/
lemma exists_text_eq_append (r : Report) :
    ∃ front, r.text = front ++ ((if r.issues = [] then banner else verdictLine r.passed)
      ++ ['\n']) := by
  by_cases h : r.issues = []
  · refine ⟨[], ?_⟩
    rw [text, if_pos (by simpa using h), if_pos h]
    rfl
  · refine ⟨Text.unlines (("C4 Model DSL Validation Report for: ".toList ++ r.title)
      :: List.replicate 60 '=' :: Severity.all.flatMap (groupLines r.issues)
        ++ [[], summaryLine (Issue.tally r.issues), []]), ?_⟩
    have hlast : ∀ l : Text, Text.unlines [l] = l ++ ['\n'] := fun l => by
      rw [Text.unlines_cons, Text.unlines_nil]
    rw [text_of_ne_nil h, if_neg h, ← hlast, ← Text.unlines_append, issueReport_eq, groupsThen]
    simp only [List.cons_append, List.append_assoc, List.nil_append]

/-- The text says at its end that the validation failed exactly if it did. -/
theorem failed_suffix_text_iff (r : Report) :
    "Validation failed!\n".toList <:+ r.text ↔ r.passed = false := by
  obtain ⟨front, htext⟩ := exists_text_eq_append r
  have hnot : ∀ e : Text, "Validation failed!\n".toList.length ≤ e.length →
      ¬"Validation failed!\n".toList <:+ e → ¬"Validation failed!\n".toList <:+ front ++ e :=
    fun e hlength he h => he (List.suffix_of_suffix_length_le h (List.suffix_append front e) hlength)
  rw [htext]
  by_cases h : r.issues = []
  · have hpassed : r.passed = true := by
      show Issue.passes r.issues = true
      rw [h]
      rfl
    rw [if_pos h, hpassed]
    exact iff_of_false (hnot _ (by decide) (by decide)) (by decide)
  · rw [if_neg h]
    cases r.passed with
    | true => exact iff_of_false (hnot _ (by decide) (by decide)) (by decide)
    | false => exact iff_of_true (List.suffix_append front _) rfl

/-- Only a report without issues is a single line. -/
theorem text_eq_banner_iff (r : Report) :
    r.text = "C4 model DSL validation passed!\n".toList ↔ r.issues = [] := by
  constructor
  · intro h
    by_contra hissues
    -- the fourth characters differ
    rw [text_of_ne_nil hissues, issueReport_eq, Text.unlines_cons, List.append_assoc] at h
    have htake := congrArg (List.take 4) h
    rw [List.take_append_of_le_length (by decide)] at htake
    exact absurd htake (by decide)
  · intro h
    rw [text, if_pos (by simpa using h)]
    rfl

/-! ### The parts of a report -/

/-- The name under which the number of issues of one severity is given. -/
def countName : Severity → Text
  | .error => "errors".toList
  | .warning => "warnings".toList
  | .info => "info".toList

/-- The text, the verdict and the JSON value of a report agree with its issues. -/
structure Agrees (r : Report) (v : Json) : Prop where
  /-- The issues of one severity stand in their order. -/
  sublist : ∀ s, (Issue.withSeverity s r.issues).Sublist r.issues
  /-- Each issue is among those of one severity, and once. -/
  perm : (Severity.all.flatMap fun s => Issue.withSeverity s r.issues).Perm r.issues
  /-- They are counted. -/
  tally : Issue.tally r.issues = ⟨(Issue.withSeverity .error r.issues).length,
    (Issue.withSeverity .warning r.issues).length, (Issue.withSeverity .info r.issues).length⟩
  /-- All of them are. -/
  total : (Issue.tally r.issues).total = r.issues.length
  /-- The verdict, the exit status, the JSON and the last line say whether there is an error. -/
  verdict : List.TFAE [∀ i ∈ r.issues, i.severity ≠ .error, r.passed = true, r.exitCode = 0,
    v.member? "passed".toList = some (.bool true),
    (v.member? "summary".toList).bind (Json.member? "errors".toList) = some (.number 0),
    ¬"Validation failed!\n".toList <:+ r.text]
  /-- The JSON gives the numbers of issues. -/
  counted : ∀ s, (v.member? "summary".toList).bind (Json.member? (countName s))
    = some (.number (Issue.withSeverity s r.issues).length)
  /-- The text has a group for each severity with issues, in the order of the severities.  The number
  in its heading is that of the issues below. -/
  grouped : r.IsPlain → groups (r.text.splitOn '\n')
    = (Severity.all.filter fun s => Issue.withSeverity s r.issues ≠ []).map fun s =>
      (heading s (Issue.withSeverity s r.issues).length, (Issue.withSeverity s r.issues).length)
  /-- The text is one line if there is nothing to say. -/
  banner_iff : r.text = "C4 model DSL validation passed!\n".toList ↔ r.issues = []

lemma member?_summary_value (r : Report) (s : Severity) :
    (r.value.member? "summary".toList).bind (Json.member? (countName s))
      = some (.number (Issue.withSeverity s r.issues).length) := by
  have hsummary : r.value.member? "summary".toList = some (tallyValue (Issue.tally r.issues)) := rfl
  rw [hsummary, Issue.tally_eq]
  cases s <;> rfl

/-- The verdict, the exit status, the JSON and the last line of the text say whether there is an
error. -/
theorem verdict_tfae (r : Report) :
    List.TFAE [∀ i ∈ r.issues, i.severity ≠ .error, r.passed = true, r.exitCode = 0,
      r.value.member? "passed".toList = some (.bool true),
      (r.value.member? "summary".toList).bind (Json.member? "errors".toList) = some (.number 0),
      ¬"Validation failed!\n".toList <:+ r.text] := by
  have hpassed : r.passed = (Issue.withSeverity .error r.issues).isEmpty := Issue.passes_eq r.issues
  have herrors : "errors".toList = countName .error := rfl
  refine List.tfae_of_forall (r.passed = true) _ ?_
  simp only [List.forall_mem_cons, List.not_mem_nil, false_imp_iff, implies_true, and_true,
    true_and]
  refine ⟨?_, ?_, ?_, ?_, ?_⟩
  · rw [hpassed, List.isEmpty_iff, Issue.withSeverity, List.filter_eq_nil_iff]
    simp only [decide_eq_true_eq, ne_eq]
  · cases h : r.passed <;> simp [exitCode, h]
  · have hmember : r.value.member? "passed".toList = some (.bool r.passed) := rfl
    rw [hmember, Option.some.injEq, Json.bool.injEq]
  · rw [herrors, member?_summary_value, hpassed, Option.some.injEq, Json.number.injEq,
      List.isEmpty_iff, List.length_eq_zero_iff]
  · rw [failed_suffix_text_iff, Bool.not_eq_false]

/-- Whatever issues there are, the JSON of a report denotes one value, and all that the report says
agrees with them. -/
theorem agrees (r : Report) :
    ∃ v, (∀ w, Json.Denotes r.json w ↔ w = v) ∧ Agrees r v := by
  refine ⟨r.value, fun w => ⟨fun h => h.unique (Json.denotes_pretty r.value), ?_⟩, ?_⟩
  · rintro rfl
    exact Json.denotes_pretty r.value
  · exact ⟨fun s => List.filter_sublist, Issue.flatMap_withSeverity_perm r.issues,
      Issue.tally_eq r.issues, Issue.total_tally r.issues, verdict_tfae r,
      member?_summary_value r, groups_text, text_eq_banner_iff r⟩

/-- Notes and an error in turns, where the title, a message and a context look like headings. -/
theorem agrees_mixed :
    let r : Report := ⟨"ERRORS (2):".toList, ⟨none,
      [⟨.info, 3, "INFO (1):".toList, none⟩, ⟨.error, 1, [], some "  Line 1: ".toList⟩,
        ⟨.info, 2, "  Line 1: ".toList, some []⟩], {}⟩⟩
    r.IsPlain ∧ ∃ v, Json.Denotes r.json v ∧ r.exitCode ≠ 0 ∧
      (v.member? "summary".toList).bind (Json.member? "info".toList) = some (.number 2) ∧
      groups (r.text.splitOn '\n') = [("ERRORS (1):".toList, 1), ("INFO (2):".toList, 2)] := by
  intro r
  have hplain : r.IsPlain := ⟨by decide, by decide, by decide⟩
  obtain ⟨v, hv, h⟩ := agrees r
  have hfailed : r.exitCode ≠ 0 := fun hexit =>
    absurd ((h.verdict.out 2 0).1 hexit) (by decide)
  exact ⟨hplain, v, (hv v).2 rfl, hfailed, h.counted .info, (h.grouped hplain).trans (by decide)⟩

end Report

end C4Lint
