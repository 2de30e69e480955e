/-
# Where the issues of a document point

Each issue of a document is on one of its lines, and issues of one kind come together:
`IssueLayout` says which kinds there are, in which order they come and on which lines they can be.
The main statement is `Validation.layout_ofDocument`.  It rests on the order of the entries.  They
stand on lines of their own, one below the other, and whatever is read off them one by one keeps this
order: the issues of statements, the elements, the relationships and the names in them.
-/
import C4Lint.CommandLine.Program
import C4Lint.Proofs.Validation.Issues

namespace C4Lint

open Architecture (elementOf? relationshipOf? ofEntries)

/-- The issues are those of one statement that is not in order: a single error, or one warning or
two. -/
def ErrorOrWarnings (issues : List Issue) : Prop :=
  (∃ i, issues = [i] ∧ i.severity = .error) ∨
    (issues.length = 1 ∨ issues.length = 2) ∧ ∀ i ∈ issues, i.severity = .warning

/-- The parts of which the issues of a validation consist: those with the outline, those of the
statements, and, if references are checked at the end, those about names that are never defined and
those about elements that are never used. -/
structure IssueLayout (options : Options) (content : Text) (v : Validation)
    (outline statements undefined unused : List Issue) : Prop where
  /-- The parts come in this order. -/
  issues_eq : v.issues = outline ++ statements ++ undefined ++ unused
  /-- At most four things are wrong with the outline. -/
  length_outline_le : outline.length ≤ 4
  /-- What is wrong with the outline is reported on the first line, without a context. -/
  at_outline : ∀ i ∈ outline, i.line = 1 ∧ i.context = none
  /-- What is wrong with a statement is reported on its line, with the trimmed line as context. -/
  at_statements : ∀ i ∈ statements, ∃ n l, (Text.lines content)[n]? = some l ∧ i.line = n + 1 ∧
    i.context = some (Text.trim l)
  /-- The issues of the statements come in the order of the lines. -/
  pairwise_statements : statements.Pairwise fun i j => i.line ≤ j.line
  /-- Errors and warnings of statements do not meet on one line. -/
  same_line : ∀ i ∈ statements, ErrorOrWarnings (statements.filter fun j => j.line = i.line)
  /-- A name that is never defined is an error on the line of a recorded relationship. -/
  at_undefined : ∀ i ∈ undefined, i.severity = .error ∧
    ∃ r ∈ v.architecture.relationships.toList, r.line = i.line
  /-- These errors come in the order of the lines. -/
  pairwise_undefined : undefined.Pairwise fun i j => i.line ≤ j.line
  /-- An element that is never used is a note on the line of the recorded element. -/
  at_unused : ∀ i ∈ unused, i.severity = .info ∧
    ∃ x ∈ v.architecture.elements.toList, x.line = i.line
  /-- These notes come in the order of the lines, one on each. -/
  pairwise_unused : unused.Pairwise fun i j => i.line < j.line
  /-- Unless references are checked at the end, there are no such errors and notes. -/
  without_references : options.crossReferences = false → undefined = [] ∧ unused = []

/-! ### The outline -/

lemma Outline.length_findings_le (content : Text) : (findings content).length ≤ 4 := by
  have hone : ∀ (p : Prop) [Decidable p] (f : Finding), (if p then [] else [f]).length ≤ 1 := by
    intro p _ f
    split_ifs <;> simp
  have h1 := hone (hasWorkspace content = true) .missingWorkspace
  have h2 := hone (hasSection "model".toList content = true) .missingModel
  have h3 := hone (hasSection "views".toList content = true) .missingViews
  have h4 := hone ((braces content).opening = (braces content).closing)
    (.unbalancedBraces (braces content))
  simp only [findings, List.length_append]
  omega

namespace Entry

variable {es : List Entry} {e : Entry} {i : Issue} {known : Architecture}

/-! ### The issues of the statements -/

/-- A statement has no issues, a single error, or a warning for one end of a relationship or for
both. -/
lemma errorOrWarnings_issues (h : i ∈ e.issues known) : ErrorOrWarnings (e.issues known) := by
  by_cases hm : ∃ f, e.reading = .malformed f
  · obtain ⟨f, hf⟩ := hm
    exact Or.inl ⟨_, issues_of_malformed hf known, rfl⟩
  · right
    simp only [not_exists] at hm
    cases hr : relationshipOf? e with
    | none =>
      rw [issues_of_relationshipOf?_eq_none hm hr] at h
      exact absurd h List.not_mem_nil
    | some r =>
      have hle : (e.issues known).length ≤ Endpoint.all.length := by
        rw [issues_of_relationshipOf? hr, List.length_map, Architecture.undefinedEnds,
          List.length_map]
        exact List.length_filter_le ..
      have htwo : Endpoint.all.length = 2 := rfl
      have hpos := List.length_pos_of_mem h
      refine ⟨by omega, fun j hj => ?_⟩
      rcases mem_issues_iff.1 hj with ⟨f, hf, -⟩ | ⟨s, p, -, -, rfl⟩
      · exact absurd hf (hm f)
      · rfl

/-- What is found at the entries, each time on their own lines, can be told apart by these lines. -/
lemma filter_line_flatMap (hes : es.Pairwise fun e f => e.line < f.line)
    {found : Entry → List Issue} (hline : ∀ f, ∀ i ∈ found f, i.line = f.line) (he : e ∈ es) :
    (es.flatMap found).filter (fun i => i.line = e.line) = found e := by
  obtain ⟨before, behind, rfl⟩ := List.append_of_mem he
  obtain ⟨hbefore, hbehind⟩ := line_lt_of_pairwise_append_cons hes
  have hothers : ∀ fs : List Entry, (∀ f ∈ fs, f.line ≠ e.line) →
      (fs.flatMap found).filter (fun i => i.line = e.line) = [] := by
    intro fs hfs
    rw [List.filter_eq_nil_iff]
    intro i hi
    obtain ⟨f, hf, hif⟩ := List.mem_flatMap.1 hi
    rw [decide_eq_true_eq, hline f i hif]
    exact hfs f hf
  have hown : (found e).filter (fun i => i.line = e.line) = found e :=
    List.filter_eq_self.2 fun i hi => decide_eq_true (hline e i hi)
  rw [List.flatMap_append, List.flatMap_cons, List.filter_append, List.filter_append,
    hothers before fun f hf => Nat.ne_of_lt (hbefore f hf),
    hothers behind fun f hf => Nat.ne_of_gt (hbehind f hf), hown, List.nil_append, List.append_nil]

/-- Issues on one line come from one statement. -/
lemma errorOrWarnings_filter_line (hes : es.Pairwise fun e f => e.line < f.line)
    (h : i ∈ allIssues {} es) :
    ErrorOrWarnings ((allIssues {} es).filter fun j => j.line = i.line) := by
  obtain ⟨e, he, hline⟩ := exists_line_eq_of_mem_allIssues h
  have hsame : (allIssues {} es).filter (fun j => j.line = e.line)
      = e.issues (ofEntries (es.filter fun f => f.line < e.line)) := by
    rw [allIssues_eq_flatMap hes]
    exact filter_line_flatMap hes (fun f i => line_of_mem_issues) he
  have hmem : i ∈ (allIssues {} es).filter fun j => j.line = e.line :=
    List.mem_filter.2 ⟨h, decide_eq_true hline⟩
  rw [hsame] at hmem
  rw [hline, hsame]
  exact errorOrWarnings_issues hmem

/-- The issues of the statements come in the order of the lines. -/
lemma pairwise_line_allIssues (hes : es.Pairwise fun e f => e.line < f.line) :
    (allIssues {} es).Pairwise fun i j => i.line ≤ j.line := by
  rw [allIssues_eq_flatMap hes, List.pairwise_flatMap]
  constructor
  · intro e _
    refine List.pairwise_of_forall_mem_list fun i hi j hj => ?_
    rw [line_of_mem_issues hi, line_of_mem_issues hj]
  · refine hes.imp fun hlt i hi j hj => ?_
    rw [line_of_mem_issues hi, line_of_mem_issues hj]
    exact Nat.le_of_lt hlt

/-- An issue of a statement shows the line that it is on. -/
lemma exists_line_of_mem_allIssues {nesting : Nesting} {content : Text}
    (h : i ∈ allIssues {} (all nesting content)) :
    ∃ n l, (Text.lines content)[n]? = some l ∧ i.line = n + 1 ∧
      i.context = some (Text.trim l) := by
  have hsource : ∃ e ∈ all nesting content, i.line = e.line ∧
      i.context = some e.statement.source := by
    rcases (mem_allIssues_iff (pairwise_line_all nesting content)).1 h with
      ⟨e, he, f, -, rfl⟩ | ⟨e, he, r, p, -, -, -, rfl⟩
    · exact ⟨e, he, rfl, rfl⟩
    · exact ⟨e, he, rfl, rfl⟩
  obtain ⟨e, he, hline, hcontext⟩ := hsource
  obtain ⟨n, l, hl, hn, hshown⟩ := exists_line_of_mem_all he
  exact ⟨n, l, hl, hline.trans hn, by rw [hcontext, hshown]⟩

/-! ### What is recorded -/

lemma pairwise_line_elements (hes : es.Pairwise fun e f => e.line < f.line) :
    (elements es).Pairwise fun x y => x.line < y.line := by
  refine hes.filterMap elementOf? fun e f hlt x hx y hy => ?_
  rwa [line_of_elementOf? hx, line_of_elementOf? hy]

lemma pairwise_line_relationships (hes : es.Pairwise fun e f => e.line < f.line) :
    (relationships es).Pairwise fun r s => r.line < s.line := by
  refine hes.filterMap relationshipOf? fun e f hlt r hr s hs => ?_
  rwa [line_of_relationshipOf? hr, line_of_relationshipOf? hs]

end Entry

namespace Architecture

variable {es : List Entry}

/-- Elements are recorded in the order of their lines. -/
theorem pairwise_line_elements_ofEntries (hes : es.Pairwise fun e f => e.line < f.line) :
    (ofEntries es).elements.toList.Pairwise fun x y => x.line < y.line := by
  rw [elements_ofEntries]
  exact (Entry.pairwise_line_elements hes).sublist (firstsBy_sublist Element.name _)

/-- Relationships are recorded in the order of their lines. -/
theorem pairwise_line_relationships_ofEntries (hes : es.Pairwise fun e f => e.line < f.line) :
    (ofEntries es).relationships.toList.Pairwise fun r s => r.line < s.line := by
  rw [relationships_ofEntries]
  exact (Entry.pairwise_line_relationships hes).sublist (firstsBy_sublist Relationship.key _)

/-- A name that is never defined is reported on the line of a recorded relationship. -/
lemma exists_relationship_of_mem_neverDefined {a : Architecture} {m : Mention}
    (h : m ∈ a.neverDefined) : ∃ r ∈ a.relationships.toList, r.line = m.line := by
  rw [neverDefined, firsts_eq_firstsBy] at h
  have hmention : m ∈ a.mentions :=
    List.mem_of_mem_filter (List.mem_of_mem_filter (mem_of_mem_firstsBy Mention.name h))
  obtain ⟨r, hr, hm⟩ := List.mem_flatMap.1 hmention
  obtain ⟨p, -, rfl⟩ := List.mem_map.1 hm
  exact ⟨r, hr, rfl⟩

/-- Names that are never defined are reported in the order of the lines. -/
lemma pairwise_line_neverDefined (hes : es.Pairwise fun e f => e.line < f.line) :
    (ofEntries es).neverDefined.Pairwise fun m n => m.line ≤ n.line := by
  rw [neverDefined_ofEntries]
  exact (Entry.pairwise_line_mentions hes).sublist
    ((firstsBy_sublist Mention.name _).trans List.filter_sublist)

end Architecture

namespace Validation

variable {options : Options} {content : Text}

/-- The issues of every document consist of these parts. -/
theorem issueLayout_ofDocument (options : Options) (content : Text) :
    ∃ outline statements undefined unused,
      IssueLayout options content (ofDocument options content) outline statements undefined
        unused := by
  have hes := Entry.pairwise_line_all options.nesting content
  have helements := Architecture.pairwise_line_elements_ofEntries hes
  refine ⟨Outline.issues content, Entry.allIssues {} (Entry.all options.nesting content),
    if options.crossReferences = true then
      (ofEntries (Entry.all options.nesting content)).neverDefined.map fun m =>
        (Finding.neverDefined m.name).issue m.line none else [],
    if options.crossReferences = true then
      (ofEntries (Entry.all options.nesting content)).unconnected.map fun x =>
        (Finding.unconnected x.kind x.name).issue x.line none else [],
    { issues_eq := ?_, length_outline_le := ?_, at_outline := ?_, at_statements := ?_,
      pairwise_statements := ?_, same_line := ?_, at_undefined := ?_, pairwise_undefined := ?_,
      at_unused := ?_, pairwise_unused := ?_, without_references := ?_ }⟩
  · rw [issues_ofDocument, Architecture.crossReferences]
    split_ifs <;> simp
  · rw [Outline.issues, List.length_map]
    exact Outline.length_findings_le content
  · intro i hi
    obtain ⟨f, -, rfl⟩ := List.mem_map.1 hi
    exact ⟨rfl, rfl⟩
  · exact fun i => Entry.exists_line_of_mem_allIssues
  · exact Entry.pairwise_line_allIssues hes
  · exact fun i => Entry.errorOrWarnings_filter_line hes
  · intro i hi
    obtain ⟨m, hm, rfl⟩ := List.mem_map.1 (List.mem_ite_nil_right.1 hi).2
    exact ⟨rfl, Architecture.exists_relationship_of_mem_neverDefined hm⟩
  · split_ifs
    · exact List.pairwise_map.2 (Architecture.pairwise_line_neverDefined hes)
    · exact List.Pairwise.nil
  · intro i hi
    obtain ⟨x, hx, rfl⟩ := List.mem_map.1 (List.mem_ite_nil_right.1 hi).2
    exact ⟨rfl, x, List.mem_of_mem_filter hx, rfl⟩
  · split_ifs
    · exact List.pairwise_map.2 (helements.filter _)
    · exact List.Pairwise.nil
  · intro hcross
    simp [hcross]

/-- No issue of a document is about the file as a whole. -/
lemma line_pos_of_mem_issues_ofDocument {i : Issue} (h : i ∈ (ofDocument options content).issues) :
    0 < i.line := by
  have hentry : ∀ e ∈ Entry.all options.nesting content, 0 < e.line := by
    intro e he
    obtain ⟨n, l, -, hn, -⟩ := Entry.exists_line_of_mem_all he
    omega
  rw [issues_ofDocument, List.mem_append, List.mem_append, List.mem_ite_nil_right] at h
  rcases h with (h | h) | ⟨-, h⟩
  · obtain ⟨f, -, rfl⟩ := List.mem_map.1 h
    exact Nat.zero_lt_one
  · obtain ⟨e, he, hline⟩ := Entry.exists_line_eq_of_mem_allIssues h
    exact hline ▸ hentry e he
  · obtain ⟨e, he, hline⟩ := Architecture.exists_line_eq_of_mem_crossReferences h
    exact hline ▸ hentry e he

/-- An issue is on line zero exactly if the document could not be read. -/
lemma exists_line_zero_iff (options : Options) (path : Text) (reading : Except ReadFailure Text) :
    (∃ i ∈ (ofReading options path reading).issues, i.line = 0) ↔ ∃ f, reading = .error f := by
  cases reading with
  | ok content =>
    constructor
    · rintro ⟨i, hi, hline⟩
      exact absurd hline (Nat.ne_of_gt (line_pos_of_mem_issues_ofDocument hi))
    · rintro ⟨f, hf⟩
      cases hf
  | error f =>
    constructor
    · rintro -
      exact ⟨f, rfl⟩
    · rintro -
      exact ⟨_, List.mem_singleton_self _, rfl⟩

/-- The issues of a document come in four parts, and each of them points to a line of the document:
what is wrong with the outline to the first line, what is wrong with statements to their lines, what
is found at the end of the document to the lines of what is recorded.  Elements and relationships are
recorded in the order of their lines.  So no issue is on line zero, unless the document could not be
read; then that is the only issue, and nothing is recorded. -/
theorem layout_ofDocument (options : Options) (content : Text) :
    (∃ outline statements undefined unused,
      IssueLayout options content (ofDocument options content) outline statements undefined
        unused) ∧
    (ofDocument options content).architecture.elements.toList.Pairwise
      (fun x y => x.line < y.line) ∧
    (ofDocument options content).architecture.relationships.toList.Pairwise
      (fun r s => r.line < s.line) ∧
    (∀ i ∈ (ofDocument options content).issues, i.line ≠ 0) ∧
    (∀ path (reading : Except ReadFailure Text),
      (∃ i ∈ (ofReading options path reading).issues, i.line = 0) ↔ ∃ f, reading = .error f) ∧
    ∀ path f,
      (ofReading options path (.error f)).issues = [⟨.error, 0, f.message path, none⟩] ∧
      (ofReading options path (.error f)).workspace = none ∧
      (ofReading options path (.error f)).architecture.elements = #[] ∧
      (ofReading options path (.error f)).architecture.relationships = #[] := by
  have hes := Entry.pairwise_line_all options.nesting content
  exact ⟨issueLayout_ofDocument options content,
    Architecture.pairwise_line_elements_ofEntries hes,
    Architecture.pairwise_line_relationships_ofEntries hes,
    fun i hi => Nat.ne_of_gt (line_pos_of_mem_issues_ofDocument hi),
    exists_line_zero_iff options, fun path f => ⟨rfl, rfl, rfl, rfl⟩⟩

/-- A document with issues in each of the four parts: no workspace and no views, a person without a
description and a destination that nothing declares, that destination once more, and an element
that nothing uses. -/
theorem layout_ofDocument_of_broken :
    let content := Text.unlines ["model \x7b".toList, "a = person".toList,
      "b = person \"B\"".toList, "b -> c".toList, "d = person \"D\"".toList, "\x7d".toList]
    let v := ofDocument ⟨.flat, true⟩ content
    v.issues.map (fun i => (i.severity, i.line))
      = [(.error, 1), (.warning, 1), (.error, 2), (.warning, 4), (.error, 4), (.info, 5)] ∧
    (∃ outline statements undefined unused,
      IssueLayout ⟨.flat, true⟩ content v outline statements undefined unused) ∧
    ∀ i ∈ v.issues, i.line ≠ 0 := by
  intro content v
  have hissues : v.issues.map (fun i => (i.severity, i.line))
      = [(.error, 1), (.warning, 1), (.error, 2), (.warning, 4), (.error, 4), (.info, 5)] := by
    decide +kernel
  obtain ⟨hlayout, -, -, hline, -⟩ := layout_ofDocument ⟨.flat, true⟩ content
  exact ⟨hissues, hlayout, hline⟩

end Validation

end C4Lint
