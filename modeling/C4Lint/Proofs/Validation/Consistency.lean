/-
# The outline checks and the statements do not contradict each other

What a document lacks is found out by a search of its whole text, and what it holds by reading its
statements one after another.  Neither knows of the other, but a statement stands in the text as it
is written.  So a workspace that a statement declares is found by the search as well
(`Outline.declaresWorkspace_of_workspace?`), and so is the section of a statement that has been
taken for a declaration, whether it follows its grammar or not (`Outline.opens_of_form?`).  The main
statement is `Validation.outline_consistent`.
-/
import C4Lint.Proofs.Declaration.Characters
import C4Lint.Proofs.Declaration.Dispatch
import C4Lint.Proofs.Region.Opening
import C4Lint.Proofs.Validation.Issues

namespace C4Lint

open Architecture (elementOf? relationshipOf?)

variable {options : Options} {nesting : Nesting} {content : Text} {f : Form} {e : Entry}

/-! ### The form of a reading -/

/-- The form that a statement is meant to have, whether it follows the grammar or not. -/
def Reading.form? : Reading → Option Form
  | declared d => some d.form
  | malformed f => some f
  | ignored => none

lemma Reading.form?_of (region : Region) (t : Text) :
    (Reading.of region t).form? = Form.of? region t := by
  rw [Reading.of]
  cases Form.of? region t with
  | none => rfl
  | some f =>
    cases hd : f.read? t with
    | none => simp [hd, form?]
    | some d => simp [hd, form?, Form.form_of_read? hd]

namespace Entry

/-- A statement is meant to have a form only where its region admits that form. -/
lemma admittedIn_of_form? (h : e.reading.form? = some f) : f.admittedIn e.region = true := by
  rw [reading, Reading.form?_of] at h
  exact (Form.claims_of_of? h).1

lemma form?_of_elementOf? {x : Element} (h : elementOf? e = some x) :
    ∃ kind, e.reading.form? = some (.element kind) := by
  obtain ⟨kind, _, _, _, _, hreading, -⟩ := elementOf?_eq_some_iff.1 h
  exact ⟨kind, by rw [hreading]; rfl⟩

lemma form?_of_relationshipOf? {r : Relationship} (h : relationshipOf? e = some r) :
    e.reading.form? = some .relationship := by
  obtain ⟨_, _, _, hreading, -⟩ := relationshipOf?_eq_some_iff.1 h
  rw [hreading]
  rfl

lemma form?_of_malformed (h : e.reading = .malformed f) : e.reading.form? = some f := by
  rw [h]
  rfl

end Entry

/-! ### What the outline checks find -/

namespace Outline

/-- A declaration of a workspace is found in every text around it. -/
lemma DeclaresWorkspace.append {t : Text} (h : DeclaresWorkspace t) (u v : Text) :
    DeclaresWorkspace (u ++ t ++ v) := by
  obtain ⟨before, space, name, gap, after, hne, hspace, hname, hchars, hgap, rfl⟩ := h
  exact ⟨u ++ before, space, name, gap, after ++ v, hne, hspace, hname, hchars, hgap, by simp⟩

/-- A statement that declares a workspace looks like that to the outline check too. -/
lemma declaresWorkspace_of_read? {t : Text} {d : Declaration} (hline : '\n' ∉ t)
    (h : Form.read? .workspace t = some d) : DeclaresWorkspace t := by
  obtain ⟨gap, _, name, _, gap', rest, -, rfl, ⟨space, hne, hspace, hquote, rfl⟩, hname, hgap', rfl,
    -⟩ := Declaration.workspace?_scan_eq_some_iff.1 h
  refine ⟨gap, space, name, gap', rest, hne, hspace, hname, fun c hc => ⟨?_, ?_⟩, hgap', by simp⟩
  · rintro rfl
    exact hquote hc
  · rintro rfl
    exact hline (by simp [hc])

/-- A workspace that a statement declares is found in the document. -/
theorem declaresWorkspace_of_workspace? (he : e ∈ Entry.all nesting content) {name : Text}
    (h : e.workspace? = some name) : DeclaresWorkspace content := by
  rw [Entry.workspace?_eq_some_iff, Entry.reading, Reading.of_eq_workspace_iff] at h
  have hs := Entry.statement_mem_all he
  obtain ⟨u, v, hcontent⟩ := Statement.exists_append_of_mem_all hs
  rw [hcontent]
  exact (declaresWorkspace_of_read? (Statement.newline_not_mem_of_mem_all hs) h.2).append u v

/-- If a statement is meant to have a form that only one section admits, then that section is found
in the document. -/
theorem opens_of_form? (he : e ∈ Entry.all nesting content) (hf : e.reading.form? = some f)
    {r : Region} (hr : r ≠ .outside) (honly : f.admittedIn = fun region => decide (region = r)) :
    Opens r.keyword content := by
  have hadmitted := Entry.admittedIn_of_form? hf
  rw [honly, decide_eq_true_eq] at hadmitted
  subst hadmitted
  exact opens_of_mem_all he hr

end Outline

/-! ### The issues -/

namespace Validation

/-- One of the issues is worded like the finding. -/
def Says (v : Validation) (f : Finding) : Prop := ∃ i ∈ v.issues, i.message = f.message

lemma exists_issue_eq_of_mem_issues {i : Issue} (h : i ∈ (ofDocument options content).issues) :
    ∃ (f : Finding) (n : Nat) (c : Option Text), f.issue n c = i := by
  rcases mem_issues_ofDocument_iff.1 h with ⟨_, -, rfl⟩ | ⟨_, -, _, -, rfl⟩ |
    ⟨_, -, _, _, -, -, -, rfl⟩ | ⟨-, ⟨_, -, rfl⟩ | ⟨_, -, rfl⟩⟩
  all_goals exact ⟨_, _, _, rfl⟩

/-- A document says something that has a wording of its own by that very finding. -/
lemma says_iff {g : Finding} (hg : ∀ f : Finding, f.message = g.message → f = g) :
    (ofDocument options content).Says g ↔
      ∃ n c, g.issue n c ∈ (ofDocument options content).issues := by
  constructor
  · rintro ⟨i, hi, hmessage⟩
    obtain ⟨f, n, c, rfl⟩ := exists_issue_eq_of_mem_issues hi
    obtain rfl := hg f hmessage
    exact ⟨n, c, hi⟩
  · rintro ⟨n, c, hi⟩
    exact ⟨_, hi, rfl⟩

lemma says_malformed_iff :
    (ofDocument options content).Says (.malformed f) ↔
      ∃ e ∈ Entry.all options.nesting content, e.reading = .malformed f := by
  rw [says_iff fun _ => Finding.eq_malformed_of_message]
  simp only [malformed_issue_mem_iff]
  constructor
  · rintro ⟨_, _, e, he, hreading, -, -⟩
    exact ⟨e, he, hreading⟩
  · rintro ⟨e, he, hreading⟩
    exact ⟨_, _, e, he, hreading, rfl, rfl⟩

/-- That something is missing is said by the outline checks only. -/
lemma mem_findings_of_says {g : Finding} (hg : g.lead = ['M', 'i', 's'])
    (h : (ofDocument options content).Says g) : g ∈ Outline.findings content := by
  have hown : ∀ f : Finding, f.message = g.message → f = g := fun _ =>
    Finding.eq_of_message_of_lead hg
  obtain ⟨n, c, hi⟩ := (says_iff hown).1 h
  simp only [mem_issues_ofDocument_iff, Finding.issue_eq_issue_iff hown] at hi
  rcases hi with ⟨_, hf, rfl, -⟩ | ⟨_, _, _, _, rfl, -⟩ | ⟨_, _, _, p, _, _, _, rfl, -⟩ |
    ⟨-, ⟨_, _, rfl, -⟩ | ⟨x, _, rfl, -⟩⟩
  · exact hf
  · simp [Finding.lead] at hg
  · cases p <;> simp [Finding.lead] at hg
  · simp [Finding.lead] at hg
  · cases hk : x.kind <;> simp [hk, Finding.lead] at hg

/-! ### The documents -/

/-- A document that records an element or a relationship opens a model section, and so does one with
a statement that is malformed as one of them. -/
lemma opens_model
    (h : (ofDocument options content).architecture.elements ≠ #[] ∨
      (ofDocument options content).architecture.relationships ≠ #[] ∨
      (∃ kind, (ofDocument options content).Says (.malformed (.element kind))) ∨
      (ofDocument options content).Says (.malformed .relationship)) :
    Outline.Opens "model".toList content := by
  rcases h with h | h | ⟨kind, h⟩ | h
  · rw [ne_eq, ← Array.toList_eq_nil_iff] at h
    obtain ⟨x, hx⟩ := List.exists_mem_of_ne_nil _ h
    rw [ofDocument, Architecture.elements_ofEntries] at hx
    obtain ⟨e, he, hex⟩ := Entry.mem_elements.1 (mem_of_mem_firstsBy _ hx)
    obtain ⟨kind, hf⟩ := Entry.form?_of_elementOf? hex
    exact Outline.opens_of_form? he hf (r := .model) (by decide) rfl
  · rw [ne_eq, ← Array.toList_eq_nil_iff] at h
    obtain ⟨r, hr⟩ := List.exists_mem_of_ne_nil _ h
    rw [ofDocument, Architecture.relationships_ofEntries] at hr
    obtain ⟨e, he, her⟩ := Entry.mem_relationships.1 (mem_of_mem_firstsBy _ hr)
    have hf := Entry.form?_of_relationshipOf? her
    exact Outline.opens_of_form? he hf (r := .model) (by decide) rfl
  · obtain ⟨e, he, hreading⟩ := says_malformed_iff.1 h
    have hf := Entry.form?_of_malformed hreading
    exact Outline.opens_of_form? he hf (r := .model) (by decide) rfl
  · obtain ⟨e, he, hreading⟩ := says_malformed_iff.1 h
    have hf := Entry.form?_of_malformed hreading
    exact Outline.opens_of_form? he hf (r := .model) (by decide) rfl

/-- A document with a statement that is malformed as a view or as styles opens a views section. -/
lemma opens_views
    (h : (ofDocument options content).Says (.malformed .view) ∨
      (ofDocument options content).Says (.malformed .styles)) :
    Outline.Opens "views".toList content := by
  rcases h with h | h
  all_goals
    obtain ⟨e, he, hreading⟩ := says_malformed_iff.1 h
    have hf := Entry.form?_of_malformed hreading
    exact Outline.opens_of_form? he hf (r := .views) (by decide) rfl

/-- Nothing is reported missing that the statements have.  If the workspace has a name, its
declaration is not missing; if there are elements or relationships, recorded or malformed, the model
section is not missing; and if there are malformed views or styles, the views section is not. -/
theorem outline_consistent (options : Options) (content : Text) :
    let v := ofDocument options content
    (v.workspace ≠ none → ¬v.Says .missingWorkspace) ∧
    (v.architecture.elements ≠ #[] ∨ v.architecture.relationships ≠ #[] ∨
        (∃ kind, v.Says (.malformed (.element kind))) ∨ v.Says (.malformed .relationship) →
      ¬v.Says .missingModel) ∧
    (v.Says (.malformed .view) ∨ v.Says (.malformed .styles) → ¬v.Says .missingViews) := by
  intro v
  refine ⟨fun h hsays => ?_, fun h hsays => ?_, fun h hsays => ?_⟩
  · obtain ⟨name, hname⟩ := Option.ne_none_iff_exists'.1 h
    obtain ⟨e, he, hworkspace⟩ := List.mem_filterMap.1 (List.mem_of_getLast? hname)
    have hfinding := mem_findings_of_says rfl hsays
    simp only [Outline.mem_findings, reduceCtorEq, false_and, or_false, true_and] at hfinding
    exact hfinding (Outline.declaresWorkspace_of_workspace? he hworkspace)
  · have hfinding := mem_findings_of_says rfl hsays
    simp only [Outline.mem_findings, reduceCtorEq, false_and, or_false, false_or, true_and]
      at hfinding
    exact hfinding (opens_model h)
  · have hfinding := mem_findings_of_says rfl hsays
    simp only [Outline.mem_findings, reduceCtorEq, false_and, or_false, false_or, true_and]
      at hfinding
    exact hfinding (opens_views h)

/-- Sections that are never closed, with nothing well-formed in them but a relationship, and a
workspace that is declared inside one of them. -/
theorem outline_consistent_crowded :
    let v := ofDocument {} (Text.unlines ["model \x7b".toList, "a = person # no description".toList,
      "a -> b".toList, "views \x7b".toList, "workspace\t\"w\"\x7b // c".toList,
      "container".toList])
    (v.workspace ≠ none ∧ ¬v.Says .missingWorkspace) ∧
    (v.Says (.malformed (.element .person)) ∧ ¬v.Says .missingModel) ∧
    (v.Says (.malformed .view) ∧ ¬v.Says .missingViews) := by
  intro v
  obtain ⟨hworkspace, hmodel, hviews⟩ := outline_consistent {} _
  have hnamed : v.workspace ≠ none := by decide +kernel
  have hperson : v.Says (.malformed (.element .person)) :=
    says_malformed_iff.2 (by decide +kernel)
  have hview : v.Says (.malformed .view) := says_malformed_iff.2 (by decide +kernel)
  exact ⟨⟨hnamed, hworkspace hnamed⟩, ⟨hperson, hmodel (Or.inr (Or.inr (Or.inl ⟨_, hperson⟩)))⟩,
    hview, hviews (Or.inl hview)⟩

end Validation

end C4Lint
