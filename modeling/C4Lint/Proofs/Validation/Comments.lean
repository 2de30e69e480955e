/-
# Comments say nothing

A validation takes no notice of comments, apart from the outline, which is looked for in the text as
it is.  If all comments are dropped, then the statements stay in their regions and come to the same,
what is recorded is the same, and so are the issues, on the same lines and in the same words.  Only
the contexts of issues show less.  The main statement is `Validation.ofDocument_withoutComments`.

Nor does it matter what a comment says: documents whose lines are the same without comments have the
same entries, the same architecture, and the same issues beyond the outline
(`Validation.ofDocument_of_map_stripComment_eq`).
-/
import C4Lint.Proofs.Statement.Comment
import C4Lint.Proofs.Validation.Issues

namespace C4Lint

open Architecture (relationshipOf? ofEntries)
open Statement (stripComment withoutComments)

/-- The issue with the comment dropped from its context. -/
def Issue.withoutComment (i : Issue) : Issue := { i with context := i.context.map stripComment }

namespace Entry

/-- The entry with the comment dropped from the source of its statement. -/
def withoutComment (e : Entry) : Entry := { e with statement := e.statement.withoutComment }

/-! ### One entry

The text of a statement and its region say what an entry comes to, and both stay. -/

lemma reading_withoutComment (e : Entry) : e.withoutComment.reading = e.reading := rfl

lemma relationshipOf?_withoutComment (e : Entry) :
    relationshipOf? e.withoutComment = relationshipOf? e := rfl

lemma record_withoutComment (a : Architecture) (e : Entry) :
    a.record e.withoutComment = a.record e := rfl

lemma issues_withoutComment (known : Architecture) (e : Entry) :
    e.withoutComment.issues known = (e.issues known).map Issue.withoutComment := by
  by_cases hm : ∃ f, e.reading = .malformed f
  · obtain ⟨f, hf⟩ := hm
    rw [issues_of_malformed hf, issues_of_malformed (e.reading_withoutComment.trans hf)]
    rfl
  · simp only [not_exists] at hm
    have hm' : ∀ f, e.withoutComment.reading ≠ .malformed f := hm
    have hkept := e.relationshipOf?_withoutComment
    cases hr : relationshipOf? e with
    | none =>
      rw [issues_of_relationshipOf?_eq_none hm hr,
        issues_of_relationshipOf?_eq_none hm' (hkept.trans hr), List.map_nil]
    | some r =>
      rw [issues_of_relationshipOf? hr, issues_of_relationshipOf? (hkept.trans hr), List.map_map]
      rfl

/-! ### All entries -/

lemma ofStatements_withoutComment (nesting : Nesting) (k : Tracker) (ss : List Statement) :
    ofStatements nesting k (ss.map Statement.withoutComment)
      = (ofStatements nesting k ss).map withoutComment := by
  induction ss generalizing k with
  | nil => rfl
  | cons s ss ih =>
    rw [List.map_cons, ofStatements_cons, ofStatements_cons, List.map_cons, ← ih]
    rfl

/-- Without its comments, a document has the same entries. -/
theorem all_withoutComments (nesting : Nesting) (content : Text) :
    all nesting (withoutComments content) = (all nesting content).map withoutComment := by
  rw [all, Statement.all_withoutComments, ofStatements_withoutComment, all]

/-- Documents whose lines are the same without comments have the same entries. -/
theorem map_withoutComment_all (nesting : Nesting) {a b : Text}
    (h : (Text.lines a).map stripComment = (Text.lines b).map stripComment) :
    (all nesting a).map withoutComment = (all nesting b).map withoutComment := by
  rw [all, all, ← ofStatements_withoutComment, ← ofStatements_withoutComment,
    Statement.map_withoutComment_all h]

lemma workspaceName?_withoutComment (es : List Entry) :
    workspaceName? (es.map withoutComment) = workspaceName? es := by
  rw [workspaceName?, workspaceName?, List.filterMap_map]
  rfl

lemma ofEntries_withoutComment (es : List Entry) :
    ofEntries (es.map withoutComment) = ofEntries es := by
  rw [ofEntries, ofEntries, List.foldl_map]
  rfl

lemma allIssues_withoutComment (known : Architecture) (es : List Entry) :
    allIssues known (es.map withoutComment) = (allIssues known es).map Issue.withoutComment := by
  induction es generalizing known with
  | nil => rfl
  | cons e es ih =>
    rw [List.map_cons, allIssues, allIssues, List.map_append, issues_withoutComment,
      record_withoutComment, ih]

end Entry

/-- The last checks show no lines. -/
lemma Architecture.crossReferences_withoutComment (a : Architecture) :
    a.crossReferences.map Issue.withoutComment = a.crossReferences := by
  rw [crossReferences, List.map_append, List.map_map, List.map_map]
  rfl

namespace Validation

/-- What is found beyond the outline is found without comments too. -/
lemma issues_map_withoutComment (options : Options) (es : List Entry) :
    (Entry.allIssues {} es ++ if options.crossReferences = true then
        (ofEntries es).crossReferences else []).map Issue.withoutComment
      = Entry.allIssues {} (es.map Entry.withoutComment) ++ if options.crossReferences = true then
        (ofEntries (es.map Entry.withoutComment)).crossReferences else [] := by
  rw [List.map_append, Entry.allIssues_withoutComment, Entry.ofEntries_withoutComment]
  split_ifs
  · rw [Architecture.crossReferences_withoutComment]
  · rfl

end Validation

/-- Dropping the comment of a line twice is dropping it once.  If it is done on every line, then the
statements, which keep their texts, stay in their regions, and the workspace, the elements, the
relationships and all issues beyond those of the outline stay the same, save that contexts lose
their comments. -/
theorem Validation.ofDocument_withoutComments (options : Options) (content : Text) :
    (∀ l, stripComment (stripComment l) = stripComment l) ∧
    Entry.all options.nesting (withoutComments content)
      = (Entry.all options.nesting content).map (fun e =>
          ⟨⟨e.line, e.statement.text, stripComment e.statement.source⟩, e.region⟩) ∧
    (ofDocument options (withoutComments content)).workspace
      = (ofDocument options content).workspace ∧
    (ofDocument options (withoutComments content)).architecture
      = (ofDocument options content).architecture ∧
    ∃ issues : List Issue,
      (ofDocument options content).issues = Outline.issues content ++ issues ∧
      (ofDocument options (withoutComments content)).issues
        = Outline.issues (withoutComments content)
          ++ issues.map (fun i => ⟨i.severity, i.line, i.message, i.context.map stripComment⟩) := by
  have hentries := Entry.all_withoutComments options.nesting content
  refine ⟨Statement.stripComment_stripComment, hentries, ?_, ?_, _,
    (issues_ofDocument options content).trans (List.append_assoc ..), ?_⟩
  · rw [ofDocument, ofDocument, hentries]
    exact Entry.workspaceName?_withoutComment _
  · rw [ofDocument, ofDocument, hentries]
    exact Entry.ofEntries_withoutComment _
  · rw [issues_ofDocument, hentries, List.append_assoc]
    exact congrArg _ (issues_map_withoutComment options _).symm

/-- What a comment says never matters.  If the lines of two documents are the same without comments,
then the documents have the same entries, save for the comments in their sources, the same workspace,
elements and relationships, and beyond the outline the same issues, save for the comments in their
contexts. -/
theorem Validation.ofDocument_of_map_stripComment_eq (options : Options) {a b : Text}
    (h : (Text.lines a).map stripComment = (Text.lines b).map stripComment) :
    (Entry.all options.nesting a).map Entry.withoutComment
      = (Entry.all options.nesting b).map Entry.withoutComment ∧
    (ofDocument options a).workspace = (ofDocument options b).workspace ∧
    (ofDocument options a).architecture = (ofDocument options b).architecture ∧
    ∃ issues issues' : List Issue,
      (ofDocument options a).issues = Outline.issues a ++ issues ∧
      (ofDocument options b).issues = Outline.issues b ++ issues' ∧
      issues.map Issue.withoutComment = issues'.map Issue.withoutComment := by
  have hentries := Entry.map_withoutComment_all options.nesting h
  refine ⟨hentries, ?_, ?_, _, _, (issues_ofDocument options a).trans (List.append_assoc ..),
    (issues_ofDocument options b).trans (List.append_assoc ..), ?_⟩
  · rw [ofDocument, ofDocument, ← Entry.workspaceName?_withoutComment, hentries,
      Entry.workspaceName?_withoutComment]
  · rw [ofDocument, ofDocument, ← Entry.ofEntries_withoutComment, hentries,
      Entry.ofEntries_withoutComment]
  · rw [issues_map_withoutComment, hentries, issues_map_withoutComment]

end C4Lint
