/-
# What further lines can change

A validation goes over the lines of a document once, and what it has found on them stays when more
lines follow.  The entries of the longer document begin with those of the shorter one, the issues of
entries are found one after another (`Entry.allIssues_append`), and an architecture only grows
(`Architecture.elements_prefix_foldl_record`, `Architecture.relationships_prefix_foldl_record`).  The
name of the workspace is the only thing that further lines can take back, and that takes another
declaration of a workspace.  The main statement is `Validation.ofDocument_append_newline`.  It is
about validations without the last checks, which look at the document as a whole.
-/
import C4Lint.Proofs.Architecture.References
import C4Lint.Proofs.Declaration.Form
import C4Lint.Proofs.Region.Nested
import C4Lint.Proofs.Statement.Append
import C4Lint.Proofs.Validation.Issues

namespace C4Lint

open Architecture (ofEntries)

/-! ### Entries -/

namespace Entry

variable {es fs : List Entry} {e f : Entry}

lemma ofStatements_append (nesting : Nesting) (k : Tracker) (ss ts : List Statement) :
    ofStatements nesting k (ss ++ ts)
      = ofStatements nesting k ss
        ++ ofStatements nesting (Tracker.after nesting k (ss.map Statement.text)) ts := by
  induction ss generalizing k with
  | nil => rfl
  | cons s ss ih =>
    rw [List.cons_append, ofStatements_cons, ih, ofStatements_cons, List.map_cons,
      Tracker.after_cons, List.cons_append]

/-- The entries of a document with more lines behind it: those of the document, and then the
statements on the further lines in the regions that they have there. -/
theorem all_append_newline (nesting : Nesting) (a b : Text) :
    all nesting (a ++ '\n' :: b)
      = all nesting a
        ++ ofStatements nesting (Tracker.after nesting {} ((Statement.all a).map Statement.text))
          ((Statement.all b).map (Statement.below (a.count '\n' + 1))) := by
  rw [all, Statement.all_append_newline, ofStatements_append, all]

/-! ### The name of the workspace -/

lemma workspace?_eq_of_text_eq (h : e.statement.text = f.statement.text) :
    e.workspace? = f.workspace? := by
  have hreading : ∀ name, e.reading = .declared (.workspace name) ↔
      f.reading = .declared (.workspace name) := by
    intro name
    rw [reading, reading, Reading.of_eq_workspace_iff, Reading.of_eq_workspace_iff, h]
  ext name
  rw [workspace?_eq_some_iff, workspace?_eq_some_iff, hreading]

/-- The names of the workspace are read off the statements, whatever their regions and lines. -/
lemma filterMap_workspace?_eq
    (h : es.map (fun e => e.statement.text) = fs.map fun e => e.statement.text) :
    es.filterMap workspace? = fs.filterMap workspace? := by
  induction es generalizing fs with
  | nil =>
    obtain rfl := List.map_eq_nil_iff.1 h.symm
    rfl
  | cons e es ih =>
    obtain ⟨f, fs, rfl, hf, hfs⟩ := List.map_eq_cons_iff.1 h.symm
    rw [List.filterMap_cons, List.filterMap_cons, workspace?_eq_of_text_eq hf, ih hfs.symm]

lemma map_text_ofStatements (nesting : Nesting) (k : Tracker) (ss : List Statement) :
    (ofStatements nesting k ss).map (fun e => e.statement.text) = ss.map Statement.text := by
  calc (ofStatements nesting k ss).map (fun e => e.statement.text)
      = ((ofStatements nesting k ss).map Entry.statement).map Statement.text := by
        rw [List.map_map]
        rfl
    _ = ss.map Statement.text := by rw [map_statement_ofStatements]

lemma workspaceName?_append (es fs : List Entry) :
    workspaceName? (es ++ fs) = (workspaceName? fs).or (workspaceName? es) := by
  rw [workspaceName?, List.filterMap_append, List.getLast?_append, workspaceName?, workspaceName?]

/-- The last name of the workspace is the last one on the further lines, if they name it. -/
theorem workspaceName?_all_append_newline (nesting : Nesting) (a b : Text) :
    workspaceName? (all nesting (a ++ '\n' :: b))
      = (workspaceName? (all nesting b)).or (workspaceName? (all nesting a)) := by
  rw [all_append_newline, workspaceName?_append]
  congr 1
  rw [workspaceName?, workspaceName?, filterMap_workspace?_eq]
  rw [map_text_ofStatements, all, map_text_ofStatements, List.map_map]
  rfl

/-- A document names the workspace in one of its statements, which would do so in every region. -/
lemma exists_statement_of_workspaceName? {nesting : Nesting} {content name : Text}
    (h : workspaceName? (all nesting content) = some name) :
    ∃ s ∈ Statement.all content, ∀ region,
      Reading.of region s.text = .declared (.workspace name) := by
  obtain ⟨e, he, hname⟩ := List.mem_filterMap.1 (List.mem_of_getLast? h)
  refine ⟨e.statement, statement_mem_all he, fun region => ?_⟩
  rw [workspace?_eq_some_iff, reading, Reading.of_eq_workspace_iff] at hname
  exact Reading.of_eq_workspace_iff.2 hname

end Entry

/-! ### Elements and relationships -/

namespace Architecture

/-- What an architecture holds stays at its front when entries are recorded. -/
lemma elements_prefix_foldl_record (a : Architecture) (es : List Entry) :
    a.elements.toList <+: (es.foldl record a).elements.toList := by
  rw [elements_foldl_record]
  exact List.prefix_append _ _

lemma relationships_prefix_foldl_record (a : Architecture) (es : List Entry) :
    a.relationships.toList <+: (es.foldl record a).relationships.toList := by
  rw [relationships_foldl_record]
  exact List.prefix_append _ _

lemma ofEntries_append (es fs : List Entry) :
    ofEntries (es ++ fs) = fs.foldl record (ofEntries es) := List.foldl_append

end Architecture

/-- Lines behind a document leave alone what is found on its own lines.  The issues of its statements
come first among those of the longer document, and so do its elements and relationships, with their
lines and all their parts.  The workspace has the name that the further lines give to it, if they do,
and otherwise the name that it had; so it is another name only if there is a statement on the further
lines that declares a workspace. -/
theorem Validation.ofDocument_append_newline (nesting : Nesting) (a b : Text) :
    (∃ issues more : List Issue,
      (ofDocument ⟨nesting, false⟩ a).issues = Outline.issues a ++ issues ∧
      (ofDocument ⟨nesting, false⟩ (a ++ '\n' :: b)).issues
        = Outline.issues (a ++ '\n' :: b) ++ (issues ++ more)) ∧
    (ofDocument ⟨nesting, false⟩ a).architecture.elements.toList
      <+: (ofDocument ⟨nesting, false⟩ (a ++ '\n' :: b)).architecture.elements.toList ∧
    (ofDocument ⟨nesting, false⟩ a).architecture.relationships.toList
      <+: (ofDocument ⟨nesting, false⟩ (a ++ '\n' :: b)).architecture.relationships.toList ∧
    (ofDocument ⟨nesting, false⟩ (a ++ '\n' :: b)).workspace
      = (ofDocument ⟨nesting, false⟩ b).workspace.or (ofDocument ⟨nesting, false⟩ a).workspace ∧
    ((ofDocument ⟨nesting, false⟩ (a ++ '\n' :: b)).workspace
        ≠ (ofDocument ⟨nesting, false⟩ a).workspace →
      ∃ s ∈ Statement.all b, ∃ name, ∀ region,
        Reading.of region s.text = .declared (.workspace name)) := by
  obtain ⟨more, hentries⟩ : ∃ more,
      Entry.all nesting (a ++ '\n' :: b) = Entry.all nesting a ++ more :=
    ⟨_, Entry.all_append_newline nesting a b⟩
  have hname := Entry.workspaceName?_all_append_newline nesting a b
  refine ⟨⟨Entry.allIssues {} (Entry.all nesting a),
    Entry.allIssues (ofEntries (Entry.all nesting a)) more, ?_, ?_⟩, ?_, ?_, hname, fun hne => ?_⟩
  · exact (issues_ofDocument ⟨nesting, false⟩ a).trans (List.append_nil _)
  · rw [issues_ofDocument, if_neg Bool.false_ne_true, List.append_nil, hentries,
      Entry.allIssues_append, ofEntries]
  · rw [ofDocument, ofDocument, hentries, Architecture.ofEntries_append]
    exact Architecture.elements_prefix_foldl_record _ _
  · rw [ofDocument, ofDocument, hentries, Architecture.ofEntries_append]
    exact Architecture.relationships_prefix_foldl_record _ _
  · cases hb : Entry.workspaceName? (Entry.all nesting b) with
    | none =>
      rw [hb, Option.none_or] at hname
      exact absurd hname hne
    | some name =>
      obtain ⟨s, hs, hread⟩ := Entry.exists_statement_of_workspaceName? hb
      exact ⟨s, hs, name, hread⟩

/-- A document that ends within its model, with a carriage return and without a line feed, and lines
that go on there and name the workspace once more.  The warning about `v` stays, although `v` is
declared on a further line. -/
theorem Validation.ofDocument_append_newline_renamed :
    let a := "workspace \"A\" \x7b\nmodel \x7b\nu = person \"U\"\nu -> v\r".toList
    let b := "v = person \"V\"\nworkspace \"B\" \x7b".toList
    (ofDocument ⟨.flat, false⟩ (a ++ '\n' :: b)).workspace ≠ (ofDocument ⟨.flat, false⟩ a).workspace ∧
    (∃ s ∈ Statement.all b, ∃ name, ∀ region,
      Reading.of region s.text = .declared (.workspace name)) ∧
    ∃ issues more : List Issue,
      (ofDocument ⟨.flat, false⟩ a).issues = Outline.issues a ++ issues ∧
      (ofDocument ⟨.flat, false⟩ (a ++ '\n' :: b)).issues
        = Outline.issues (a ++ '\n' :: b) ++ (issues ++ more) := by
  intro a b
  have hne : (ofDocument ⟨.flat, false⟩ (a ++ '\n' :: b)).workspace
      ≠ (ofDocument ⟨.flat, false⟩ a).workspace := by decide +kernel
  obtain ⟨hissues, -, -, -, hname⟩ := ofDocument_append_newline .flat a b
  exact ⟨hne, hname hne, hissues⟩

end C4Lint
