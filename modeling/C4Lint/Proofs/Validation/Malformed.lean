/-
# The issues about malformed statements

An issue says by its severity and its wording whether it is about the syntax of a statement, and of
which form the statement should be.  Those issues of a document are the ones of its malformed
entries, in the order of the entries, and no other part of a validation has issues like them.
-/
import C4Lint.Proofs.Validation.Issues

namespace C4Lint

/-- The line and the form of an issue that is about the syntax of a statement, as its severity and
its wording tell. -/
def Issue.syntaxError? (i : Issue) : Option (Nat × Form) :=
  if i.severity = .error then
    (Form.all.find? fun f => i.message = Finding.malformedMessage f).map fun f => (i.line, f)
  else none

/-- The line and the form of an entry that is malformed. -/
def Entry.malformation? (e : Entry) : Option (Nat × Form) :=
  match e.reading with
  | .malformed f => some (e.line, f)
  | _ => none

lemma Issue.syntaxError?_malformed (f : Form) (n : Nat) (c : Option Text) :
    ((Finding.malformed f).issue n c).syntaxError? = some (n, f) := by
  have hfind : Form.all.find? (fun g => Finding.malformedMessage f = Finding.malformedMessage g)
      = some f := by
    simp only [Finding.malformedMessage_injective.eq_iff]
    cases f with
    | element kind => cases kind <;> rfl
    | _ => rfl
  rw [syntaxError?, if_pos (show ((Finding.malformed f).issue n c).severity = .error from rfl)]
  exact congrArg (Option.map _) hfind

lemma Issue.syntaxError?_of_ne {g : Finding} (hg : ∀ f, g ≠ .malformed f) (n : Nat)
    (c : Option Text) : (g.issue n c).syntaxError? = none := by
  have hfind : Form.all.find? (fun f => g.message = Finding.malformedMessage f) = none := by
    refine List.find?_eq_none.2 fun f _ h => hg f (Finding.eq_malformed_of_message ?_)
    exact of_decide_eq_true h
  rw [syntaxError?, Finding.message_issue, hfind, Option.map_none, ite_self]

lemma Outline.filterMap_syntaxError?_issues (content : Text) :
    (issues content).filterMap Issue.syntaxError? = [] := by
  refine List.filterMap_eq_nil_iff.2 fun i hi => ?_
  obtain ⟨f, hf, rfl⟩ := List.mem_map.1 hi
  refine Issue.syntaxError?_of_ne ?_ _ _
  rintro g rfl
  simp [mem_findings] at hf

lemma Architecture.filterMap_syntaxError?_crossReferences (a : Architecture) :
    a.crossReferences.filterMap Issue.syntaxError? = [] := by
  refine List.filterMap_eq_nil_iff.2 fun i hi => ?_
  rcases List.mem_append.1 hi with hi | hi
  · obtain ⟨m, -, rfl⟩ := List.mem_map.1 hi
    exact Issue.syntaxError?_of_ne (by simp) _ _
  · obtain ⟨x, -, rfl⟩ := List.mem_map.1 hi
    exact Issue.syntaxError?_of_ne (by simp) _ _

namespace Entry

lemma malformation?_of_malformed {e : Entry} {f : Form} (h : e.reading = .malformed f) :
    e.malformation? = some (e.line, f) := by
  rw [malformation?, h]

lemma malformation?_of_ne {e : Entry} (h : ∀ f, e.reading ≠ .malformed f) :
    e.malformation? = none := by
  rw [malformation?]
  split
  · next f hf => exact absurd hf (h f)
  · rfl

lemma filterMap_syntaxError?_issues (known : Architecture) (e : Entry) :
    (e.issues known).filterMap Issue.syntaxError? = e.malformation?.toList := by
  by_cases hm : ∃ f, e.reading = .malformed f
  · obtain ⟨f, hf⟩ := hm
    rw [issues_of_malformed hf, malformation?_of_malformed hf, List.filterMap_cons,
      Issue.syntaxError?_malformed, List.filterMap_nil, Option.toList_some]
  · rw [not_exists] at hm
    rw [malformation?_of_ne hm, Option.toList_none]
    refine List.filterMap_eq_nil_iff.2 fun i hi => ?_
    rcases mem_issues_iff.1 hi with ⟨f, hf, -⟩ | ⟨r, p, -, -, rfl⟩
    · exact absurd hf (hm f)
    · exact Issue.syntaxError?_of_ne (by simp) _ _

lemma filterMap_syntaxError?_allIssues (known : Architecture) (es : List Entry) :
    (allIssues known es).filterMap Issue.syntaxError? = es.filterMap malformation? := by
  induction es generalizing known with
  | nil => rfl
  | cons e es ih =>
    rw [allIssues, List.filterMap_append, ih, filterMap_syntaxError?_issues, List.filterMap_cons]
    cases e.malformation? <;> rfl

end Entry

/-- The issues about syntax are those of the malformed entries. -/
theorem Validation.filterMap_syntaxError?_issues (options : Options) (content : Text) :
    (ofDocument options content).issues.filterMap Issue.syntaxError?
      = (Entry.all options.nesting content).filterMap Entry.malformation? := by
  rw [issues_ofDocument, List.filterMap_append, List.filterMap_append,
    Outline.filterMap_syntaxError?_issues, Entry.filterMap_syntaxError?_allIssues,
    apply_ite (List.filterMap _), Architecture.filterMap_syntaxError?_crossReferences,
    List.filterMap_nil, ite_self, List.nil_append, List.append_nil]

end C4Lint
