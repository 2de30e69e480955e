/-
# The two checks of references agree

References are checked twice: at each relationship against what is known by then, and at the end of
the document against everything.  The first check knows the names so far, the second only the first
relationship of each key, and yet they tell the same story.  What the second check reports was
warned of on the same line and not before; what the first check warns of is either declared on a
later line or reported once, on the same line or before.  This is `referenceChecks_agree`.
-/
import C4Lint.Proofs.Validation.Issues

namespace C4Lint

namespace Validation

/-- A warning on line `n` says that the name is used before it is defined. -/
def WarnsOf (v : Validation) (name : Text) (n : Nat) : Prop :=
  ∃ p c, (Finding.undefinedBeforeUse p name).issue n c ∈ v.issues

/-- An error on line `n` says that the name is never defined. -/
def Reports (v : Validation) (name : Text) (n : Nat) : Prop :=
  ∃ c, (Finding.neverDefined name).issue n c ∈ v.issues

/-- Whether an issue is an error that says that the name is never defined. -/
def isReportOf (name : Text) (i : Issue) : Bool :=
  i.severity = .error ∧ i.message = (Finding.neverDefined name).message

/-- The errors that say that the name is never defined. -/
def reportsOf (v : Validation) (name : Text) : List Issue := v.issues.filter (isReportOf name)

variable {nesting : Nesting} {content : Text}

/-! ### The issues about names -/

lemma warnsOf_iff {options : Options} {name : Text} {n : Nat} :
    (ofDocument options content).WarnsOf name n ↔
      (⟨name, n⟩ : Mention) ∈ Entry.mentions (Entry.all options.nesting content) ∧
      isExternal name = false ∧
      ¬Entry.DeclaresBefore (Entry.all options.nesting content) n name := by
  simp only [WarnsOf, mem_issues_ofDocument_iff, Finding.issue_eq_undefinedBeforeUse_iff]
  constructor
  · rintro ⟨p, c, ⟨f, hf, rfl, -⟩ | ⟨_, _, _, _, hf, -⟩ | ⟨e, he, r, q, hr, hext, hdecl, hf, rfl, -⟩ |
      ⟨-, ⟨_, _, hf, -⟩ | ⟨_, _, hf, -⟩⟩⟩
    · simp [Outline.mem_findings] at hf
    · exact absurd hf (by simp)
    · obtain ⟨rfl, rfl⟩ := (Finding.undefinedBeforeUse.injEq ..).mp hf
      exact ⟨Entry.mem_mentions.2 ⟨r, Entry.mem_relationships.2 ⟨e, he, hr⟩, q, rfl,
        Entry.line_of_relationshipOf? hr⟩, hext, hdecl⟩
    all_goals exact absurd hf (by simp)
  · rintro ⟨hm, hext, hdecl⟩
    obtain ⟨r, hr, p, rfl, rfl⟩ := Entry.mem_mentions.1 hm
    obtain ⟨e, he, hre⟩ := Entry.mem_relationships.1 hr
    rw [Entry.line_of_relationshipOf? hre] at hdecl ⊢
    exact ⟨p, some e.statement.source,
      Or.inr (Or.inr (Or.inl ⟨e, he, r, p, hre, hext, hdecl, rfl, rfl, rfl⟩))⟩

lemma isReportOf_issue {f : Finding} {name : Text} {n : Nat} {c : Option Text} :
    isReportOf name (f.issue n c) = true ↔ f = .neverDefined name := by
  rw [isReportOf, decide_eq_true_eq]
  constructor
  · rintro ⟨-, h⟩
    exact Finding.eq_neverDefined_of_message h
  · rintro rfl
    exact ⟨rfl, rfl⟩

/-- The errors about a name are those at its first mention, if it has one and is never defined. -/
lemma reportsOf_eq (nesting : Nesting) (content : Text) (name : Text) :
    (ofDocument ⟨nesting, true⟩ content).reportsOf name
      = ((Entry.undeclaredMentions (Entry.all nesting content)).filter
          fun m => m.name = name).map fun m => (Finding.neverDefined m.name).issue m.line none := by
  have houtline : (Outline.issues content).filter (isReportOf name) = [] := by
    rw [List.filter_eq_nil_iff]
    intro i hi
    obtain ⟨f, hf, rfl⟩ := List.mem_map.1 hi
    rw [isReportOf_issue]
    rintro rfl
    simp [Outline.mem_findings] at hf
  have hline : (Entry.allIssues {} (Entry.all nesting content)).filter (isReportOf name) = [] := by
    rw [List.filter_eq_nil_iff]
    intro i hi
    rcases (Entry.mem_allIssues_iff (Entry.pairwise_line_all nesting content)).1 hi with
      ⟨e, -, f, -, rfl⟩ | ⟨e, -, r, p, -, -, -, rfl⟩ <;> simp [isReportOf_issue]
  have hunused : ((Entry.unusedElements (Entry.all nesting content)).map fun x =>
      (Finding.unconnected x.kind x.name).issue x.line none).filter (isReportOf name) = [] := by
    rw [List.filter_eq_nil_iff]
    intro i hi
    obtain ⟨x, -, rfl⟩ := List.mem_map.1 hi
    simp [isReportOf_issue]
  rw [reportsOf, issues_ofDocument, if_pos rfl, Architecture.crossReferences_ofEntries,
    List.filter_append, List.filter_append, List.filter_append, houtline, hline, hunused,
    List.nil_append, List.nil_append, List.append_nil, List.filter_map]
  congr 1
  refine List.filter_congr fun m _ => ?_
  rw [Bool.eq_iff_iff, Function.comp_apply, isReportOf_issue, decide_eq_true_eq,
    Finding.neverDefined.injEq]

lemma reports_iff {name : Text} {n : Nat} :
    (ofDocument ⟨nesting, true⟩ content).Reports name n ↔
      (⟨name, n⟩ : Mention) ∈ Entry.undeclaredMentions (Entry.all nesting content) := by
  have hmem : ∀ c, (Finding.neverDefined name).issue n c
        ∈ (ofDocument ⟨nesting, true⟩ content).issues ↔
      (Finding.neverDefined name).issue n c
        ∈ (ofDocument ⟨nesting, true⟩ content).reportsOf name := by
    intro c
    rw [reportsOf, List.mem_filter, isReportOf_issue, eq_self, and_true]
  simp only [Reports, hmem, reportsOf_eq, List.mem_map, List.mem_filter, decide_eq_true_eq]
  constructor
  · rintro ⟨c, m, ⟨hm, rfl⟩, hi⟩
    obtain ⟨-, rfl, -⟩ := Finding.issue_eq_neverDefined_iff.1 hi
    exact hm
  · intro hm
    exact ⟨none, _, ⟨hm, rfl⟩, rfl⟩

/-! ### The agreement -/

/-- A name that is never defined has one error, on the line of its first mention. -/
lemma reportsOf_eq_singleton {m : Mention}
    (hm : m ∈ Entry.undeclaredMentions (Entry.all nesting content)) :
    (ofDocument ⟨nesting, true⟩ content).reportsOf m.name
      = [(Finding.neverDefined m.name).issue m.line none] := by
  have hnodup : ((Entry.undeclaredMentions (Entry.all nesting content)).map Mention.name).Nodup :=
    nodup_map_firstsBy Mention.name _
  rw [reportsOf_eq, filter_key_eq_singleton Mention.name hnodup hm, List.map_singleton]

/-- If references are checked at the end as well, then each error about a name goes with a warning
on its line, which is the first warning about the name, and for each warning about a name either an
element of that name is recorded on a later line and there is no error, or no element of that name
is recorded and there is exactly one error, on the line of the warning or before. -/
theorem referenceChecks_agree (nesting : Nesting) (content : Text) :
    (∀ name n, (ofDocument ⟨nesting, true⟩ content).Reports name n →
      (ofDocument ⟨nesting, true⟩ content).WarnsOf name n ∧
      ∀ m < n, ¬(ofDocument ⟨nesting, true⟩ content).WarnsOf name m) ∧
    ∀ name n, (ofDocument ⟨nesting, true⟩ content).WarnsOf name n →
      ((∃ x ∈ (ofDocument ⟨nesting, true⟩ content).architecture.elements,
          x.name = name ∧ n < x.line) ∧
        ∀ m, ¬(ofDocument ⟨nesting, true⟩ content).Reports name m) ∨
      ((∀ x ∈ (ofDocument ⟨nesting, true⟩ content).architecture.elements, x.name ≠ name) ∧
        ∃ m ≤ n, (ofDocument ⟨nesting, true⟩ content).reportsOf name
          = [(Finding.neverDefined name).issue m none]) := by
  have hes := Entry.pairwise_line_all nesting content
  have helements : ∀ x, x ∈ (ofDocument ⟨nesting, true⟩ content).architecture.elements ↔
      x ∈ firstsBy Element.name (Entry.elements (Entry.all nesting content)) := by
    intro x
    rw [← Architecture.elements_ofEntries, Array.mem_toList_iff]
    rfl
  simp only [reports_iff, warnsOf_iff, helements]
  constructor
  · -- what no entry declares is not declared before a line either, so it is warned of
    intro name n hreport
    obtain ⟨hmention, hext, hdecl⟩ := Entry.mem_mentions_of_mem_undeclaredMentions hreport
    refine ⟨⟨hmention, hext, fun h => hdecl h.declares⟩, ?_⟩
    rintro m hmn ⟨hearlier, -⟩
    have hle : n ≤ m := Entry.line_le_of_mem_undeclaredMentions hes hreport hearlier rfl
    omega
  · rintro name n ⟨hmention, hext, hbefore⟩
    by_cases hdecl : Entry.Declares (Entry.all nesting content) name
    · refine Or.inl ⟨?_, fun m hm => ?_⟩
      · exact Entry.exists_declared_after hes hmention hdecl hbefore
      · exact (Entry.mem_mentions_of_mem_undeclaredMentions hm).2.2 hdecl
    · refine Or.inr ⟨?_, ?_⟩
      · rintro x hx rfl
        exact hdecl ⟨x, mem_of_mem_firstsBy Element.name hx, rfl⟩
      · obtain ⟨m, hm, hname⟩ := Entry.exists_mem_undeclaredMentions hmention hext hdecl
        obtain rfl : m.name = name := hname
        exact ⟨m.line, Entry.line_le_of_mem_undeclaredMentions hes hm hmention rfl,
          reportsOf_eq_singleton hm⟩

end Validation

end C4Lint
