/-
# What a report tells as JSON

The JSON of a report is a text of the grammar and denotes one value, which says all that the report
is about: the file, the workspace, the verdict, the numbers of issues, and the issues in the order
in which they were found, each with its severity, line, message and context.  The main statement is
`Report.json_denotes_iff`.
-/
import C4Lint.Proofs.Issue.Severity
import C4Lint.Proofs.Json.Pretty
import C4Lint.Report

namespace C4Lint.Report

variable {r q : Report} {i j : Issue}

lemma severityName_injective : Function.Injective severityName := by
  intro s t h
  cases s <;> cases t <;> first | rfl | exact absurd h (by decide)

/-- An issue can be told from its value.  One that has a context has one member more. -/
lemma issueValue_injective : Function.Injective issueValue := by
  intro i j h
  obtain ⟨hseverity, hmembers⟩ := List.cons.inj (Json.object.inj h)
  obtain ⟨hline, hmembers⟩ := List.cons.inj hmembers
  obtain ⟨hmessage, hcontext⟩ := List.cons.inj hmembers
  refine Issue.ext (severityName_injective (Json.string.inj (Prod.mk.inj hseverity).2))
    (Json.number.inj (Prod.mk.inj hline).2) (Json.string.inj (Prod.mk.inj hmessage).2) ?_
  cases hi : i.context with
  | none =>
    cases hj : j.context with
    | none => rfl
    | some d => simp [hi, hj] at hcontext
  | some c =>
    cases hj : j.context with
    | none => simp [hi, hj] at hcontext
    | some d => simpa [hi, hj] using hcontext

/-- A missing name is not taken for a name. -/
lemma nameValue_injective :
    Function.Injective fun name : Option Text => (name.map Json.string).getD .null := by
  rintro (_ | s) (_ | t) h
  · rfl
  · cases h
  · cases h
  · exact congrArg some (Json.string.inj h)

/-- The value of a report tells the file, the workspace and the issues, and no more. -/
lemma value_eq_value_iff :
    r.value = q.value ↔ r.file = q.file ∧ r.validation.workspace = q.validation.workspace ∧
      r.issues = q.issues := by
  constructor
  · intro h
    obtain ⟨hfile, hmembers⟩ := List.cons.inj (Json.object.inj h)
    obtain ⟨hworkspace, hmembers⟩ := List.cons.inj hmembers
    obtain ⟨-, hmembers⟩ := List.cons.inj hmembers
    obtain ⟨-, hmembers⟩ := List.cons.inj hmembers
    obtain ⟨hissues, -⟩ := List.cons.inj hmembers
    exact ⟨Json.string.inj (Prod.mk.inj hfile).2, nameValue_injective (Prod.mk.inj hworkspace).2,
      List.map_injective_iff.2 issueValue_injective (Json.array.inj (Prod.mk.inj hissues).2)⟩
  · rintro ⟨hfile, hworkspace, hissues⟩
    have hpassed : r.passed = q.passed := congrArg Issue.passes hissues
    rw [value, value, hfile, hworkspace, hpassed, hissues]

/-- The JSON of a report denotes an object with five members and nothing else: the file; the
workspace, or null if there is none; whether there are no errors; the numbers of errors, warnings
and notes; and all issues in their order, where just an issue that has a context has a member for
it.  Two reports have the same JSON exactly if they have the same file, workspace and issues. -/
theorem json_denotes_iff :
    (∀ (r : Report) (v : Json), Json.Denotes r.json v ↔
      v = .object
        [("file".toList, .string r.file),
         ("workspace".toList,
          match r.validation.workspace with
          | none => .null
          | some name => .string name),
         ("passed".toList, .bool (Issue.withSeverity .error r.issues).isEmpty),
         ("summary".toList, .object
          [("errors".toList, .number (Issue.withSeverity .error r.issues).length),
           ("warnings".toList, .number (Issue.withSeverity .warning r.issues).length),
           ("info".toList, .number (Issue.withSeverity .info r.issues).length)]),
         ("issues".toList, .array (r.issues.map fun i =>
          match i.context with
          | none => .object
            [("severity".toList, .string (severityName i.severity)),
             ("line".toList, .number i.line),
             ("message".toList, .string i.message)]
          | some context => .object
            [("severity".toList, .string (severityName i.severity)),
             ("line".toList, .number i.line),
             ("message".toList, .string i.message),
             ("context".toList, .string context)]))]) ∧
    ∀ r q : Report, r.json = q.json ↔
      r.file = q.file ∧ r.validation.workspace = q.validation.workspace ∧ r.issues = q.issues := by
  have hdenotes : ∀ (r : Report) (v : Json), Json.Denotes r.json v ↔ v = r.value := by
    intro r v
    constructor
    · intro h
      exact h.unique (Json.denotes_pretty r.value)
    · rintro rfl
      exact Json.denotes_pretty r.value
  refine ⟨fun r v => ?_, fun r q => ?_⟩
  · have hpassed : r.passed = (Issue.withSeverity .error r.issues).isEmpty :=
      Issue.passes_eq r.issues
    rw [hdenotes]
    refine Eq.congr_right ?_
    simp only [value, hpassed, tallyValue, Issue.tally_eq, Json.object.injEq, List.cons.injEq,
      Prod.mk.injEq, Json.array.injEq, true_and, and_true]
    refine ⟨?_, List.map_congr_left fun i _ => ?_⟩
    · cases r.validation.workspace <;> rfl
    · rw [issueValue]
      cases i.context <;> rfl
  · rw [← value_eq_value_iff]
    constructor
    · intro h
      exact (hdenotes q r.value).1 (h ▸ Json.denotes_pretty r.value)
    · intro h
      rw [json, json, h]

end C4Lint.Report
