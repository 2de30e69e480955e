/-
# The issues of the entries

The entries of a document are judged one after another, each against the architecture that the
entries before it describe.  Since the entries stand on lines of their own, this is the same as
judging each of them against the entries on earlier lines (`allIssues_ofEntries`), and from there on
the order of judging plays no role: `mem_allIssues_iff` says which issues there are by what the
document declares before which line.
-/
import C4Lint.Proofs.Architecture.Recorded
import C4Lint.Validation

namespace C4Lint.Entry

open Architecture (elementOf? relationshipOf? ofEntries)

/-! ### One entry -/

lemma issues_of_malformed {e : Entry} {f : Form} (h : e.reading = .malformed f)
    (known : Architecture) :
    e.issues known = [(Finding.malformed f).issue e.line (some e.statement.source)] := by
  rw [issues, h]

lemma issues_of_relationshipOf? {e : Entry} {r : Relationship} (h : relationshipOf? e = some r)
    (known : Architecture) :
    e.issues known
      = (known.undefinedEnds r).map fun f => f.issue e.line (some e.statement.source) := by
  obtain ⟨_, _, _, hreading, -⟩ := relationshipOf?_eq_some_iff.1 h
  rw [issues, hreading, h]

lemma issues_of_relationshipOf?_eq_none {e : Entry} (hm : ∀ f, e.reading ≠ .malformed f)
    (h : relationshipOf? e = none) (known : Architecture) : e.issues known = [] := by
  rw [issues]
  split
  · next f hf => exact absurd hf (hm f)
  · rw [h]

/-- An entry has one issue if it is malformed, and otherwise one for each end of a relationship that
is not resolved. -/
lemma mem_issues_iff {known : Architecture} {e : Entry} {i : Issue} :
    i ∈ e.issues known ↔
      (∃ f, e.reading = .malformed f ∧
        i = (Finding.malformed f).issue e.line (some e.statement.source)) ∨
      ∃ r p, relationshipOf? e = some r ∧ known.resolves (r.nameAt p) = false ∧
        i = (Finding.undefinedBeforeUse p (r.nameAt p)).issue e.line (some e.statement.source) := by
  by_cases hm : ∃ f, e.reading = .malformed f
  · obtain ⟨f, hf⟩ := hm
    simp [issues_of_malformed hf, hf, relationshipOf?_eq_none_of_malformed hf]
  · simp only [not_exists] at hm
    cases hr : relationshipOf? e with
    | none => simp [issues_of_relationshipOf?_eq_none hm hr, hm]
    | some r =>
      simp only [issues_of_relationshipOf? hr, Architecture.undefinedEnds, List.mem_map,
        List.mem_filter, Endpoint.mem_all, true_and, Bool.not_eq_true']
      constructor
      · rintro ⟨_, ⟨p, hp, rfl⟩, rfl⟩
        exact Or.inr ⟨r, p, rfl, hp, rfl⟩
      · rintro (⟨f, hf, -⟩ | ⟨s, p, hs, hp, rfl⟩)
        · exact absurd hf (hm f)
        · obtain rfl : r = s := Option.some.inj hs
          exact ⟨_, ⟨p, hp, rfl⟩, rfl⟩

/-- The issues of an entry are on its line. -/
lemma line_of_mem_issues {known : Architecture} {e : Entry} {i : Issue} (h : i ∈ e.issues known) :
    i.line = e.line := by
  rcases mem_issues_iff.1 h with ⟨f, -, rfl⟩ | ⟨r, p, -, -, rfl⟩ <;> rfl

/-! ### All entries -/

lemma allIssues_append (known : Architecture) (es fs : List Entry) :
    allIssues known (es ++ fs) = allIssues known es ++ allIssues (es.foldl .record known) fs := by
  induction es generalizing known with
  | nil => rfl
  | cons e es ih =>
    rw [List.cons_append, allIssues, allIssues, ih, List.append_assoc, List.foldl_cons]

/-- The issues of the entries are on their lines. -/
lemma exists_line_eq_of_mem_allIssues {known : Architecture} {es : List Entry} {i : Issue}
    (h : i ∈ allIssues known es) : ∃ e ∈ es, i.line = e.line := by
  induction es generalizing known with
  | nil => exact absurd h List.not_mem_nil
  | cons e es ih =>
    rw [allIssues, List.mem_append] at h
    rcases h with h | h
    · exact ⟨e, List.mem_cons_self, line_of_mem_issues h⟩
    · obtain ⟨f, hf, hline⟩ := ih h
      exact ⟨f, List.mem_cons_of_mem _ hf, hline⟩

/-- Judging the entries one after another comes to the same as judging each of them against the
entries on the lines before its own.  The entries `prior` have been judged already. -/
theorem allIssues_ofEntries (prior : List Entry) {es : List Entry}
    (h : (prior ++ es).Pairwise fun e f => e.line < f.line) :
    allIssues (ofEntries prior) es
      = es.flatMap fun e => e.issues (ofEntries ((prior ++ es).filter fun f => f.line < e.line)) := by
  induction es generalizing prior with
  | nil => rfl
  | cons e es ih =>
    -- one step moves `e` from the entries to come to those that have been judged
    have hmoved : prior ++ e :: es = (prior ++ [e]) ++ es := by simp
    have hrecord : (ofEntries prior).record e = ofEntries (prior ++ [e]) := by
      simp [ofEntries, List.foldl_append]
    -- the lines before that of `e` are those of `prior`
    have hbefore : (prior ++ e :: es).filter (fun f => f.line < e.line) = prior := by
      obtain ⟨hprior, hes⟩ := line_lt_of_pairwise_append_cons h
      have hpass : ∀ f ∈ prior, decide (f.line < e.line) = true := fun f hf =>
        decide_eq_true (hprior f hf)
      have hdrop : ∀ f ∈ e :: es, ¬decide (f.line < e.line) = true := by
        intro f hf
        rcases List.mem_cons.1 hf with rfl | hf
        · simp
        · have := hes f hf
          simp only [decide_eq_true_eq]
          omega
      rw [List.filter_append, List.filter_eq_self.2 hpass, List.filter_eq_nil_iff.2 hdrop,
        List.append_nil]
    have hrest := ih (prior ++ [e]) (hmoved ▸ h)
    rw [allIssues, hrecord, hrest, List.flatMap_cons, hbefore, ← hmoved]

/-- The names declared by the entries before a line are those declared before it. -/
lemma declares_filter_iff {es : List Entry} {n : Nat} {name : Text} :
    Declares (es.filter fun f => f.line < n) name ↔ DeclaresBefore es n name := by
  simp only [Declares, DeclaresBefore, mem_elements, List.mem_filter, decide_eq_true_eq]
  constructor
  · rintro ⟨x, ⟨e, ⟨he, hn⟩, hx⟩, hname⟩
    exact ⟨x, ⟨e, he, hx⟩, by rwa [line_of_elementOf? hx], hname⟩
  · rintro ⟨x, ⟨e, he, hx⟩, hn, hname⟩
    exact ⟨x, ⟨e, ⟨he, by rwa [line_of_elementOf? hx] at hn⟩, hx⟩, hname⟩

/-- The names that are known at a line are external or declared before it. -/
lemma resolves_filter_iff {es : List Entry} {n : Nat} {name : Text} :
    (ofEntries (es.filter fun f => f.line < n)).resolves name = true ↔
      isExternal name = true ∨ DeclaresBefore es n name := by
  rw [Architecture.resolves_ofEntries_iff, declares_filter_iff]

/-- Judging all entries of a document, each against those before it. -/
lemma allIssues_eq_flatMap {es : List Entry} (hes : es.Pairwise fun e f => e.line < f.line) :
    allIssues {} es
      = es.flatMap fun e => e.issues (ofEntries (es.filter fun f => f.line < e.line)) :=
  allIssues_ofEntries [] hes

/-- The issues of the entries of a document, by what is declared before which line. -/
theorem mem_allIssues_iff {es : List Entry} (hes : es.Pairwise fun e f => e.line < f.line)
    {i : Issue} :
    i ∈ allIssues {} es ↔
      (∃ e ∈ es, ∃ f, e.reading = .malformed f ∧
        i = (Finding.malformed f).issue e.line (some e.statement.source)) ∨
      ∃ e ∈ es, ∃ r p, relationshipOf? e = some r ∧ isExternal (r.nameAt p) = false ∧
        ¬DeclaresBefore es e.line (r.nameAt p) ∧
        i = (Finding.undefinedBeforeUse p (r.nameAt p)).issue e.line (some e.statement.source) := by
  simp only [allIssues_eq_flatMap hes, List.mem_flatMap, mem_issues_iff, ← Bool.not_eq_true,
    resolves_filter_iff, not_or, and_or_left, exists_or, and_assoc]

end C4Lint.Entry
