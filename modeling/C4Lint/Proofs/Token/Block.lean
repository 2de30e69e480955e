/-
# Matching braces

The braces among the tokens of a text are matched as usual: a closing brace closes the block that
was opened last.  `Token.WellNested` says that the braces of some tokens match one another, and
`Token.ClosesBlock` that the tokens after an opening brace hold the brace that matches it.  The main
statement is `closesBlock_iff`: that brace is there exactly when the closing braces outnumber the
opening ones somewhere on the way.
-/
import Mathlib.Data.List.Basic
import Mathlib.Data.List.Infix
import Mathlib.Tactic.Common
import C4Lint.Token.Basic

namespace C4Lint.Token

/-- The braces among the tokens match one another. -/
inductive WellNested : List Token → Prop
  /-- There are no tokens. -/
  | nil : WellNested []
  /-- The first token is no brace. -/
  | plain {t : Token} {ts : List Token} (hopen : t.lexeme ≠ .openBrace)
      (hclose : t.lexeme ≠ .closeBrace) (hts : WellNested ts) : WellNested (t :: ts)
  /-- The first token opens a block. -/
  | block {o c : Token} {inner rest : List Token} (ho : o.lexeme = .openBrace)
      (hc : c.lexeme = .closeBrace) (hinner : WellNested inner) (hrest : WellNested rest) :
      WellNested (o :: (inner ++ c :: rest))

/-- Among the tokens after an opening brace is the brace that matches it: what stands between the
two is well nested. -/
def ClosesBlock (ts : List Token) : Prop :=
  ∃ inner c rest, ts = inner ++ c :: rest ∧ c.lexeme = .closeBrace ∧ WellNested inner

/-! ### Counting braces -/

variable {t : Token} {ts us : List Token}

@[simp] lemma opening_braces_nil : (braces []).opening = 0 := rfl

@[simp] lemma closing_braces_nil : (braces []).closing = 0 := rfl

@[simp] lemma opening_braces_append :
    (braces (ts ++ us)).opening = (braces ts).opening + (braces us).opening := List.countP_append

@[simp] lemma closing_braces_append :
    (braces (ts ++ us)).closing = (braces ts).closing + (braces us).closing := List.countP_append

lemma opening_braces_cons :
    (braces (t :: ts)).opening = (braces ts).opening + if t.lexeme = .openBrace then 1 else 0 := by
  simp [braces, List.countP_cons]

lemma closing_braces_cons :
    (braces (t :: ts)).closing = (braces ts).closing + if t.lexeme = .closeBrace then 1 else 0 := by
  simp [braces, List.countP_cons]

/-- An opening brace adds to the opening ones only. -/
lemma braces_cons_of_openBrace (h : t.lexeme = .openBrace) (ts : List Token) :
    (braces (t :: ts)).opening = (braces ts).opening + 1 ∧
      (braces (t :: ts)).closing = (braces ts).closing := by
  simp [opening_braces_cons, closing_braces_cons, h]

/-- A closing brace adds to the closing ones only. -/
lemma braces_cons_of_closeBrace (h : t.lexeme = .closeBrace) (ts : List Token) :
    (braces (t :: ts)).opening = (braces ts).opening ∧
      (braces (t :: ts)).closing = (braces ts).closing + 1 := by
  simp [opening_braces_cons, closing_braces_cons, h]

/-- Other tokens add nothing. -/
lemma braces_cons_of_ne (hopen : t.lexeme ≠ .openBrace) (hclose : t.lexeme ≠ .closeBrace)
    (ts : List Token) :
    (braces (t :: ts)).opening = (braces ts).opening ∧
      (braces (t :: ts)).closing = (braces ts).closing := by
  simp [opening_braces_cons, closing_braces_cons, hopen, hclose]

/-! ### Well nested tokens -/

/-- A prefix ends before a token or goes on behind it. -/
lemma prefix_append_cons {ws : List Token} (h : ws <+: ts ++ t :: us) :
    ws <+: ts ∨ ∃ vs, ws = ts ++ t :: vs ∧ vs <+: us := by
  rcases List.prefix_or_prefix_of_prefix h (List.prefix_append ts (t :: us)) with hin | ⟨vs, rfl⟩
  · exact Or.inl hin
  · rw [List.prefix_append_right_inj] at h
    rcases List.prefix_cons_iff.1 h with rfl | ⟨xs, rfl, hxs⟩
    · exact Or.inl (by simp)
    · exact Or.inr ⟨xs, rfl, hxs⟩

lemma WellNested.opening_eq_closing (h : WellNested ts) :
    (braces ts).opening = (braces ts).closing := by
  induction h with
  | nil => rfl
  | plain hopen hclose _ ih =>
    obtain ⟨ho, hc⟩ := braces_cons_of_ne hopen hclose _
    rw [ho, hc, ih]
  | @block o c inner rest ho hc _ _ ihinner ihrest =>
    have hopened := braces_cons_of_openBrace ho (inner ++ c :: rest)
    have hclosed := braces_cons_of_closeBrace hc rest
    simp only [opening_braces_append, closing_braces_append] at hopened
    omega

/-- On the way through well nested tokens no block is closed that was not opened there. -/
lemma WellNested.closing_le_of_prefix (h : WellNested ts) (hus : us <+: ts) :
    (braces us).closing ≤ (braces us).opening := by
  induction h generalizing us with
  | nil =>
    rw [List.prefix_nil.1 hus]
    exact Nat.le_refl _
  | plain hopen hclose _ ih =>
    rcases List.prefix_cons_iff.1 hus with rfl | ⟨vs, rfl, hvs⟩
    · exact Nat.le_refl _
    · obtain ⟨ho, hc⟩ := braces_cons_of_ne hopen hclose vs
      have := ih hvs
      omega
  | @block o c inner rest ho hc hinner _ ihinner ihrest =>
    rcases List.prefix_cons_iff.1 hus with rfl | ⟨vs, rfl, hvs⟩
    · exact Nat.le_refl _
    · have hopened := braces_cons_of_openBrace ho vs
      rcases prefix_append_cons hvs with hin | ⟨xs, rfl, hxs⟩
      · have := ihinner hin
        omega
      · have hclosed := braces_cons_of_closeBrace hc xs
        have heq := hinner.opening_eq_closing
        have := ihrest hxs
        simp only [opening_braces_append, closing_braces_append] at hopened
        omega

/-! ### The closing brace of a block -/

/-- Where the closing braces outnumber the opening ones, the block is closed.  The proof follows the
tokens: a block that is opened first has its closing brace by induction, and behind that the closing
braces still outnumber the opening ones. -/
lemma closesBlock_of_opening_lt (hus : us <+: ts)
    (h : (braces us).opening < (braces us).closing) : ClosesBlock ts := by
  induction hn : ts.length using Nat.strongRecOn generalizing ts us with
  | ind n ih =>
    subst hn
    cases ts with
    | nil =>
      rw [List.prefix_nil.1 hus] at h
      exact absurd h (Nat.lt_irrefl 0)
    | cons t ts =>
      rcases List.prefix_cons_iff.1 hus with rfl | ⟨vs, rfl, hvs⟩
      · exact absurd h (Nat.lt_irrefl 0)
      by_cases hclose : t.lexeme = .closeBrace
      · exact ⟨[], t, ts, rfl, hclose, .nil⟩
      by_cases hopen : t.lexeme = .openBrace
      · obtain ⟨hone, hzero⟩ := braces_cons_of_openBrace hopen vs
        obtain ⟨inner, c, rest, rfl, hc, hinner⟩ :=
          ih ts.length (by simp) hvs (by omega) rfl
        -- the block closes before the prefix ends
        rcases prefix_append_cons hvs with hin | ⟨xs, rfl, hxs⟩
        · have := hinner.closing_le_of_prefix hin
          omega
        have heq := hinner.opening_eq_closing
        simp only [opening_braces_append, closing_braces_append] at hone hzero
        obtain ⟨hc0, hc1⟩ := braces_cons_of_closeBrace hc xs
        obtain ⟨inner', c', rest', rfl, hc', hinner'⟩ :=
          ih rest.length (by simp; omega) hxs (by omega) rfl
        exact ⟨t :: (inner ++ c :: inner'), c', rest', by simp, hc', .block hopen hc hinner hinner'⟩
      · obtain ⟨hzero, hzero'⟩ := braces_cons_of_ne hopen hclose vs
        obtain ⟨inner, c, rest, rfl, hc, hinner⟩ :=
          ih ts.length (by simp) hvs (by omega) rfl
        exact ⟨t :: inner, c, rest, rfl, hc, .plain hopen hclose hinner⟩

/-- A block is closed among the tokens after its opening brace exactly when, somewhere on the way,
more braces close than open. -/
theorem closesBlock_iff :
    ClosesBlock ts ↔ ∃ us, us <+: ts ∧ (braces us).opening < (braces us).closing := by
  constructor
  · rintro ⟨inner, c, rest, rfl, hc, hinner⟩
    refine ⟨inner ++ [c], ⟨rest, by simp⟩, ?_⟩
    have heq := hinner.opening_eq_closing
    obtain ⟨hzero, hone⟩ := braces_cons_of_closeBrace hc []
    simp only [opening_braces_append, closing_braces_append, opening_braces_nil,
      closing_braces_nil] at hzero hone ⊢
    omega
  · rintro ⟨us, hus, h⟩
    exact closesBlock_of_opening_lt hus h

instance (ts : List Token) : Decidable (ClosesBlock ts) :=
  decidable_of_iff (∃ us ∈ ts.inits, (braces us).opening < (braces us).closing) (by
    simp only [List.mem_inits, closesBlock_iff])

end C4Lint.Token
