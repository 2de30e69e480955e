/-
# Telling records of a log by their wording

A log is read as text.  Its moves and its malformed statements can be told there by the level and
the wording of a record, and so can all that such a record says: `LogRecord.move?_eq_some_iff` and
`LogRecord.malformed?_eq_some_iff`.
-/
import C4Lint.Proofs.Text.Decimal
import C4Lint.RunLog

namespace C4Lint.LogRecord

/-- The regions of a record that tells of a move, the one left and the one entered. -/
def move? : LogRecord → Option (Region × Region)
  | moved before after => some (before, after)
  | _ => none

/-- The region in which a record places a statement. -/
def region? : LogRecord → Option Region
  | read _ region _ => some region
  | _ => none

/-- The line and the form of a record that tells of a malformed statement. -/
def malformed? : LogRecord → Option (Nat × Form)
  | malformed line f => some (line, f)
  | _ => none

lemma regionName_injective : Function.Injective regionName := by
  intro a b h
  cases a <;> cases b <;> first | rfl | exact absurd h (by decide)

lemma formName_injective : Function.Injective formName := by
  have hforms : ∀ f ∈ Form.all, ∀ g ∈ Form.all, formName f = formName g → f = g := by
    decide +kernel
  intro f g h
  exact hforms f f.mem_all g g.mem_all h

/-- The name of the region that is left ends at the first space. -/
lemma message_moved_inj {a b c d : Region} (h : (moved a b).message = (moved c d).message) :
    a = c ∧ b = d := by
  have hname : ∀ r : Region, ∀ x ∈ regionName r, (x != ' ') = true := by
    intro r
    refine List.all_eq_true.1 ?_
    cases r <;> rfl
  have harrow : ∀ r : Region, ∀ x ∈ (" -> ".toList ++ regionName r).head?, (x != ' ') = false := by
    rintro r x ⟨⟩
    rfl
  change "Section ".toList ++ regionName a ++ " -> ".toList ++ regionName b
    = "Section ".toList ++ regionName c ++ " -> ".toList ++ regionName d at h
  simp only [List.append_assoc] at h
  obtain ⟨hleft, hright⟩ := Text.run_append_inj (hname a) (hname c) (harrow b) (harrow d)
    (List.append_cancel_left h)
  exact ⟨regionName_injective hleft, regionName_injective (List.append_cancel_left hright)⟩

/-- The number of the line ends at the first character that is not a digit. -/
lemma message_malformed_inj {m n : Nat} {f g : Form}
    (h : (malformed m f).message = (malformed n g).message) : m = n ∧ f = g := by
  have hcolon : ∀ k : Form, ∀ x ∈ (": malformed ".toList ++ formName k).head?,
      x.isDigit = false := by
    rintro k x ⟨⟩
    rfl
  change "Line ".toList ++ Text.decimal m ++ ": malformed ".toList ++ formName f
    = "Line ".toList ++ Text.decimal n ++ ": malformed ".toList ++ formName g at h
  simp only [List.append_assoc] at h
  obtain ⟨hmn, hfg⟩ := Text.decimal_append_inj (hcolon f) (hcolon g) (List.append_cancel_left h)
  exact ⟨hmn, formName_injective (List.append_cancel_left hfg)⟩

/-- The first letter of a record for debugging, each kind of which has its own. -/
def initial? : LogRecord → Option Char
  | moved _ _ => some 'S'
  | named _ => some 'W'
  | redeclared _ _ => some 'E'
  | malformed _ _ => some 'L'
  | _ => none

lemma head?_message {r : LogRecord} (h : r.level = .debug) : r.message.head? = r.initial? := by
  cases r with
  | read | finished => cases h
  | _ => rfl

/-- The moves are the records for debugging with the wording of a move. -/
theorem move?_eq_some_iff {r : LogRecord} {a b : Region} :
    r.move? = some (a, b) ↔ r.level = .debug ∧
      r.message = "Section ".toList ++ regionName a ++ " -> ".toList ++ regionName b := by
  constructor
  · intro h
    cases r with
    | moved c d =>
      obtain ⟨rfl, rfl⟩ : c = a ∧ d = b := by simpa [move?] using h
      exact ⟨rfl, rfl⟩
    | _ => cases h
  · rintro ⟨hlevel, hmessage⟩
    have hhead : r.message.head? = some 'S' := congrArg List.head? hmessage
    rw [head?_message hlevel] at hhead
    cases r with
    | moved c d =>
      obtain ⟨rfl, rfl⟩ := message_moved_inj (a := c) (b := d) (c := a) (d := b) hmessage
      rfl
    | _ => exact absurd hhead (by simp [initial?])

/-- The records of malformed statements are the records for debugging with their wording. -/
theorem malformed?_eq_some_iff {r : LogRecord} {n : Nat} {f : Form} :
    r.malformed? = some (n, f) ↔ r.level = .debug ∧
      r.message = "Line ".toList ++ Text.decimal n ++ ": malformed ".toList ++ formName f := by
  constructor
  · intro h
    cases r with
    | malformed m g =>
      obtain ⟨rfl, rfl⟩ : m = n ∧ g = f := by simpa [malformed?] using h
      exact ⟨rfl, rfl⟩
    | _ => cases h
  · rintro ⟨hlevel, hmessage⟩
    have hhead : r.message.head? = some 'L' := congrArg List.head? hmessage
    rw [head?_message hlevel] at hhead
    cases r with
    | malformed m g =>
      obtain ⟨rfl, rfl⟩ := message_malformed_inj (m := m) (n := n) (f := g) (g := f) hmessage
      rfl
    | _ => exact absurd hhead (by simp [initial?])

end C4Lint.LogRecord
