/-
# What is shown of a text that holds control sequences

A control sequence tells a terminal what to do and is not shown.  It begins with the escape
character, and what comes after that says how long it is: a single character, characters up to a
letter, or a string that only another control character ends.  `Text.visible` drops the sequences
together with the control characters that are not spaces, so that quoting an argument in a message
cannot upset the terminal that the message is shown on.

The main statement is `visible_eq_self`: a text of printable characters is shown as it is.
-/
import C4Lint.Text.Basic

namespace C4Lint.Text

/-- Where a text stands in a control sequence. -/
inductive ControlMode where
  /-- Outside of every sequence. -/
  | outside
  /-- Right after the escape character. -/
  | introduced
  /-- Among the characters between the escape character and the last one of a short sequence. -/
  | intermediate
  /-- Among the parameters of a sequence that a letter ends. -/
  | parameters
  /-- In a command to the system, which a bell may end. -/
  | command
  /-- In a string for the device. -/
  | deviceString
deriving DecidableEq, Repr

/-- Whether an ASCII character moves on to another place: a tab, a line feed, a form feed, a carriage
return. -/
def isSpacing (c : Char) : Bool := c == '\t' || c == '\n' || c == '\x0c' || c == '\r'

/-- Whether an ASCII character has a shape or leaves a space. -/
def isPrinting (c : Char) : Bool := (0x20 ≤ c.toNat && c.toNat < 0x7F) || isSpacing c

namespace ControlMode

/-- The mode after a printing ASCII character that belongs to a sequence. -/
def next (c : Char) : ControlMode → ControlMode
  | outside => outside
  | introduced =>
    if c.toNat < 0x30 then intermediate
    else if c = '[' then parameters
    else if c = ']' then command
    else if c = 'P' ∨ c = 'X' ∨ c = '^' ∨ c = '_' then deviceString
    else outside
  | intermediate => if c.toNat < 0x30 then intermediate else outside
  | parameters => if c.toNat < 0x40 then parameters else outside
  | command => command
  | deviceString => deviceString

/-- What a character shows, and the mode after it.  Outside of a sequence, a character beyond ASCII
shows itself.  Inside, it ends the sequence, which swallows its first byte; each of the bytes left
then stands for no character. -/
def step (m : ControlMode) (c : Char) : Text × ControlMode :=
  if 0x80 ≤ c.toNat then
    (if m = outside then [c] else List.replicate (c.utf8Size - 1) '\uFFFD', outside)
  else if c = '\x1b' then ([], introduced)
  else if c = '\x18' ∨ c = '\x1a' then ([], outside)
  else
    match m with
    | outside => (if isPrinting c then [c] else [], outside)
    | command => ([], if c = '\x07' then outside else command)
    | deviceString => ([], deviceString)
    | m =>
      if isSpacing c then ([c], outside)
      else if isPrinting c then ([], m.next c)
      else ([], m)

end ControlMode

/-- What is shown of a text that begins in the given mode. -/
def visibleFrom (m : ControlMode) : Text → Text
  | [] => []
  | c :: t => (m.step c).1 ++ visibleFrom (m.step c).2 t

/-- What is shown of a text. -/
def visible (t : Text) : Text := visibleFrom .outside t

/-- A character that is printable shows itself and begins no sequence. -/
theorem step_outside {c : Char} (h : 0x80 ≤ c.toNat ∨ isPrinting c = true) :
    ControlMode.outside.step c = ([c], .outside) := by
  unfold ControlMode.step
  by_cases hc : 0x80 ≤ c.toNat
  · simp [hc]
  · have hp : isPrinting c = true := by
      rcases h with h | h
      · exact absurd h hc
      · exact h
    have h1 : c ≠ '\x1b' := by
      rintro rfl
      revert hp
      decide
    have h2 : ¬(c = '\x18' ∨ c = '\x1a') := by
      rintro (rfl | rfl) <;> revert hp <;> decide
    simp [hc, h1, h2, hp]

/-- A text of printable characters is shown as it is. -/
theorem visible_eq_self {t : Text} (h : ∀ c ∈ t, 0x80 ≤ c.toNat ∨ isPrinting c = true) :
    visible t = t := by
  induction t with
  | nil => rfl
  | cons c t ih =>
    have hs := step_outside (h c (List.mem_cons_self ..))
    have ht : visibleFrom .outside t = t := ih fun d hd => h d (List.mem_cons_of_mem _ hd)
    simp only [visible, visibleFrom, hs, ht, List.singleton_append]

end C4Lint.Text
