/-
# Telling findings by their wording

An issue keeps the wording of a finding and not the finding itself.  The first three characters of a
wording say what it is about, and the names in it can be read off, so that the findings about names
are known by the issues that they become: `Finding.issue_eq_neverDefined_iff` and
`Finding.issue_eq_undefinedBeforeUse_iff`.  The same goes for malformed statements, since each form
has a wording of its own: `Finding.issue_eq_malformed_iff`.
-/
import Mathlib.Tactic.Common
import C4Lint.Issue

namespace C4Lint

/-- The characters of a literal are those that it is made of, without a look at how it is stored. -/
lemma Text.toList_of_eq {s : String} {t : Text} (h : s = String.ofList t) : s.toList = t := by
  rw [h, String.toList_ofList]

namespace Finding

/-- The first three characters of the wording. -/
def lead : Finding → Text
  | missingWorkspace => ['M', 'i', 's']
  | missingModel => ['M', 'i', 's']
  | missingViews => ['M', 'i', 's']
  | unbalancedBraces _ => ['U', 'n', 'b']
  | malformed _ => ['I', 'n', 'v']
  | undefinedBeforeUse .source _ => ['S', 'o', 'u']
  | undefinedBeforeUse .destination _ => ['D', 'e', 's']
  | neverDefined _ => ['E', 'l', 'e']
  | unconnected .person _ => ['P', 'e', 'r']
  | unconnected .softwareSystem _ => ['S', 'o', 'f']
  | unconnected .container _ => ['C', 'o', 'n']

/-- The first two characters of the name that the wording gives to a form. -/
def formLead : Form → Text
  | .workspace => ['w', 'o']
  | .element .person => ['p', 'e']
  | .element .softwareSystem => ['s', 'o']
  | .element .container => ['c', 'o']
  | .relationship => ['r', 'e']
  | .view => ['v', 'i']
  | .styles => ['s', 't']

/-- What is said of a malformed statement names its form behind the same eight characters. -/
lemma take_malformedMessage (f : Form) :
    (malformedMessage f).take 10 = ['I', 'n', 'v', 'a', 'l', 'i', 'd', ' '] ++ formLead f := by
  cases f with
  | element kind =>
    cases kind
    all_goals
      show List.take 10 (String.toList (_ ++ _)) = _
      rw [String.toList_append, Text.toList_of_eq rfl, Text.toList_of_eq rfl]
      rfl
  | _ =>
    show List.take 10 (String.toList _) = _
    rw [Text.toList_of_eq rfl]
    rfl

lemma take_message (f : Finding) : f.message.take 3 = f.lead := by
  cases f with
  | malformed form =>
    have h := congrArg (List.take 3) (take_malformedMessage form)
    rwa [List.take_take] at h
  | undefinedBeforeUse p _ => cases p <;> rfl
  | unconnected kind _ => cases kind <;> rfl
  | _ => rfl

lemma lead_eq_of_message_eq {f g : Finding} (h : f.message = g.message) : f.lead = g.lead := by
  rw [← take_message, h, take_message]

lemma eq_neverDefined_of_message {f : Finding} {name : Text}
    (h : f.message = (neverDefined name).message) : f = neverDefined name := by
  have hlead := lead_eq_of_message_eq h
  cases f with
  | neverDefined other =>
    have hname : other = name := List.append_cancel_left (List.append_cancel_right h)
    rw [hname]
  | undefinedBeforeUse p _ => cases p <;> simp [lead] at hlead
  | unconnected kind _ => cases kind <;> simp [lead] at hlead
  | _ => simp [lead] at hlead

lemma eq_undefinedBeforeUse_of_message {f : Finding} {p : Endpoint} {name : Text}
    (h : f.message = (undefinedBeforeUse p name).message) : f = undefinedBeforeUse p name := by
  have hlead := lead_eq_of_message_eq h
  cases f with
  | undefinedBeforeUse q other =>
    obtain rfl : q = p := by
      cases p <;> cases q <;> simp [lead] at hlead ⊢
    have hname : other = name := List.append_cancel_left (List.append_cancel_right h)
    rw [hname]
  | unconnected kind _ => cases p <;> cases kind <;> simp [lead] at hlead
  | _ => cases p <;> simp [lead] at hlead

lemma malformedMessage_injective : Function.Injective malformedMessage := by
  have hforms : ∀ f ∈ Form.all, ∀ g ∈ Form.all, formLead f = formLead g → f = g := by decide
  intro f g h
  have htake := congrArg (List.take 10) h
  rw [take_malformedMessage, take_malformedMessage] at htake
  exact hforms f f.mem_all g g.mem_all (List.append_cancel_left htake)

lemma eq_malformed_of_message {f : Finding} {form : Form}
    (h : f.message = (malformed form).message) : f = malformed form := by
  have hlead := lead_eq_of_message_eq h
  cases f with
  | malformed other => rw [malformedMessage_injective h]
  | undefinedBeforeUse p _ => cases p <;> simp [lead] at hlead
  | unconnected kind _ => cases kind <;> simp [lead] at hlead
  | _ => simp [lead] at hlead

/-- The three wordings about what a document lacks begin alike, and then they differ. -/
lemma eq_of_message_of_lead {f g : Finding} (hg : g.lead = ['M', 'i', 's'])
    (h : f.message = g.message) : f = g := by
  have hmissing : ∀ f : Finding, f.lead = ['M', 'i', 's'] →
      f = missingWorkspace ∨ f = missingModel ∨ f = missingViews := by
    intro f hf
    cases f with
    | undefinedBeforeUse p _ => cases p <;> simp [lead] at hf
    | unconnected kind _ => cases kind <;> simp [lead] at hf
    | _ => simp [lead] at hf ⊢
  rcases hmissing f ((lead_eq_of_message_eq h).trans hg) with rfl | rfl | rfl <;>
    rcases hmissing g hg with rfl | rfl | rfl
  all_goals first | rfl | exact absurd h (by decide)

/-- An issue comes from one finding only if the wording of the finding is its own. -/
lemma issue_eq_issue_iff {g : Finding} (hg : ∀ f : Finding, f.message = g.message → f = g)
    {f : Finding} {m n : Nat} {c d : Option Text} :
    f.issue m c = g.issue n d ↔ f = g ∧ m = n ∧ c = d := by
  constructor
  · intro h
    exact ⟨hg f (congrArg Issue.message h), congrArg Issue.line h, congrArg Issue.context h⟩
  · rintro ⟨rfl, rfl, rfl⟩
    rfl

/-- An issue about a name that is never defined comes from that finding only. -/
theorem issue_eq_neverDefined_iff {f : Finding} {name : Text} {m n : Nat} {c d : Option Text} :
    f.issue m c = (neverDefined name).issue n d ↔ f = neverDefined name ∧ m = n ∧ c = d :=
  issue_eq_issue_iff fun _ => eq_neverDefined_of_message

/-- An issue about a name that is used before it is defined comes from that finding only. -/
theorem issue_eq_undefinedBeforeUse_iff {f : Finding} {p : Endpoint} {name : Text} {m n : Nat}
    {c d : Option Text} :
    f.issue m c = (undefinedBeforeUse p name).issue n d ↔
      f = undefinedBeforeUse p name ∧ m = n ∧ c = d :=
  issue_eq_issue_iff fun _ => eq_undefinedBeforeUse_of_message

/-- An issue about a malformed statement comes from that finding only, and it tells the form. -/
theorem issue_eq_malformed_iff {f : Finding} {form : Form} {m n : Nat} {c d : Option Text} :
    f.issue m c = (malformed form).issue n d ↔ f = malformed form ∧ m = n ∧ c = d :=
  issue_eq_issue_iff fun _ => eq_malformed_of_message

end Finding

end C4Lint
