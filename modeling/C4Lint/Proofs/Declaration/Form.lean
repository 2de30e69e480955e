/-
# Which form claims a statement

A statement belongs to the first form that its region admits and its words suggest.  This file says
what a form needs to claim a statement (`Form.of?_workspace` to `Form.of?_view`) and when it keeps
the claim as the text changes (`Form.of?_eq_some_of_imp`).

A region can only add to what a statement means.  Outside of the sections a statement is ignored, or
it is meant as a workspace and then read alike in every region (`Reading.of_outside`).
-/
import C4Lint.Proofs.Declaration.Names
import C4Lint.Proofs.Text.Occurrence

namespace C4Lint

open Text (occursIn)

namespace Form

variable {f : Form} {t : Text}

/-! ### The first form that claims a statement -/

lemma of?_workspace (region : Region) (h : suggestedBy .workspace t = true) :
    of? region t = some .workspace := by
  rw [of?, all, List.find?_cons_of_pos (by simp [admittedIn, h])]

/-- In the model, an element goes before a relationship, and nothing of another kind before it. -/
lemma of?_element {kind : ElementKind} (hworkspace : suggestedBy .workspace t = false)
    (hothers : ∀ k, k ≠ kind → suggestedBy (.element k) t = false)
    (h : suggestedBy (.element kind) t = true) : of? .model t = some (.element kind) := by
  cases kind with
  | person => simp [of?, all, List.find?, admittedIn, hworkspace, h]
  | softwareSystem =>
    simp [of?, all, List.find?, admittedIn, hworkspace, hothers .person (by decide), h]
  | container =>
    simp [of?, all, List.find?, admittedIn, hworkspace, hothers .person (by decide),
      hothers .softwareSystem (by decide), h]

lemma of?_relationship (hworkspace : suggestedBy .workspace t = false)
    (helements : ∀ kind, suggestedBy (.element kind) t = false)
    (h : suggestedBy .relationship t = true) : of? .model t = some .relationship := by
  simp [of?, all, List.find?, admittedIn, hworkspace, helements, h]

lemma of?_view (hworkspace : suggestedBy .workspace t = false)
    (h : suggestedBy .view t = true) : of? .views t = some .view := by
  simp [of?, all, List.find?, admittedIn, hworkspace, h]

lemma suggestedBy_workspace_eq_false (h : occursIn "workspace".toList t = false) :
    suggestedBy .workspace t = false := by
  rw [Bool.eq_false_iff] at h ⊢
  exact fun hbegins => h (Text.occursIn_of_isPrefixOf hbegins)

lemma suggestedBy_element_eq_false {kind : ElementKind} (h : occursIn kind.keyword t = false) :
    suggestedBy (.element kind) t = false := by
  rw [suggestedBy, h, Bool.and_false]

/-- A form goes on to claim a text that still suggests it and suggests no further forms. -/
lemma of?_eq_some_of_imp {region : Region} {u : Text} (h : of? region t = some f)
    (hf : f.suggestedBy u = true)
    (himp : ∀ g : Form, g.suggestedBy u = true → g.suggestedBy t = true) :
    of? region u = some f := by
  rw [of?, List.find?_eq_some_iff_append] at h ⊢
  obtain ⟨hclaims, before, after, hall, hbefore⟩ := h
  rw [Bool.and_eq_true] at hclaims
  refine ⟨by rw [hclaims.1, hf, Bool.and_true], before, after, hall, fun g hg => ?_⟩
  have hother := hbefore g hg
  simp only [Bool.not_and, Bool.or_eq_true, Bool.not_eq_true'] at hother ⊢
  refine hother.imp_right fun hnot => ?_
  rw [Bool.eq_false_iff] at hnot ⊢
  exact fun hu => hnot (himp g hu)

/-! ### Statements outside of the sections -/

/-- Outside of the sections, no other form than the workspace is admitted. -/
lemma of?_outside (h : suggestedBy .workspace t = false) : of? .outside t = none := by
  rw [of?, List.find?_eq_none]
  intro f _
  cases f with
  | workspace => simp [h]
  | _ => simp [admittedIn]

end Form

namespace Reading

variable {t : Text}

/-- A statement outside of the sections is ignored, or it is read there as in every region. -/
theorem of_outside (t : Text) :
    Reading.of .outside t = .ignored ∨ ∀ region, Reading.of region t = Reading.of .outside t := by
  cases h : Form.suggestedBy .workspace t with
  | false =>
    left
    rw [Reading.of, Form.of?_outside h]
  | true =>
    right
    intro region
    rw [Reading.of, Reading.of, Form.of?_workspace region h, Form.of?_workspace .outside h]

/-- Whether a statement declares a workspace does not depend on its region. -/
lemma of_eq_workspace_iff {region : Region} {name : Text} :
    Reading.of region t = .declared (.workspace name) ↔
      Form.suggestedBy .workspace t = true ∧
        Form.read? .workspace t = some (.workspace name) := by
  rw [of_eq_declared_iff]
  constructor
  · rintro ⟨f, hf, hread⟩
    obtain rfl : Form.workspace = f := Form.form_of_read? hread
    have hclaims := List.find?_some hf
    rw [Bool.and_eq_true] at hclaims
    exact ⟨hclaims.2, hread⟩
  · rintro ⟨hsuggested, hread⟩
    exact ⟨.workspace, Form.of?_workspace region hsuggested, hread⟩

end Reading

end C4Lint
