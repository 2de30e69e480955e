/-
# The claims of the forms and their grammars

A form claims a statement by its words, and only then its grammar is asked.  The words are a rough
guide, since those of one form may stand in a statement of another, but they do little harm.  A
statement follows at most one grammar (`Form.eq_of_read?`), because the tokens that it begins with
give the form away (`Form.ofLexemes?`).  A statement that follows the grammar of a form has the
words of that form (`Form.suggestedBy_of_read?`).  So the form that claims such a statement is its
own or one that goes before it, and in the second case the statement is malformed and not taken for
something else.  The main statement is `Reading.of_follows_read?`.
-/
import C4Lint.Proofs.Declaration.Normal

namespace C4Lint

open Text (isBlank)

/-- The kind that a keyword declares. -/
def ElementKind.ofKeyword? (word : Text) : Option ElementKind :=
  [person, softwareSystem, container].find? fun kind => kind.keyword = word

lemma ElementKind.ofKeyword?_keyword (kind : ElementKind) :
    ofKeyword? kind.keyword = some kind := by
  cases kind <;> decide

namespace Form

variable {f g : Form} {t : Text} {d e : Declaration} {region : Region}

/-! ### One grammar at most -/

/-- The only form whose grammar a statement can follow, by the lexemes that it begins with. -/
def ofLexemes? : List Lexeme → Option Form
  | .name _ :: .string _ :: _ => some workspace
  | .name _ :: .equals :: .name word :: _ => (ElementKind.ofKeyword? word).map element
  | .name _ :: .arrow :: _ => some relationship
  | .name _ :: .name _ :: _ => some view
  | .name _ :: .openBrace :: _ => some styles
  | _ => none

lemma ofLexemes?_of_read? (h : f.read? t = some d) :
    ofLexemes? ((Token.scan t).map Token.lexeme) = some f := by
  cases f with
  | workspace =>
    obtain ⟨_, _, _, _, hscan, -⟩ := Declaration.workspace?_eq_some_iff.1 h
    rw [hscan]
    rfl
  | element kind =>
    obtain ⟨_, _, _, _, _, _, hscan, -⟩ := Declaration.element?_eq_some_iff.1 h
    rw [hscan]
    exact congrArg (Option.map element) kind.ofKeyword?_keyword
  | relationship =>
    obtain ⟨_, _, _, _, _, _, hscan, -⟩ := Declaration.relationship?_eq_some_iff.1 h
    rw [hscan]
    rfl
  | view =>
    obtain ⟨_, _, _, _, hscan, -⟩ := Declaration.view?_eq_some_iff.1 h
    rw [hscan]
    rfl
  | styles =>
    obtain ⟨rfl, -⟩ := Declaration.styles?_eq_some_iff.1 h
    decide +kernel

/-- A statement follows the grammar of one form at most. -/
theorem eq_of_read? (hf : f.read? t = some d) (hg : g.read? t = some e) : f = g := by
  have hform := ofLexemes?_of_read? hf
  rw [ofLexemes?_of_read? hg] at hform
  exact (Option.some.inj hform).symm

/-! ### The words of a grammar -/

/-- A statement that follows the grammar of a form suggests the form. -/
theorem suggestedBy_of_read? (ht : ∀ c ∈ t.head?, isBlank c = false) (h : f.read? t = some d) :
    f.suggestedBy t = true := by
  have hrender := d.suggestedBy_render
  rw [form_of_read? h] at hrender
  exact suggestedBy_of_suggestedBy_render ht h f hrender

/-- A view begins with its keyword, and so it is not meant as a workspace. -/
lemma suggestedBy_workspace_of_view? (ht : ∀ c ∈ t.head?, isBlank c = false)
    (h : read? .view t = some d) : suggestedBy .workspace t = false := by
  obtain ⟨kind, _, _, _, hscan, -⟩ := Declaration.view?_eq_some_iff.1 h
  obtain ⟨rest, rfl⟩ := Token.exists_append_of_scan_eq_cons ht hscan
  cases kind <;> rfl

/-! ### The form that claims a statement -/

/-- The first form claims statements before the second one. -/
def Precedes (f g : Form) : Prop := all.idxOf f < all.idxOf g

instance (f g : Form) : Decidable (f.Precedes g) := inferInstanceAs (Decidable (_ < _))

/-- The form that claims a statement is admitted and suggested. -/
lemma claims_of_of? (h : of? region t = some f) :
    f.admittedIn region = true ∧ f.suggestedBy t = true := by
  have hclaims := List.find?_some h
  rwa [Bool.and_eq_true] at hclaims

/-- A statement that suggests an admitted form is claimed by that form or by one before it. -/
lemma exists_of?_eq_some (hadmitted : f.admittedIn region = true)
    (hsuggested : f.suggestedBy t = true) :
    ∃ g, of? region t = some g ∧ (g = f ∨ g.Precedes f) := by
  have hsome : (of? region t).isSome = true := by
    rw [of?, List.find?_isSome]
    exact ⟨f, f.mem_all, by rw [hadmitted, hsuggested, Bool.and_self]⟩
  obtain ⟨g, hg⟩ := Option.isSome_iff_exists.1 hsome
  refine ⟨g, hg, or_iff_not_imp_left.2 fun hne => ?_⟩
  -- what stands before `g` claims nothing, and so `f` stands behind it
  rw [of?, List.find?_eq_some_iff_append] at hg
  obtain ⟨hclaims, before, after, hall, hbefore⟩ := hg
  have hgbefore : g ∉ before := fun hmem => by simpa [hclaims] using hbefore g hmem
  have hfbefore : f ∉ before := fun hmem => by
    simpa [hadmitted, hsuggested] using hbefore f hmem
  rw [Precedes, hall, List.idxOf_append_of_notMem hgbefore, List.idxOf_append_of_notMem hfbefore,
    List.idxOf_cons_self, List.idxOf_cons_ne _ hne]
  omega

end Form

namespace Reading

variable {region : Region} {t : Text} {d : Declaration} {f : Form}

/-- A statement is malformed if the grammar of the form that claims it does not accept it. -/
lemma of_eq_malformed_iff :
    Reading.of region t = .malformed f ↔ Form.of? region t = some f ∧ f.read? t = none := by
  rw [Reading.of]
  cases hg : Form.of? region t with
  | none => simp
  | some g =>
    constructor
    · cases hd : g.read? t with
      | some d => simp [hd]
      | none =>
        intro h
        obtain rfl : g = f := by simpa [hd] using h
        exact ⟨rfl, hd⟩
    · rintro ⟨hgf, hnone⟩
      obtain rfl := Option.some.inj hgf
      simp [hnone]

/-- A statement follows at most one grammar.  If it follows the grammar of an admitted form, then it
is read as that grammar has it, or it is malformed as one of a form that goes before, is admitted
and is suggested by its words; the latter cannot happen to a workspace, a view or styles.
Conversely, a statement is read as a declaration only if the form of the declaration is admitted and
its grammar accepts the statement so. -/
theorem of_follows_read? (ht : ∀ c ∈ t.head?, isBlank c = false) (region : Region) :
    (∀ f g d e, Form.read? f t = some d → Form.read? g t = some e → f = g) ∧
    (∀ f d, f.admittedIn region = true → Form.read? f t = some d →
      (Reading.of region t = .declared d ∨
        ∃ g : Form, g.Precedes f ∧ g.admittedIn region = true ∧ g.suggestedBy t = true ∧
          Reading.of region t = .malformed g) ∧
      (f = .workspace ∨ f = .view ∨ f = .styles → Reading.of region t = .declared d)) ∧
    ∀ d, Reading.of region t = .declared d →
      d.form.admittedIn region = true ∧ d.form.read? t = some d := by
  refine ⟨fun _ _ _ _ => Form.eq_of_read?, fun f d hadmitted hread => ⟨?_, ?_⟩, fun d hd => ?_⟩
  · have hsuggested := Form.suggestedBy_of_read? ht hread
    obtain ⟨g, hg, rfl | hprecedes⟩ := Form.exists_of?_eq_some hadmitted hsuggested
    · exact Or.inl (of_eq_declared_iff.2 ⟨g, hg, hread⟩)
    · -- the form that goes before does not accept the statement as well
      right
      have hnone : g.read? t = none := by
        cases hother : g.read? t with
        | none => rfl
        | some e =>
          obtain rfl := Form.eq_of_read? hread hother
          exact absurd hprecedes (Nat.lt_irrefl _)
      obtain ⟨hgadmitted, hgsuggested⟩ := Form.claims_of_of? hg
      exact ⟨g, hprecedes, hgadmitted, hgsuggested, of_eq_malformed_iff.2 ⟨hg, hnone⟩⟩
  · rintro (rfl | rfl | rfl)
    · have hsuggested := Form.suggestedBy_of_read? ht hread
      exact of_eq_declared_iff.2 ⟨_, Form.of?_workspace region hsuggested, hread⟩
    · obtain rfl : region = .views := by simpa [Form.admittedIn] using hadmitted
      have hview := Form.of?_view (Form.suggestedBy_workspace_of_view? ht hread)
        (Form.suggestedBy_of_read? ht hread)
      exact of_eq_declared_iff.2 ⟨_, hview, hread⟩
    · obtain rfl : region = .views := by simpa [Form.admittedIn] using hadmitted
      obtain ⟨rfl, rfl⟩ := Declaration.styles?_eq_some_iff.1 hread
      decide +kernel
  · obtain ⟨f, hf, hread⟩ := of_eq_declared_iff.1 hd
    rw [Form.form_of_read? hread]
    exact ⟨(Form.claims_of_of? hf).1, hread⟩

/-- A system under a name that a person could have is malformed as a person, and a view of a
container is a view although its title speaks of a workspace and an arrow. -/
theorem of_follows_read?_of_personnel :
    let t := "personnel = softwareSystem \"HR\"".toList
    let d : Declaration := .element .softwareSystem "personnel".toList "HR".toList none none
    let u := "container hr \"workspace -> styles\" \x7b".toList
    let v : Declaration := .view .container "hr".toList (some "workspace -> styles".toList)
    (∀ c ∈ t.head?, isBlank c = false) ∧ Form.read? (.element .softwareSystem) t = some d ∧
    (∃ g : Form, g.Precedes (.element .softwareSystem) ∧ g.admittedIn .model = true ∧
      g.suggestedBy t = true ∧ Reading.of .model t = .malformed g) ∧
    (∀ c ∈ u.head?, isBlank c = false) ∧ Form.read? .view u = some v ∧
    Reading.of .views u = .declared v := by
  intro t d u v
  have hfirst : ∀ s : Text, (s.head?.all fun c => !isBlank c) = true →
      ∀ c ∈ s.head?, isBlank c = false := by
    intro s hs c hc
    simpa [Option.mem_def.1 hc] using hs
  have ht := hfirst t (by decide)
  have hu := hfirst u (by decide)
  have hd : Form.read? (.element .softwareSystem) t = some d := by decide +kernel
  have hv : Form.read? .view u = some v := by decide +kernel
  have hother : Reading.of .model t ≠ .declared d := by decide +kernel
  obtain ⟨-, hsystem, -⟩ := of_follows_read? ht .model
  obtain ⟨-, hview, -⟩ := of_follows_read? hu .views
  exact ⟨ht, hd, (hsystem _ d rfl hd).1.resolve_left hother, hu, hv,
    (hview _ v rfl hv).2 (Or.inr (Or.inl rfl))⟩

end Reading

end C4Lint
