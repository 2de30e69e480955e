/-
# Canonical declarations are understood

A declaration without line ends and braces in its strings is written as a tidy statement, and in its
region it is read as that declaration: `Reading.of_render_workspace`, `of_render_element`,
`of_render_relationship` and `of_render_view`.  What could prevent it are the words of a form that
claims statements before its own, so that these must not stand in names and strings
(`Text.IsFree`).  Such a word cannot arise from two neighbours, because blanks and quotes keep the
lexemes apart.
-/
import C4Lint.Proofs.Declaration.Form
import C4Lint.Proofs.Declaration.Spelling

namespace C4Lint

open Text (occursIn)

/-- The words by which a statement is taken for a workspace or, in the model, for an element. -/
def reservedWords : List Text :=
  ["workspace".toList, "person".toList, "softwareSystem".toList, "container".toList]

namespace Text

/-- A text in which no reserved word occurs. -/
def IsFree (t : Text) : Prop := ∀ w ∈ reservedWords, occursIn w t = false

instance (t : Text) : Decidable t.IsFree := inferInstanceAs (Decidable (∀ w ∈ reservedWords, _))

/-- A string that no other form of declaration can claim: it may stand in quotes, and no reserved
word occurs in it. -/
structure IsPlain (t : Text) : Prop where
  /-- The text may stand in quotes. -/
  isBody : t.IsBody
  /-- No reserved word occurs in it. -/
  isFree : t.IsFree

instance (t : Text) : Decidable t.IsPlain :=
  decidable_of_iff (t.IsBody ∧ t.IsFree) ⟨fun h => ⟨h.1, h.2⟩, fun h => ⟨h.1, h.2⟩⟩

end Text

namespace ElementKind

lemma keyword_mem_reservedWords (kind : ElementKind) : kind.keyword ∈ reservedWords := by
  cases kind <;> decide

lemma keyword_injective : Function.Injective keyword := by
  intro kind other
  cases kind <;> cases other <;> decide

/-- No other reserved word occurs in the keyword of a kind. -/
lemma occursIn_keyword_of_ne (kind : ElementKind) {w : Text} (hw : w ∈ reservedWords)
    (hne : w ≠ kind.keyword) : occursIn w kind.keyword = false := by
  revert w
  cases kind <;> decide

end ElementKind

namespace Declaration

section
variable {kind : ElementKind} {view : ViewKind}
  {identifier description source destination target : Text} {technology tags body : Option Text}

lemma isTidy_lexemes_workspace {name : Text} (hname : name.IsBody) :
    ∀ l ∈ lexemes (.workspace name), l.IsTidy := by
  have hkeyword : Text.IsName "workspace".toList := by decide
  simp only [lexemes, List.forall_mem_cons]
  exact ⟨hkeyword, hname, trivial, by simp⟩

lemma isTidy_lexemes_element (hidentifier : identifier.IsWord) (hdescription : description.IsBody)
    (htechnology : ∀ t ∈ technology, t.IsBody) (htags : ∀ t ∈ tags, t.IsBody) :
    ∀ l ∈ lexemes (.element kind identifier description technology tags), l.IsTidy :=
  forall_mem_lexemes_element.2
    ⟨hidentifier.isName, trivial, kind.isName_keyword, hdescription, htechnology, htags⟩

lemma isTidy_lexemes_relationship (hsource : source.IsName) (hdestination : destination.IsName)
    (hbody : ∀ t ∈ body, t.IsBody) :
    ∀ l ∈ lexemes (.relationship source destination body), l.IsTidy :=
  forall_mem_lexemes_relationship.2 ⟨hsource, trivial, hdestination, hbody⟩

lemma isTidy_lexemes_view (htarget : target.IsName) (hbody : ∀ t ∈ body, t.IsBody) :
    ∀ l ∈ lexemes (.view view target body), l.IsTidy :=
  forall_mem_lexemes_view.2 ⟨view.isName_keyword, htarget, hbody⟩

end

/-- A reserved word occurs in a canonical declaration only within a lexeme. -/
lemma occursIn_render_eq_false {w : Text} (hw : w ∈ reservedWords) {d : Declaration}
    (h : ∀ l ∈ d.lexemes, occursIn w l.text = false) : occursIn w d.render = false := by
  have hsolid : ∀ v ∈ reservedWords, v.IsSolid := by decide
  rw [Bool.eq_false_iff, ne_eq, occursIn_render_iff (hsolid w hw)]
  rintro ⟨l, hl, hoccurs⟩
  rw [h l hl] at hoccurs
  exact Bool.false_ne_true hoccurs

end Declaration

namespace Form

open Declaration (occursIn_render_eq_false suggestedBy_render forall_mem_lexemes_element
  forall_mem_lexemes_relationship)

section
variable {kind : ElementKind} {view : ViewKind}
  {identifier description source destination target : Text} {technology tags body : Option Text}

/-- The only reserved word in an element is its keyword, unless one stands in a name or a string. -/
lemma occursIn_render_element (hidentifier : identifier.IsFree) (hdescription : description.IsFree)
    (htechnology : ∀ t ∈ technology, t.IsFree) (htags : ∀ t ∈ tags, t.IsFree) {w : Text}
    (hw : w ∈ reservedWords) (hne : w ≠ kind.keyword) :
    occursIn w (Declaration.element kind identifier description technology tags).render
      = false := by
  have hequals : ∀ v ∈ reservedWords, occursIn v ['='] = false := by decide
  exact occursIn_render_eq_false hw (forall_mem_lexemes_element.2 ⟨hidentifier w hw, hequals w hw,
    kind.occursIn_keyword_of_ne hw hne, hdescription w hw, fun t ht => htechnology t ht w hw,
    fun t ht => htags t ht w hw⟩)

lemma of?_render_element (hidentifier : identifier.IsFree) (hdescription : description.IsFree)
    (htechnology : ∀ t ∈ technology, t.IsFree) (htags : ∀ t ∈ tags, t.IsFree) :
    of? .model (Declaration.element kind identifier description technology tags).render
      = some (.element kind) := by
  refine of?_element ?_ ?_
    (suggestedBy_render (.element kind identifier description technology tags))
  · refine suggestedBy_workspace_eq_false
      (occursIn_render_element hidentifier hdescription htechnology htags (by decide) ?_)
    cases kind <;> decide
  · intro other hother
    exact suggestedBy_element_eq_false
      (occursIn_render_element hidentifier hdescription htechnology htags
        other.keyword_mem_reservedWords fun h => hother (ElementKind.keyword_injective h))

lemma of?_render_relationship (hsource : source.IsFree) (hdestination : destination.IsFree)
    (hbody : ∀ t ∈ body, t.IsFree) :
    of? .model (Declaration.relationship source destination body).render = some .relationship := by
  have hreserved : ∀ w ∈ reservedWords,
      occursIn w (Declaration.relationship source destination body).render = false := by
    intro w hw
    have harrow : ∀ v ∈ reservedWords, occursIn v ['-', '>'] = false := by decide
    exact occursIn_render_eq_false hw (forall_mem_lexemes_relationship.2
      ⟨hsource w hw, harrow w hw, hdestination w hw, fun t ht => hbody t ht w hw⟩)
  refine of?_relationship ?_ ?_ (suggestedBy_render (.relationship source destination body))
  · exact suggestedBy_workspace_eq_false (hreserved _ (by decide))
  · exact fun kind => suggestedBy_element_eq_false (hreserved _ kind.keyword_mem_reservedWords)

/-- A view is claimed as one whatever its target and its title say, since it begins with its keyword
and nothing goes before it in the views. -/
lemma of?_render_view : of? .views (Declaration.view view target body).render = some .view := by
  refine of?_view ?_ (suggestedBy_render (.view view target body))
  cases view <;> rfl

end

end Form

namespace Reading

/-- A declaration is understood if no other form claims its canonical spelling. -/
lemma of_render {region : Region} {d : Declaration} (hd : d.Readable)
    (hform : Form.of? region d.render = some d.form) : Reading.of region d.render = .declared d :=
  of_eq_declared_iff.2 ⟨d.form, hform, Declaration.read?_render hd⟩

/-- A workspace is understood everywhere. -/
theorem of_render_workspace (region : Region) {name : Text} (hname : name.IsBody)
    (hne : name ≠ []) :
    Reading.of region (Declaration.workspace name).render = .declared (.workspace name) :=
  of_render ⟨hne, hname.1⟩ (Form.of?_workspace region rfl)

/-- An element is understood in the model. -/
theorem of_render_element {kind : ElementKind} {identifier description : Text}
    {technology tags : Option Text} (hidentifier : identifier.IsWord) (hfree : identifier.IsFree)
    (hdescription : description.IsPlain) (hne : description ≠ [])
    (htechnology : ∀ t ∈ technology, t.IsPlain) (htags : ∀ t ∈ tags, t.IsPlain)
    (hboth : tags ≠ none → technology ≠ none ∧ kind.acceptsTags = true) :
    Reading.of .model (Declaration.element kind identifier description technology tags).render
      = .declared (.element kind identifier description technology tags) :=
  of_render
    ⟨hidentifier, hne, hdescription.isBody.1, fun t ht => (htechnology t ht).isBody.1,
      fun t ht => (htags t ht).isBody.1, hboth⟩
    (Form.of?_render_element hfree hdescription.isFree (fun t ht => (htechnology t ht).isFree)
      fun t ht => (htags t ht).isFree)

/-- A relationship is understood in the model. -/
theorem of_render_relationship {source destination : Text} {description : Option Text}
    (hsource : source.IsName) (hsourceFree : source.IsFree) (hdestination : destination.IsName)
    (hdestinationFree : destination.IsFree) (hdescription : ∀ t ∈ description, t.IsPlain) :
    Reading.of .model (Declaration.relationship source destination description).render
      = .declared (.relationship source destination description) :=
  of_render ⟨hsource, hdestination, fun t ht => (hdescription t ht).isBody.1⟩
    (Form.of?_render_relationship hsourceFree hdestinationFree
      fun t ht => (hdescription t ht).isFree)

/-- A view of an element is understood in the views, whatever its title says. -/
theorem of_render_view {kind : ViewKind} {target : Text} {title : Option Text}
    (htarget : target.IsWord) (htitle : ∀ t ∈ title, t.IsBody) :
    Reading.of .views (Declaration.view kind target title).render
      = .declared (.view kind target title) :=
  of_render ⟨htarget, fun t ht => (htitle t ht).1⟩ Form.of?_render_view

end Reading

end C4Lint
