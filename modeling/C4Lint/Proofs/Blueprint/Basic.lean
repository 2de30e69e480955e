/-
# Blueprints

A `Blueprint` is what an author wants to describe: a named workspace with elements, relationships
between them and views.  `Blueprint.lines` spells it out line by line, the model before the views.
A blueprint is well formed (`Blueprint.WellFormed`) if its names and strings can be written, no two
of its elements share an identifier, and its relationships lead from elements or external systems to
such.  Every line of it is understood then, and the declarations in it are those that were planned:
the main statements are `sound_of_mem_lines` and `readOff_lines`.
-/
import C4Lint.Proofs.Blueprint.Layout

namespace C4Lint

/-- An element that is to be declared. -/
structure PlannedElement where
  /-- What the element is. -/
  kind : ElementKind
  /-- The identifier by which relationships refer to the element. -/
  identifier : Text
  /-- What the element is for. -/
  description : Text
  /-- What it is made with. -/
  technology : Option Text
  /-- How it is tagged. -/
  tags : Option Text
deriving DecidableEq, Repr

/-- A relationship that is to be stated. -/
structure PlannedRelationship where
  /-- The name that the relationship starts from. -/
  source : Text
  /-- The name that it leads to. -/
  destination : Text
  /-- What the relationship is about. -/
  description : Option Text
deriving DecidableEq, Repr

/-- A view that is to be declared. -/
structure PlannedView where
  /-- What the view shows of its element. -/
  kind : ViewKind
  /-- The element that the view is of. -/
  target : Text
  /-- The title of the view. -/
  title : Option Text
deriving DecidableEq, Repr

/-- An architecture that is to be described. -/
structure Blueprint where
  /-- The name of the workspace. -/
  name : Text
  /-- The elements, in the order of their declarations. -/
  elements : List PlannedElement
  /-- The relationships, in the order of their statements. -/
  relationships : List PlannedRelationship
  /-- The views, in the order of their declarations. -/
  views : List PlannedView
deriving DecidableEq, Repr

namespace PlannedElement

/-- The declaration of the element. -/
def declaration (x : PlannedElement) : Declaration :=
  .element x.kind x.identifier x.description x.technology x.tags

/-- The element can be declared. -/
structure WellFormed (x : PlannedElement) : Prop where
  /-- The identifier is a word. -/
  isWord_identifier : x.identifier.IsWord
  /-- No reserved word occurs in the identifier. -/
  isFree_identifier : x.identifier.IsFree
  /-- The description is a string. -/
  isPlain_description : x.description.IsPlain
  /-- The description is not empty. -/
  description_ne_nil : x.description ≠ []
  /-- The technology is a string. -/
  isPlain_technology : ∀ t ∈ x.technology, t.IsPlain
  /-- The tags are a string. -/
  isPlain_tags : ∀ t ∈ x.tags, t.IsPlain
  /-- Tags come only after a technology, and never with a person. -/
  tags_allowed : x.tags ≠ none → x.technology ≠ none ∧ x.kind ≠ .person

instance (x : PlannedElement) : Decidable x.WellFormed :=
  decidable_of_iff
    (x.identifier.IsWord ∧ x.identifier.IsFree ∧ x.description.IsPlain ∧ x.description ≠ [] ∧
      (∀ t ∈ x.technology, t.IsPlain) ∧ (∀ t ∈ x.tags, t.IsPlain) ∧
      (x.tags ≠ none → x.technology ≠ none ∧ x.kind ≠ .person))
    ⟨fun ⟨h₁, h₂, h₃, h₄, h₅, h₆, h₇⟩ => ⟨h₁, h₂, h₃, h₄, h₅, h₆, h₇⟩,
      fun ⟨h₁, h₂, h₃, h₄, h₅, h₆, h₇⟩ => ⟨h₁, h₂, h₃, h₄, h₅, h₆, h₇⟩⟩

end PlannedElement

/-- The statement of the relationship. -/
def PlannedRelationship.declaration (r : PlannedRelationship) : Declaration :=
  .relationship r.source r.destination r.description

/-- The declaration of the view. -/
def PlannedView.declaration (v : PlannedView) : Declaration := .view v.kind v.target v.title

namespace Blueprint

/-- The blueprint line by line. -/
def lines (b : Blueprint) : List Line :=
  .declares .outside (.workspace b.name) :: .opensModel ::
    ((b.elements.map PlannedElement.declaration).map (.declares .model)
      ++ ((b.relationships.map PlannedRelationship.declaration).map (.declares .model)
        ++ .closes :: .opensViews ::
          ((b.views.map PlannedView.declaration).map (.declares .views) ++ [.closes, .closes])))

/-- A relationship may lead from or to the name: an element of the blueprint has it, or it is the
name of an external system. -/
def Refers (b : Blueprint) (name : Text) : Prop :=
  (∃ x ∈ b.elements, x.identifier = name) ∨
    (isExternal name = true ∧ name.IsName ∧ name.IsFree)

instance (b : Blueprint) (name : Text) : Decidable (b.Refers name) :=
  inferInstanceAs (Decidable (_ ∨ _))

/-- The blueprint can be written down. -/
structure WellFormed (b : Blueprint) : Prop where
  /-- The name of the workspace is a string. -/
  isBody_name : b.name.IsBody
  /-- The name of the workspace is not empty. -/
  name_ne_nil : b.name ≠ []
  /-- The elements have different identifiers. -/
  nodup : (b.elements.map PlannedElement.identifier).Nodup
  /-- The elements can be declared. -/
  elements : ∀ x ∈ b.elements, x.WellFormed
  /-- The relationships lead from known names to known names, and their descriptions are strings. -/
  relationships : ∀ r ∈ b.relationships,
    b.Refers r.source ∧ b.Refers r.destination ∧ ∀ t ∈ r.description, t.IsPlain
  /-- The views are of words, and their titles are strings. -/
  views : ∀ v ∈ b.views, v.target.IsWord ∧ ∀ t ∈ v.title, t.IsBody

instance (b : Blueprint) : Decidable b.WellFormed :=
  decidable_of_iff
    (b.name.IsBody ∧ b.name ≠ [] ∧ (b.elements.map PlannedElement.identifier).Nodup ∧
      (∀ x ∈ b.elements, x.WellFormed) ∧
      (∀ r ∈ b.relationships,
        b.Refers r.source ∧ b.Refers r.destination ∧ ∀ t ∈ r.description, t.IsPlain) ∧
      (∀ v ∈ b.views, v.target.IsWord ∧ ∀ t ∈ v.title, t.IsBody))
    ⟨fun ⟨h₁, h₂, h₃, h₄, h₅, h₆⟩ => ⟨h₁, h₂, h₃, h₄, h₅, h₆⟩,
      fun ⟨h₁, h₂, h₃, h₄, h₅, h₆⟩ => ⟨h₁, h₂, h₃, h₄, h₅, h₆⟩⟩

variable {b : Blueprint}

lemma WellFormed.isName_of_refers (hb : b.WellFormed) {name : Text} (h : b.Refers name) :
    name.IsName ∧ name.IsFree := by
  rcases h with ⟨x, hx, rfl⟩ | ⟨-, hname, hfree⟩
  · exact ⟨(hb.elements x hx).isWord_identifier.isName, (hb.elements x hx).isFree_identifier⟩
  · exact ⟨hname, hfree⟩

/-! ### The lines of a blueprint -/

lemma sound_workspace {name : Text} (hname : name.IsBody) (hne : name ≠ []) :
    (Line.declares .outside (.workspace name)).Sound := by
  intro d hd
  obtain rfl := Option.some.inj hd
  exact ⟨Declaration.isTidy_lexemes_workspace hname,
    Reading.of_render_workspace .outside hname hne, fun h => absurd rfl h⟩

lemma sound_element {x : PlannedElement} (hx : x.WellFormed) :
    (Line.declares .model x.declaration).Sound := by
  have htags : x.tags ≠ none → x.technology ≠ none ∧ x.kind.acceptsTags = true := by
    intro h
    obtain ⟨htechnology, hperson⟩ := hx.tags_allowed h
    refine ⟨htechnology, ?_⟩
    cases hkind : x.kind with
    | person => exact absurd hkind hperson
    | _ => rfl
  intro d hd
  obtain rfl := Option.some.inj hd
  exact ⟨Declaration.isTidy_lexemes_element hx.isWord_identifier hx.isPlain_description.isBody
      (fun t ht => (hx.isPlain_technology t ht).isBody) fun t ht => (hx.isPlain_tags t ht).isBody,
    Reading.of_render_element hx.isWord_identifier hx.isFree_identifier hx.isPlain_description
      hx.description_ne_nil hx.isPlain_technology hx.isPlain_tags htags,
    fun _ => rfl⟩

lemma sound_relationship (hb : b.WellFormed) {r : PlannedRelationship} (hr : r ∈ b.relationships) :
    (Line.declares .model r.declaration).Sound := by
  obtain ⟨hsource, hdestination, hdescription⟩ := hb.relationships r hr
  obtain ⟨hsourceName, hsourceFree⟩ := hb.isName_of_refers hsource
  obtain ⟨hdestinationName, hdestinationFree⟩ := hb.isName_of_refers hdestination
  intro d hd
  obtain rfl := Option.some.inj hd
  exact ⟨Declaration.isTidy_lexemes_relationship hsourceName hdestinationName
      fun t ht => (hdescription t ht).isBody,
    Reading.of_render_relationship hsourceName hsourceFree hdestinationName hdestinationFree
      hdescription,
    fun _ => rfl⟩

lemma sound_view {v : PlannedView} (htarget : v.target.IsWord) (htitle : ∀ t ∈ v.title, t.IsBody) :
    (Line.declares .views v.declaration).Sound := by
  intro d hd
  obtain rfl := Option.some.inj hd
  exact ⟨Declaration.isTidy_lexemes_view htarget.isName htitle,
    Reading.of_render_view htarget htitle, fun _ => rfl⟩

/-- What a well-formed blueprint declares is understood. -/
theorem sound_of_mem_lines (hb : b.WellFormed) : ∀ l ∈ b.lines, l.Sound := by
  have hother : ∀ l : Line, l.declaration? = none → l.Sound := fun _ =>
    Line.sound_of_declaration?_eq_none
  simp only [lines, List.forall_mem_cons, List.forall_mem_append, List.forall_mem_map]
  exact ⟨sound_workspace hb.isBody_name hb.name_ne_nil, hother _ rfl,
    fun x hx => sound_element (hb.elements x hx), fun r hr => sound_relationship hb hr,
    hother _ rfl, hother _ rfl, fun v hv => sound_view (hb.views v hv).1 (hb.views v hv).2,
    hother _ rfl, hother _ rfl, by simp⟩

/-- The lines of a blueprint open the sections that their declarations are meant for. -/
lemma inPlace_lines (b : Blueprint) : InPlace .outside b.lines := by
  refine ⟨fun _ => rfl, fun h => absurd rfl h, ?_⟩
  rw [Line.region, inPlace_append_of_declares, inPlace_append_of_declares]
  refine ⟨fun h => absurd rfl h, fun h => absurd rfl h, ?_⟩
  rw [Line.region, inPlace_append_of_declares]
  exact ⟨fun h => absurd rfl h, fun h => absurd rfl h, trivial⟩

/-! ### What the lines declare -/

/-- The elements of the blueprint, each with the line on which it is declared. -/
def declaredElements (b : Blueprint) : List Element :=
  (b.elements.zipIdx 3).map fun x => ⟨x.1.identifier, x.1.kind, x.2⟩

/-- The relationships of the blueprint, each with the line on which it is stated. -/
def statedRelationships (b : Blueprint) : List Relationship :=
  (b.relationships.zipIdx (3 + b.elements.length)).map fun x =>
    ⟨x.1.source, x.1.destination, x.1.description, x.2⟩

/-- The elements that no relationship of the blueprint leads from or to. -/
def unrelatedElements (b : Blueprint) : List Element :=
  b.declaredElements.filter fun x =>
    ∀ r ∈ b.relationships, r.source ≠ x.name ∧ r.destination ≠ x.name

lemma map_zipIdx_fst {α β : Type} (f : α → β) (n : Nat) (xs : List α) :
    (xs.zipIdx n).map (fun x => f x.1) = xs.map f := by
  conv_rhs => rw [← List.zipIdx_map_fst n xs, List.map_map]
  rfl

lemma nodup_map_name_declaredElements (hb : b.WellFormed) :
    (b.declaredElements.map Element.name).Nodup := by
  have hnames : b.declaredElements.map Element.name = b.elements.map PlannedElement.identifier := by
    rw [declaredElements, List.map_map]
    exact map_zipIdx_fst PlannedElement.identifier 3 b.elements
  rw [hnames]
  exact hb.nodup

lemma map_ends_statedRelationships (b : Blueprint) :
    b.statedRelationships.map Relationship.ends
      = b.relationships.map fun r => (r.source, r.destination) := by
  rw [statedRelationships, List.map_map]
  exact map_zipIdx_fst (fun r : PlannedRelationship => (r.source, r.destination)) _ b.relationships

/-- Each element is declared on a line before those of the relationships. -/
lemma exists_mem_declaredElements {x : PlannedElement} (hx : x ∈ b.elements) :
    ∃ e ∈ b.declaredElements, e.name = x.identifier ∧ e.line < 3 + b.elements.length := by
  obtain ⟨i, hi, rfl⟩ := List.getElem_of_mem hx
  refine ⟨⟨b.elements[i].identifier, b.elements[i].kind, 3 + i⟩, ?_, rfl, ?_⟩
  · exact List.mem_map.2 ⟨(b.elements[i], 3 + i),
      List.mk_mem_zipIdx_iff_le_and_getElem?_sub.2 (by simp [hi]), rfl⟩
  · show 3 + i < 3 + b.elements.length
    omega

/-- The relationships refer to what they may refer to, on lines behind those of the elements. -/
lemma refers_of_mem_statedRelationships (hb : b.WellFormed) {r : Relationship}
    (hr : r ∈ b.statedRelationships) :
    (∀ p, b.Refers (r.nameAt p)) ∧ 3 + b.elements.length ≤ r.line := by
  obtain ⟨⟨q, n⟩, hq, rfl⟩ := List.mem_map.1 hr
  obtain ⟨hsource, hdestination, -⟩ := hb.relationships q (List.fst_mem_of_mem_zipIdx hq)
  refine ⟨fun p => ?_, List.le_snd_of_mem_zipIdx hq⟩
  cases p with
  | source => exact hsource
  | destination => exact hdestination

/-- What is read off the lines of a blueprint is read off its declarations, which stand behind the
first two lines and around the two lines between the sections. -/
lemma readOff_lines {α : Type} (f : Nat → Declaration → Option α) (b : Blueprint) :
    readOff f 1 b.lines
      = (f 1 (.workspace b.name)).toList
        ++ ((b.elements.zipIdx 3).filterMap fun x => f x.2 x.1.declaration)
        ++ ((b.relationships.zipIdx (3 + b.elements.length)).filterMap
          fun x => f x.2 x.1.declaration)
        ++ ((b.views.zipIdx (5 + b.elements.length + b.relationships.length)).filterMap
          fun x => f x.2 x.1.declaration) := by
  have hviews : 3 + b.elements.length + b.relationships.length + 1 + 1
      = 5 + b.elements.length + b.relationships.length := by omega
  simp only [lines, readOff_cons, readOff_append, readOff_map_declares, Line.declaration?,
    Option.bind_some, Option.bind_none, Option.toList_none, List.length_map, List.nil_append,
    readOff_nil, List.append_nil, List.append_assoc, hviews]

end Blueprint

end C4Lint
