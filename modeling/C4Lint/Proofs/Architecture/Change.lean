/-
# What an architecture holds after changes

The sets of an architecture repeat the names of its elements and the keys of its relationships.  They
stay in step with them, in whatever order elements and relationships are recorded and however often
names come again: `Architecture.holds_ofChanges` says what an architecture holds after any changes.
Both halves are instances of one recording (`Records`), which keeps the first item of each key.

A key stands for both names of a relationship as long as no source holds an arrow
(`Relationship.key_inj`).  A dash at the end of a source is no arrow yet.  The main statement is
`Architecture.changes_keep_in_step`.
-/
import C4Lint.Proofs.Firsts
import C4Lint.Architecture.Basic

namespace C4Lint

/-! ### Keys -/

/-- An arrow that begins before another one and in a text without arrows begins at its end: the two
cannot overlap, since a dash differs from the other character of an arrow. -/
lemma Text.eq_nil_of_arrow_eq_append {a b rest rest' : Text}
    (hfree : Text.occursIn "->".toList (a ++ b) = false)
    (h : '-' :: '>' :: rest = b ++ '-' :: '>' :: rest') : b = [] := by
  match b with
  | [] => rfl
  | [c] => simp at h
  | c :: d :: b =>
    simp only [List.cons_append, List.cons.injEq] at h
    obtain ⟨rfl, rfl, -⟩ := h
    have hoccurs : Text.occursIn "->".toList (a ++ '-' :: '>' :: b) = true :=
      Text.occursIn_eq_true_iff.2 ⟨a, b, by simp⟩
    rw [hfree] at hoccurs
    exact absurd hoccurs (by simp)

namespace Relationship

variable {r s : Relationship}

/-- If the sources hold no arrow, then relationships of one key have the same two names. -/
theorem key_inj (hr : Text.occursIn "->".toList r.source = false)
    (hs : Text.occursIn "->".toList s.source = false) (h : r.key = s.key) :
    r.source = s.source ∧ r.destination = s.destination := by
  have hkeys : r.source ++ '-' :: '>' :: r.destination
      = s.source ++ '-' :: '>' :: s.destination := by
    simpa [key] using h
  -- one of the sources begins the other, and the arrow behind it begins in the other or behind it
  rcases List.append_eq_append_iff.1 hkeys with ⟨b, hsource, hrest⟩ | ⟨b, hsource, hrest⟩
  · rw [hsource] at hs
    obtain rfl := Text.eq_nil_of_arrow_eq_append hs hrest
    exact ⟨by simpa using hsource.symm, by simpa using hrest⟩
  · rw [hsource] at hr
    obtain rfl := Text.eq_nil_of_arrow_eq_append hr hrest
    exact ⟨by simpa using hsource, by simpa using hrest.symm⟩

/-- Where no source holds an arrow, keys are the same exactly if both names are. -/
lemma key_eq_key_iff (hr : Text.occursIn "->".toList r.source = false)
    (hs : Text.occursIn "->".toList s.source = false) :
    r.key = s.key ↔ r.source = s.source ∧ r.destination = s.destination := by
  constructor
  · exact key_inj hr hs
  · rintro ⟨hsource, hdestination⟩
    rw [key, key, hsource, hdestination]

/-- An arrow in a source may be taken for the one behind it. -/
example : (⟨"a->".toList, "b".toList, none, 1⟩ : Relationship).key
    = (⟨"a".toList, "->b".toList, none, 2⟩ : Relationship).key := by
  decide

end Relationship

/-! ### Changes -/

/-- What an architecture can be told. -/
inductive Change where
  /-- An element is declared. -/
  | declare (x : Element)
  /-- A relationship is stated. -/
  | relate (r : Relationship)
deriving DecidableEq, Repr

namespace Change

/-- The element that is declared. -/
def element? : Change → Option Element
  | declare x => some x
  | relate _ => none

/-- The relationship that is stated. -/
def relationship? : Change → Option Relationship
  | declare _ => none
  | relate r => some r

lemma mem_filterMap_element? {cs : List Change} {x : Element} :
    x ∈ cs.filterMap element? ↔ declare x ∈ cs := by
  rw [List.mem_filterMap]
  constructor
  · rintro ⟨_ | _, hc, ⟨⟩⟩
    exact hc
  · intro hx
    exact ⟨declare x, hx, rfl⟩

end Change

namespace Architecture

/-- The architecture after a change. -/
def change (a : Architecture) : Change → Architecture
  | .declare x => a.declare x
  | .relate r => a.relate r

/-- The architecture that changes make of an empty one. -/
def ofChanges (cs : List Change) : Architecture := cs.foldl change {}

/-! ### One change -/

@[simp] lemma keys_declare (a : Architecture) (x : Element) : (a.declare x).keys = a.keys := by
  rw [declare]
  split <;> rfl

lemma elements_declare (a : Architecture) (x : Element) :
    (a.declare x).elements.toList
      = a.elements.toList ++ [x].filter fun y => !a.declares y.name := by
  rw [declare]
  split
  · next h => simp [declares, h]
  · next h => simp [declares, h]

lemma relationships_relate (a : Architecture) (r : Relationship) :
    (a.relate r).relationships.toList
      = a.relationships.toList ++ [r].filter fun s => !a.keys.contains s.key := by
  rw [relate]
  split
  · next h => simp [h]
  · next h => simp [h]

lemma contains_keys_relate (a : Architecture) (r : Relationship) (k : Text) :
    (a.relate r).keys.contains k = (decide (r.key = k) || a.keys.contains k) := by
  rw [relate]
  split
  · next h =>
    rcases eq_or_ne r.key k with rfl | hne
    · simp [h]
    · simp [hne]
  · rw [Std.TreeSet.contains_insert, Bool.eq_iff_iff]
    simp [Std.LawfulEqCmp.compare_eq_iff_eq]

/-- Elements are recorded by their names. -/
theorem records_elements :
    Records Element.name change Change.element? (fun a => a.elements.toList) declares where
  items_step a c := by
    cases c with
    | declare x => exact elements_declare a x
    | relate r => simp [change, Change.element?]
  seen_step a c k := by
    cases c with
    | declare x => simp [change, Change.element?, declares_declare, beq_eq_decide]
    | relate r => simp [change, Change.element?]

/-- Relationships are recorded by their keys. -/
theorem records_relationships :
    Records Relationship.key change Change.relationship? (fun a => a.relationships.toList)
      fun a => a.keys.contains where
  items_step a c := by
    cases c with
    | declare x => simp [change, Change.relationship?]
    | relate r => exact relationships_relate a r
  seen_step a c k := by
    cases c with
    | declare x => simp [change, Change.relationship?]
    | relate r => exact contains_keys_relate a r k

/-- A change leaves what an architecture holds and adds one thing behind it at most. -/
lemma exists_append_change (a : Architecture) (c : Change) :
    ∃ xs rs, (a.change c).elements.toList = a.elements.toList ++ xs ∧
      (a.change c).relationships.toList = a.relationships.toList ++ rs ∧
      xs.length + rs.length ≤ 1 := by
  cases c with
  | declare x =>
    refine ⟨_, [], elements_declare a x, by simp [change], ?_⟩
    exact List.length_filter_le _ [x]
  | relate r =>
    refine ⟨[], _, by simp [change], relationships_relate a r, ?_⟩
    rw [List.length_nil, Nat.zero_add]
    exact List.length_filter_le _ [r]

/-! ### All changes -/

/-- Nothing is declared before the first change. -/
lemma declares_empty (name : Text) : ({} : Architecture).declares name = false :=
  Std.TreeSet.contains_emptyc

lemma contains_keys_empty (k : Text) : ({} : Architecture).keys.contains k = false :=
  Std.TreeSet.contains_emptyc

/-- What an architecture holds after changes to an empty one, with its sets in step. -/
structure Holds (a : Architecture) (cs : List Change) : Prop where
  /-- The elements are the first ones that were declared under each name. -/
  elements_eq : a.elements.toList = firstsBy Element.name (cs.filterMap Change.element?)
  /-- The relationships are the first ones that were stated of each key. -/
  relationships_eq :
    a.relationships.toList = firstsBy Relationship.key (cs.filterMap Change.relationship?)
  /-- The names are those of the elements. -/
  mem_names_iff : ∀ name, name ∈ a.names ↔ name ∈ a.elements.toList.map Element.name
  /-- The keys are those of the relationships. -/
  mem_keys_iff : ∀ k, k ∈ a.keys ↔ k ∈ a.relationships.toList.map Relationship.key
  /-- No two elements have one name. -/
  nodup_names : (a.elements.toList.map Element.name).Nodup
  /-- No two relationships have one key. -/
  nodup_keys : (a.relationships.toList.map Relationship.key).Nodup
  /-- A name is declared exactly if one of the changes has declared it. -/
  declares_iff : ∀ name, a.declares name = true ↔ ∃ x, .declare x ∈ cs ∧ x.name = name

/-- Changes of any kind and in any order keep the sets in step. -/
theorem holds_ofChanges (cs : List Change) : (ofChanges cs).Holds cs := by
  have helements : (ofChanges cs).elements.toList
      = firstsBy Element.name (cs.filterMap Change.element?) := by
    rw [ofChanges, records_elements.items_foldl]
    simp [declares_empty]
  have hrelationships : (ofChanges cs).relationships.toList
      = firstsBy Relationship.key (cs.filterMap Change.relationship?) := by
    rw [ofChanges, records_relationships.items_foldl]
    simp
  have hdeclares : ∀ name, (ofChanges cs).declares name = true ↔
      ∃ x ∈ cs.filterMap Change.element?, x.name = name := by
    intro name
    rw [ofChanges, records_elements.seen_foldl, declares_empty]
    simp
  have hkeys : ∀ k, (ofChanges cs).keys.contains k = true ↔
      ∃ r ∈ cs.filterMap Change.relationship?, r.key = k := by
    intro k
    rw [ofChanges, records_relationships.seen_foldl, contains_keys_empty]
    simp
  refine ⟨helements, hrelationships, fun name => ?_, fun k => ?_, ?_, ?_, fun name => ?_⟩
  · rw [← Std.TreeSet.contains_iff_mem, helements, mem_map_firstsBy, List.mem_map]
    exact hdeclares name
  · rw [← Std.TreeSet.contains_iff_mem, hrelationships, mem_map_firstsBy, List.mem_map]
    exact hkeys k
  · rw [helements]
    exact nodup_map_firstsBy Element.name _
  · rw [hrelationships]
    exact nodup_map_firstsBy Relationship.key _
  · simp only [hdeclares, Change.mem_filterMap_element?]

/-- Whatever changes are made to an empty architecture, it holds the first element of each name and
the first relationship of each key, its sets repeat these names and keys, and it declares the names
that it was told to.  A change to any architecture leaves what is there and adds one thing behind it
at most.  Keys tell the pairs of names apart as long as no source holds an arrow, whatever dashes are
in them. -/
theorem changes_keep_in_step :
    (∀ cs, (ofChanges cs).Holds cs) ∧
    (∀ (a : Architecture) (c : Change), ∃ xs rs,
      (a.change c).elements.toList = a.elements.toList ++ xs ∧
      (a.change c).relationships.toList = a.relationships.toList ++ rs ∧
      xs.length + rs.length ≤ 1) ∧
    ∀ r s : Relationship, Text.occursIn "->".toList r.source = false →
      Text.occursIn "->".toList s.source = false →
      (r.key = s.key ↔ r.source = s.source ∧ r.destination = s.destination) :=
  ⟨holds_ofChanges, exists_append_change, fun _ _ => Relationship.key_eq_key_iff⟩

/-- An element is declared again as something else, and two relationships differ in where a dash
stands, the arrow of the first key beginning behind the dash. -/
theorem changes_keep_in_step_of_dashes :
    let x : Element := ⟨"a-".toList, .person, 3⟩
    let y : Element := ⟨"a-".toList, .container, 9⟩
    let r : Relationship := ⟨"a-".toList, ">b".toList, none, 4⟩
    let s : Relationship := ⟨"a".toList, "->b".toList, none, 5⟩
    let a := ofChanges [.declare x, .relate r, .declare y, .relate s, .relate r]
    a.elements = #[x] ∧ a.relationships = #[r, s] ∧
    a.Holds [.declare x, .relate r, .declare y, .relate s, .relate r] ∧
    Text.occursIn "->".toList r.source = false ∧ Text.occursIn "->".toList s.source = false ∧
    r.key ≠ s.key := by
  intro x y r s a
  have hr : Text.occursIn "->".toList r.source = false := by decide
  have hs : Text.occursIn "->".toList s.source = false := by decide
  obtain ⟨hholds, -, hkeys⟩ := changes_keep_in_step
  refine ⟨by decide +kernel, by decide +kernel, hholds _, hr, hs, fun h => ?_⟩
  exact absurd ((hkeys r s hr hs).1 h).1 (by decide)

end Architecture

end C4Lint
