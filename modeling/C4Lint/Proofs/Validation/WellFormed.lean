/-
# Well-formed documents have no issues

A document that spells out a well-formed blueprint gets no complaints: it is not taken for anything
but what the blueprint says, and all that may be found are elements without relationships, which is
no more than a note.  The main statement is `Validation.ofDocument_of_wellFormed`.  It holds for
blueprints of any size, for any blanks at the front of the lines, and whatever is asked of the
validation.
-/
import C4Lint.Proofs.Blueprint.Basic
import C4Lint.Proofs.Validation.CrossReference
import C4Lint.Proofs.Validation.Recording
import C4Lint.Proofs.Validation.Verdict

namespace C4Lint

open Text (Blanks)

namespace Blueprint

variable {b : Blueprint} {indent : Nat → Text} {content : Text}

/-! ### The outline -/

lemma count_flatMap_declares {α : Type} {c : Lexeme} (r : Region) (f : α → Declaration)
    (xs : List α) (h : ∀ x, (f x).lexemes.count c = 0) :
    (((xs.map f).map (Line.declares r)).flatMap Line.lexemes).count c = 0 := by
  induction xs with
  | nil => rfl
  | cons x xs ih => simpa [Line.lexemes, h x] using ih

/-- The lines of a blueprint open three blocks, and they close three: what is declared in the
sections adds none. -/
lemma count_braces_lines (b : Blueprint) :
    (b.lines.flatMap Line.lexemes).count .openBrace = 3 ∧
      (b.lines.flatMap Line.lexemes).count .closeBrace = 3 := by
  have hframe : ∀ c : Lexeme, (∀ d : Declaration, d.opensBlock = false → d.lexemes.count c = 0) →
      (b.lines.flatMap Line.lexemes).count c
        = ([.declares .outside (.workspace b.name), .opensModel, .closes, .opensViews, .closes,
            .closes].flatMap Line.lexemes).count c := by
    intro c hc
    simp only [lines, List.flatMap_cons, List.flatMap_append, List.count_append,
      count_flatMap_declares .model PlannedElement.declaration b.elements fun x => hc _ rfl,
      count_flatMap_declares .model PlannedRelationship.declaration b.relationships
        fun r => hc _ rfl,
      count_flatMap_declares .views PlannedView.declaration b.views fun v => hc _ rfl,
      Nat.zero_add]
  constructor
  · rw [hframe]
    · rfl
    · intro d hd
      rw [d.count_braces_lexemes.1, hd, if_neg Bool.false_ne_true]
  · rw [hframe]
    · rfl
    · exact fun d _ => d.count_braces_lexemes.2

lemma declaresWorkspace_of_writtenOn (hb : b.WellFormed)
    (h : Text.WrittenOn (layout indent 1 b.lines) content) : Outline.DeclaresWorkspace content := by
  obtain ⟨before, after, hcontent⟩ := exists_append_of_mem h
    (l := .declares .outside (.workspace b.name)) (by simp [lines])
  have htext : Line.text (.declares .outside (.workspace b.name))
      = "workspace".toList ++ (' ' :: '"' :: b.name ++ ['"']) ++ [' ', '{'] := rfl
  obtain ⟨hquote, hnewline, -, -⟩ := hb.isBody_name
  refine ⟨before, [' '], b.name, [' '], after, by simp, by decide, hb.name_ne_nil,
    fun c hc => ⟨?_, ?_⟩, by decide, ?_⟩
  · rintro rfl
    exact hquote hc
  · rintro rfl
    exact hnewline hc
  · rw [hcontent, htext]
    simp only [List.append_assoc, List.cons_append, List.nil_append]

lemma opens_of_writtenOn (h : Text.WrittenOn (layout indent 1 b.lines) content) {l : Line}
    (hl : l ∈ b.lines) {word : Text} (hword : l.text = word ++ [' ', '{']) :
    Outline.Opens word content := by
  obtain ⟨before, after, hcontent⟩ := exists_append_of_mem h hl
  exact ⟨before, [' '], after, by decide, by rw [hcontent, hword]; simp⟩

/-- A document that spells out a blueprint has the outline that is asked for. -/
theorem outlineIssues_of_writtenOn (hb : b.WellFormed) (hindent : ∀ i, Blanks (indent i))
    (h : Text.WrittenOn (layout indent 1 b.lines) content) : Outline.issues content = [] := by
  have hbraces : content.count '{' = content.count '}' := by
    obtain ⟨hopening, hclosing⟩ := count_braces_text (sound_of_mem_lines hb)
    obtain ⟨hthree, hthree'⟩ := b.count_braces_lines
    rw [Text.count_of_writtenOn (by decide) h, Text.count_of_writtenOn (by decide) h,
      count_layout hindent (by decide), count_layout hindent (by decide), hopening, hclosing,
      hthree, hthree']
  rw [Outline.issues, List.map_eq_nil_iff, List.eq_nil_iff_forall_not_mem]
  intro f hf
  rcases Outline.mem_findings.1 hf with ⟨-, hf⟩ | ⟨-, hf⟩ | ⟨-, hf⟩ | ⟨-, hf⟩
  · exact hf (declaresWorkspace_of_writtenOn hb h)
  · exact hf (opens_of_writtenOn h (l := .opensModel) (by simp [lines]) rfl)
  · exact hf (opens_of_writtenOn h (l := .opensViews) (by simp [lines]) rfl)
  · exact hf hbraces

/-! ### The entries -/

lemma elements_entries (hb : b.WellFormed) :
    Entry.elements (entries 1 b.lines) = b.declaredElements := by
  rw [Entry.elements_eq_filterMap, filterMap_declarations_entries _ (sound_of_mem_lines hb),
    readOff_lines]
  simp [Element.ofDeclaration?, PlannedElement.declaration, PlannedRelationship.declaration,
    PlannedView.declaration, declaredElements]

lemma relationships_entries (hb : b.WellFormed) :
    Entry.relationships (entries 1 b.lines) = b.statedRelationships := by
  rw [Entry.relationships_eq_filterMap, filterMap_declarations_entries _ (sound_of_mem_lines hb),
    readOff_lines]
  simp [Relationship.ofDeclaration?, PlannedElement.declaration, PlannedRelationship.declaration,
    PlannedView.declaration, statedRelationships]

lemma workspaceName?_entries (hb : b.WellFormed) :
    Entry.workspaceName? (entries 1 b.lines) = some b.name := by
  rw [Entry.workspaceName?_eq_getLast?,
    filterMap_declarations_entries (fun _ d => d.workspaceName?) (sound_of_mem_lines hb),
    readOff_lines]
  simp [Declaration.workspaceName?, PlannedElement.declaration, PlannedRelationship.declaration,
    PlannedView.declaration]

lemma reading_ne_malformed (hb : b.WellFormed) {e : Entry} (he : e ∈ entries 1 b.lines)
    (f : Form) : e.reading ≠ .malformed f := by
  obtain ⟨⟨l, n⟩, hl, rfl⟩ := List.mem_map.1 he
  rw [(sound_of_mem_lines hb l (List.fst_mem_of_mem_zipIdx hl)).reading_entry n]
  cases l.declaration? <;> simp

/-! ### The references -/

/-- The names in the relationships of a blueprint are external or declared before they are used. -/
lemma isExternal_or_declaresBefore (hb : b.WellFormed) {r : Relationship}
    (hr : r ∈ b.statedRelationships) (p : Endpoint) :
    isExternal (r.nameAt p) = true ∨
      Entry.DeclaresBefore (entries 1 b.lines) r.line (r.nameAt p) := by
  obtain ⟨hrefers, hline⟩ := refers_of_mem_statedRelationships hb hr
  rcases hrefers p with ⟨x, hx, hname⟩ | ⟨hext, -⟩
  · obtain ⟨e, he, hexname, hexline⟩ := exists_mem_declaredElements hx
    refine Or.inr ⟨e, ?_, Nat.lt_of_lt_of_le hexline hline, hexname.trans hname⟩
    rwa [elements_entries hb]
  · exact Or.inl hext

lemma allIssues_entries (hb : b.WellFormed)
    (hes : (entries 1 b.lines).Pairwise fun e f => e.line < f.line) :
    Entry.allIssues {} (entries 1 b.lines) = [] := by
  rw [List.eq_nil_iff_forall_not_mem]
  intro i hi
  rcases (Entry.mem_allIssues_iff hes).1 hi
    with ⟨e, he, f, hf, -⟩ | ⟨e, he, r, p, hr, hext, hdecl, -⟩
  · exact reading_ne_malformed hb he f hf
  · have hstated : r ∈ b.statedRelationships := by
      rw [← relationships_entries hb]
      exact Entry.mem_relationships.2 ⟨e, he, hr⟩
    rw [← Entry.line_of_relationshipOf? hr] at hdecl
    rcases isExternal_or_declaresBefore hb hstated p with h | h
    · exact absurd (hext.symm.trans h) (by simp)
    · exact hdecl h

lemma undeclaredMentions_entries (hb : b.WellFormed) :
    Entry.undeclaredMentions (entries 1 b.lines) = [] := by
  rw [List.eq_nil_iff_forall_not_mem]
  intro m hm
  obtain ⟨hmention, hext, hdecl⟩ := Entry.mem_mentions_of_mem_undeclaredMentions hm
  obtain ⟨r, hr, p, hname, -⟩ := Entry.mem_mentions.1 hmention
  rw [relationships_entries hb] at hr
  rw [← hname] at hext hdecl
  rcases isExternal_or_declaresBefore hb hr p with h | h
  · exact absurd (hext.symm.trans h) (by simp)
  · exact hdecl h.declares

lemma map_name_mentions_entries (hb : b.WellFormed) :
    (Entry.mentions (entries 1 b.lines)).map Mention.name
      = b.relationships.flatMap fun r => [r.source, r.destination] := by
  calc (Entry.mentions (entries 1 b.lines)).map Mention.name
      = (b.statedRelationships.map Relationship.ends).flatMap fun q => [q.1, q.2] := by
        rw [Entry.mentions, relationships_entries hb, List.map_flatMap, List.flatMap_map]
        rfl
    _ = b.relationships.flatMap fun r => [r.source, r.destination] := by
        rw [map_ends_statedRelationships, List.flatMap_map]

lemma unusedElements_entries (hb : b.WellFormed) :
    Entry.unusedElements (entries 1 b.lines) = b.unrelatedElements := by
  rw [Entry.unusedElements, elements_entries hb,
    firstsBy_eq_self _ (nodup_map_name_declaredElements hb), unrelatedElements]
  refine List.filter_congr fun x _ => ?_
  have hmention : (∀ m ∈ Entry.mentions (entries 1 b.lines), m.name ≠ x.name) ↔
      ∀ name ∈ (Entry.mentions (entries 1 b.lines)).map Mention.name, name ≠ x.name := by
    rw [List.forall_mem_map]
  rw [decide_eq_decide, hmention, map_name_mentions_entries hb, List.forall_mem_flatMap]
  simp

/-! ### The document -/

lemma all_eq_entries (hb : b.WellFormed) (hindent : ∀ i, Blanks (indent i) ∧ '\n' ∉ indent i)
    (h : Text.WrittenOn (layout indent 1 b.lines) content) (nesting : Nesting) :
    Entry.all nesting content = entries 1 b.lines :=
  all_of_writtenOn (sound_of_mem_lines hb) (inPlace_lines b) (by simp [lines]) hindent h nesting

/-- Of the three parts of the issues, only the last holds anything, and it holds notes. -/
theorem issues_of_writtenOn (options : Options) (hb : b.WellFormed)
    (hindent : ∀ i, Blanks (indent i) ∧ '\n' ∉ indent i)
    (h : Text.WrittenOn (layout indent 1 b.lines) content) :
    (Validation.ofDocument options content).issues
      = if options.crossReferences = true then
          b.unrelatedElements.map fun x =>
            ⟨.info, x.line, x.kind.title ++ " '".toList ++ x.name
              ++ "' is not used in any relationship".toList, none⟩
        else [] := by
  have hentries := all_eq_entries hb hindent h options.nesting
  have hes := Entry.pairwise_line_all options.nesting content
  rw [hentries] at hes
  rw [Validation.issues_ofDocument, hentries, allIssues_entries hb hes,
    outlineIssues_of_writtenOn hb (fun i => (hindent i).1) h,
    Architecture.crossReferences_ofEntries, undeclaredMentions_entries hb,
    unusedElements_entries hb]
  rfl

end Blueprint

/-- A document that spells out a well-formed blueprint passes, and the only issues are notes about
elements that take part in no relationship, and these only when references are checked at the end.
The validation finds the name of the workspace, the elements, and the first relationship of each
pair of names, each on its line. -/
theorem Validation.ofDocument_of_wellFormed (options : Options) {b : Blueprint} (hb : b.WellFormed)
    {indent : Nat → Text} (hindent : ∀ i, Blanks (indent i) ∧ '\n' ∉ indent i) {content : Text}
    (h : Text.WrittenOn (Blueprint.layout indent 1 b.lines) content) :
    (ofDocument options content).passed = true ∧
    (ofDocument options content).issues
      = (if options.crossReferences = true then
          b.unrelatedElements.map fun x =>
            ⟨.info, x.line, x.kind.title ++ " '".toList ++ x.name
              ++ "' is not used in any relationship".toList, none⟩
        else []) ∧
    (ofDocument options content).workspace = some b.name ∧
    (ofDocument options content).architecture.elements.toList = b.declaredElements ∧
    (ofDocument options content).architecture.relationships.toList
      = firstsBy Relationship.ends b.statedRelationships := by
  have hentries : Entry.all options.nesting content = Blueprint.entries 1 b.lines :=
    Blueprint.all_eq_entries hb hindent h options.nesting
  have hnotes := Blueprint.issues_of_writtenOn options hb hindent h
  refine ⟨?_, hnotes, ?_, ?_, ?_⟩
  · rw [passed, hnotes, Issue.passes_eq_true_iff]
    split_ifs
    · intro i hi
      obtain ⟨x, -, rfl⟩ := List.mem_map.1 hi
      simp
    · simp
  · rw [ofDocument, hentries]
    exact Blueprint.workspaceName?_entries hb
  · rw [ofDocument, hentries]
    show (Architecture.ofEntries (Blueprint.entries 1 b.lines)).elements.toList = _
    rw [Architecture.elements_ofEntries, Blueprint.elements_entries hb,
      firstsBy_eq_self _ (Blueprint.nodup_map_name_declaredElements hb)]
  · rw [ofDocument, hentries]
    show (Architecture.ofEntries (Blueprint.entries 1 b.lines)).relationships.toList = _
    rw [Architecture.relationships_ofEntries_eq_firstsBy_ends, Blueprint.relationships_entries hb]

/-- A shop whose strings hold arrows, comment signs and keywords of other places, with a
relationship that is stated twice and an auditor who takes part in none. -/
theorem Validation.ofDocument_of_wellFormed_shop :
    let shop : Blueprint :=
      { name := "Shop // 24 # 7".toList
        elements :=
          [⟨.person, "customer".toList, "Buys -> things".toList, none, none⟩,
           ⟨.softwareSystem, "shop".toList, "Sells = things".toList, none, none⟩,
           ⟨.container, "db".toList, "Keeps // orders".toList, some "SQL".toList, some "x".toList⟩,
           ⟨.person, "auditor".toList, "Reads # books".toList, some "views".toList, none⟩]
        relationships :=
          [⟨"customer".toList, "shop".toList, some "orders".toList⟩,
           ⟨"shop".toList, "mail.External".toList, none⟩,
           ⟨"customer".toList, "shop".toList, none⟩,
           ⟨"db".toList, "shop".toList, none⟩]
        views := [⟨.systemContext, "shop".toList, some "The workspace".toList⟩] }
    let indent : Nat → Text := fun i => if i % 2 = 0 then ['\t'] else []
    let content := Text.unlines (List.map String.toList
      ["workspace \"Shop // 24 # 7\" \x7b", "\tmodel \x7b", "customer = person \"Buys -> things\"",
        "\tshop = softwareSystem \"Sells = things\"",
        "db = container \"Keeps // orders\" \"SQL\" \"x\"",
        "\tauditor = person \"Reads # books\" \"views\"", "customer -> shop \"orders\"",
        "\tshop -> mail.External", "customer -> shop", "\tdb -> shop", "\x7d", "\tviews \x7b",
        "systemContext shop \"The workspace\"", "\t\x7d", "\x7d"])
    shop.WellFormed ∧ (∀ i, Blanks (indent i) ∧ '\n' ∉ indent i) ∧
    Text.WrittenOn (Blueprint.layout indent 1 shop.lines) content ∧
    (ofDocument ⟨.nested, true⟩ content).passed = true ∧
    (ofDocument ⟨.nested, true⟩ content).issues
      = [⟨.info, 6, "Person 'auditor' is not used in any relationship".toList, none⟩] := by
  intro shop indent content
  have hshop : shop.WellFormed := by decide +kernel
  have hindent : ∀ i, Blanks (indent i) ∧ '\n' ∉ indent i := by
    intro i
    show Blanks (if i % 2 = 0 then ['\t'] else []) ∧ '\n' ∉ if i % 2 = 0 then ['\t'] else []
    split_ifs <;> decide
  have hwritten : Text.WrittenOn (Blueprint.layout indent 1 shop.lines) content :=
    Or.inl (by decide +kernel)
  obtain ⟨hpassed, hissues, -⟩ := ofDocument_of_wellFormed ⟨.nested, true⟩ hshop hindent hwritten
  exact ⟨hshop, hindent, hwritten, hpassed, hissues.trans (by decide +kernel)⟩

end C4Lint
