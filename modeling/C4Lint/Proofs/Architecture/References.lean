/-
# References checked at the end

At the end of a document its architecture holds only the first relationship of each key and the
first element of each name.  Nothing that the last checks look for is lost by that: what they find
is what all statements of the document show together.  `neverDefined_ofEntries` says so of the
names that are never defined, `unconnected_ofEntries` of the elements that are never used, and
`crossReferences_ofEntries` of the issues that come of both.
-/
import C4Lint.Proofs.Architecture.Recorded

namespace C4Lint

namespace Entry

/-- The first mentions of the names that are neither external nor declared by an entry. -/
def undeclaredMentions (es : List Entry) : List Mention :=
  firstsBy Mention.name
    ((mentions es).filter fun m => isExternal m.name = false ∧ ¬Declares es m.name)

/-- The first declarations of the elements that no relationship mentions. -/
def unusedElements (es : List Entry) : List Element :=
  (firstsBy Element.name (elements es)).filter fun x => ∀ m ∈ mentions es, m.name ≠ x.name

/-! ### The first mentions -/

lemma mem_mentions_of_mem_undeclaredMentions {es : List Entry} {m : Mention}
    (h : m ∈ undeclaredMentions es) :
    m ∈ mentions es ∧ isExternal m.name = false ∧ ¬Declares es m.name := by
  have hm := mem_of_mem_firstsBy Mention.name h
  rwa [List.mem_filter, decide_eq_true_eq] at hm

/-- A name that is neither external nor declared has a first mention. -/
lemma exists_mem_undeclaredMentions {es : List Entry} {m : Mention} (hm : m ∈ mentions es)
    (hext : isExternal m.name = false) (hdecl : ¬Declares es m.name) :
    ∃ n ∈ undeclaredMentions es, n.name = m.name :=
  exists_mem_firstsBy Mention.name (List.mem_filter.2 ⟨hm, decide_eq_true ⟨hext, hdecl⟩⟩)

/-- A document mentions names in the order of its lines. -/
lemma pairwise_line_mentions {es : List Entry} (hes : es.Pairwise fun e f => e.line < f.line) :
    (mentions es).Pairwise fun m n => m.line ≤ n.line := by
  induction es with
  | nil => exact List.Pairwise.nil
  | cons e es ih =>
    obtain ⟨he, hrest⟩ := List.pairwise_cons.1 hes
    cases hr : Architecture.relationshipOf? e with
    | none =>
      have hcons : mentions (e :: es) = mentions es := by
        rw [mentions, relationships, List.filterMap_cons_none hr]
        rfl
      rw [hcons]
      exact ih hrest
    | some r =>
      have hcons : mentions (e :: es)
          = [⟨r.source, r.line⟩, ⟨r.destination, r.line⟩] ++ mentions es := by
        rw [mentions, relationships, List.filterMap_cons_some hr]
        rfl
      rw [hcons, List.pairwise_append]
      refine ⟨by simp, ih hrest, ?_⟩
      -- both ends of a relationship are mentioned on its line, and all others on later ones
      intro m hm n hn
      have hline : m.line = e.line := by
        rw [← line_of_relationshipOf? hr]
        rcases List.mem_pair.1 hm with rfl | rfl <;> rfl
      obtain ⟨s, hs, p, -, hsn⟩ := mem_mentions.1 hn
      obtain ⟨f, hf, hfs⟩ := mem_relationships.1 hs
      have hlt := he f hf
      rw [line_of_relationshipOf? hfs] at hsn
      omega

/-- The first mention of a name is on no later line than any other. -/
lemma line_le_of_mem_undeclaredMentions {es : List Entry}
    (hes : es.Pairwise fun e f => e.line < f.line) {m n : Mention}
    (hm : m ∈ undeclaredMentions es) (hn : n ∈ mentions es) (h : n.name = m.name) :
    m.line ≤ n.line := by
  obtain ⟨-, hext, hdecl⟩ := mem_mentions_of_mem_undeclaredMentions hm
  have hn' : n ∈ (mentions es).filter
      fun m => isExternal m.name = false ∧ ¬Declares es m.name := by
    rw [List.mem_filter, decide_eq_true_eq, h]
    exact ⟨hn, hext, hdecl⟩
  have hsorted := (pairwise_line_mentions hes).filter
    fun m => isExternal m.name = false ∧ ¬Declares es m.name
  rcases first_of_mem_firstsBy Mention.name hsorted hm hn' h with rfl | hle
  · exact Nat.le_refl _
  · exact hle

/-- An element that is mentioned before it is declared has its first declaration on a later line. -/
lemma exists_declared_after {es : List Entry} (hes : es.Pairwise fun e f => e.line < f.line)
    {m : Mention} (hm : m ∈ mentions es) (hdecl : Declares es m.name)
    (hbefore : ¬DeclaresBefore es m.line m.name) :
    ∃ x ∈ firstsBy Element.name (elements es), x.name = m.name ∧ m.line < x.line := by
  obtain ⟨y, hy, hyname⟩ := hdecl
  obtain ⟨x, hx, hxy⟩ := exists_mem_firstsBy Element.name hy
  have hname : x.name = m.name := hxy.trans hyname
  have hmem : x ∈ elements es := mem_of_mem_firstsBy Element.name hx
  -- its line is not before that of the mention, nor can one line declare and mention
  have hge : ¬x.line < m.line := fun hlt => hbefore ⟨x, hmem, hlt, hname⟩
  have hne : x.line ≠ m.line := line_ne_of_mem_mentions hes hmem hm
  refine ⟨x, hx, hname, ?_⟩
  omega

end Entry

namespace Architecture

/-! ### Names that are never defined -/

/-- What the seen names leave of the mentions are the first ones of the other names. -/
lemma firsts_eq_firstsBy (seen : Std.TreeSet Text) (ms : List Mention) :
    Mention.firsts seen ms
      = firstsBy Mention.name (ms.filter fun m => !seen.contains m.name) := by
  induction ms generalizing seen with
  | nil => rfl
  | cons m ms ih =>
    by_cases hm : seen.contains m.name = true
    · rw [Mention.firsts, if_pos hm, ih, List.filter_cons_of_neg (by simp [hm])]
    · have hseen : ∀ k, (!(seen.insert m.name).contains k)
          = (decide (k ≠ m.name) && !seen.contains k) := by
        intro k
        rcases eq_or_ne k m.name with rfl | hne
        · simp
        · rw [Std.TreeSet.contains_insert, Bool.eq_iff_iff]
          simp [Std.LawfulEqCmp.compare_eq_iff_eq, hne, hne.symm]
      rw [Mention.firsts, if_neg hm, ih,
        firstsBy_filter_cons_of_pos Mention.name (p := fun k => !seen.contains k)
          (by rw [eq_false_of_ne_true hm]; rfl) hseen]

/-- The names at the two ends are those that the key of a relationship tells apart. -/
lemma firstsBy_mentions_ofEntries (es : List Entry) :
    firstsBy Mention.name (ofEntries es).mentions = firstsBy Mention.name (Entry.mentions es) := by
  rw [mentions, relationships_ofEntries]
  refine firstsBy_flatMap_firstsBy Relationship.key Mention.name _ (Entry.relationships es) ?_
  intro r hr s hs hkey
  obtain ⟨hsource, hdestination⟩ := Entry.source_destination_of_key_eq hr hs hkey
  simp [Endpoint.all, Relationship.nameAt, hsource, hdestination]

/-- The names reported as never defined are those that all relationships of the document mention and
that none of its entries declares, each at its first mention. -/
theorem neverDefined_ofEntries (es : List Entry) :
    (ofEntries es).neverDefined = Entry.undeclaredMentions es := by
  have hopen : ∀ name, (!(ofEntries es).resolves name)
      = decide (isExternal name = false ∧ ¬Entry.Declares es name) := by
    intro name
    rw [Bool.eq_iff_iff, Bool.not_eq_true', ← Bool.not_eq_true, resolves_ofEntries_iff, not_or,
      Bool.not_eq_true, decide_eq_true_eq]
  calc (ofEntries es).neverDefined
      = firstsBy Mention.name
          ((ofEntries es).mentions.filter fun m => !(ofEntries es).resolves m.name) := by
        rw [neverDefined, firsts_eq_firstsBy]
        simp
    _ = (firstsBy Mention.name (Entry.mentions es)).filter
          fun m => !(ofEntries es).resolves m.name := by
        rw [firstsBy_filter Mention.name fun k => !(ofEntries es).resolves k,
          firstsBy_mentions_ofEntries]
    _ = Entry.undeclaredMentions es := by
        rw [← firstsBy_filter Mention.name fun k => !(ofEntries es).resolves k]
        simp only [hopen]
        rfl

/-- Both names are mentioned too early, but only `a` stays without a declaration. -/
example :
    (ofEntries (Entry.all .flat
      "model \x7b\na -> b\nb -> a\nb = person \"B\"\n\x7d".toList)).neverDefined
      = [⟨['a'], 2⟩] := by
  decide +kernel

/-! ### Elements that are never used -/

/-- A recorded relationship touches a name exactly when one of the document mentions it. -/
lemma any_touches_ofEntries (es : List Entry) (name : Text) :
    ((ofEntries es).relationships.any fun r => r.touches name) = true ↔
      ∃ m ∈ Entry.mentions es, m.name = name := by
  have htouches : ∀ r : Relationship, r.touches name = true ↔ ∃ p, r.nameAt p = name := by
    intro r
    rw [Relationship.touches, Bool.or_eq_true, beq_iff_eq, beq_iff_eq]
    constructor
    · rintro (h | h)
      · exact ⟨.source, h⟩
      · exact ⟨.destination, h⟩
    · rintro ⟨p, h⟩
      cases p with
      | source => exact Or.inl h
      | destination => exact Or.inr h
  rw [← Array.any_toList, List.any_eq_true, relationships_ofEntries]
  constructor
  · rintro ⟨r, hr, ht⟩
    obtain ⟨p, hp⟩ := (htouches r).1 ht
    exact ⟨⟨r.nameAt p, r.line⟩,
      Entry.mem_mentions.2 ⟨r, mem_of_mem_firstsBy Relationship.key hr, p, rfl, rfl⟩, hp⟩
  · rintro ⟨m, hm, rfl⟩
    obtain ⟨r, hr, p, hp, -⟩ := Entry.mem_mentions.1 hm
    -- the relationship may have been passed over, but then one of its key is recorded
    obtain ⟨s, hs, hkey⟩ := exists_mem_firstsBy Relationship.key hr
    obtain ⟨hsource, hdestination⟩ :=
      Entry.source_destination_of_key_eq (mem_of_mem_firstsBy Relationship.key hs) hr hkey
    refine ⟨s, hs, (htouches s).2 ⟨p, ?_⟩⟩
    rw [← hp]
    cases p with
    | source => exact hsource
    | destination => exact hdestination

/-- The elements reported as unconnected are those that no relationship of the document mentions,
each with its first declaration. -/
theorem unconnected_ofEntries (es : List Entry) :
    (ofEntries es).unconnected = Entry.unusedElements es := by
  rw [unconnected, elements_ofEntries, Entry.unusedElements]
  refine List.filter_congr fun x _ => ?_
  rw [Bool.eq_iff_iff, Bool.not_eq_true', ← Bool.not_eq_true, any_touches_ofEntries,
    decide_eq_true_eq]
  simp

/-- The last checks of a document, by what its statements mention and declare. -/
theorem crossReferences_ofEntries (es : List Entry) :
    (ofEntries es).crossReferences
      = ((Entry.undeclaredMentions es).map fun m =>
          (Finding.neverDefined m.name).issue m.line none)
        ++ (Entry.unusedElements es).map fun x =>
          (Finding.unconnected x.kind x.name).issue x.line none := by
  rw [crossReferences, neverDefined_ofEntries, unconnected_ofEntries]

/-- The last checks find something about the lines of the entries only. -/
lemma exists_line_eq_of_mem_crossReferences {es : List Entry} {i : Issue}
    (h : i ∈ (ofEntries es).crossReferences) : ∃ e ∈ es, i.line = e.line := by
  rw [crossReferences_ofEntries, List.mem_append, List.mem_map, List.mem_map] at h
  rcases h with ⟨m, hm, rfl⟩ | ⟨x, hx, rfl⟩
  · obtain ⟨hmention, -, -⟩ := Entry.mem_mentions_of_mem_undeclaredMentions hm
    obtain ⟨r, hr, -, -, hline⟩ := Entry.mem_mentions.1 hmention
    obtain ⟨e, he, her⟩ := Entry.mem_relationships.1 hr
    exact ⟨e, he, by rw [Finding.line_issue, ← hline, Entry.line_of_relationshipOf? her]⟩
  · have hfirst := mem_of_mem_firstsBy Element.name (List.mem_of_mem_filter hx)
    obtain ⟨e, he, hex⟩ := Entry.mem_elements.1 hfirst
    exact ⟨e, he, by rw [Finding.line_issue, Entry.line_of_elementOf? hex]⟩

end Architecture

end C4Lint
