/-
# Declarations in their canonical spelling

The canonical spelling of a declaration has single spaces between its lexemes
(`Declaration.render_eq_written`).  It suggests the form of the declaration
(`Declaration.suggestedBy_render`), and that form reads it back, if its parts can be read at all:
this is `Declaration.read?_render`.  Whether another form claims the spelling is a question of the
words in it, and a word that holds neither spaces nor quotes occurs in the spelling only within a
lexeme (`Declaration.occursIn_render_iff`).
-/
import C4Lint.Proofs.Text.Occurrence
import C4Lint.Proofs.Statement.Tidy

namespace C4Lint

open Text (occursIn)

/-- A word that lies within one lexeme wherever it stands in a statement with single spaces: it is
not empty, and it holds neither spaces nor quotes. -/
def Text.IsSolid (w : Text) : Prop := w ≠ [] ∧ ' ' ∉ w ∧ '"' ∉ w

instance (w : Text) : Decidable w.IsSolid := inferInstanceAs (Decidable (_ ∧ _))

namespace Lexeme

variable {w : Text} {l : Lexeme} {ls : List Lexeme}

/-- A word without quotes occurs in a lexeme as it is written if it occurs in what it holds. -/
lemma occursIn_spell (hw : w ≠ []) (hquote : '"' ∉ w) (l : Lexeme) :
    occursIn w l.spell = occursIn w l.text := by
  have hopen : ∀ t, occursIn w ('"' :: t) = occursIn w t :=
    Text.occursIn_cons_of_not_mem hw hquote
  cases l with
  | string b =>
    have hclose := Text.occursIn_append_cons hquote hw b []
    rw [spell, List.cons_append, hopen, hclose, Text.occursIn_nil hw, Bool.or_false, text]
  | openString b => exact hopen b
  | _ => rfl

/-- A solid word occurs among spaced lexemes only within one of them. -/
theorem occursIn_written (hw : w.IsSolid) (ls : List Lexeme) :
    occursIn w (written ls) = ls.any fun l => occursIn w l.text := by
  obtain ⟨hne, hspace, hquote⟩ := hw
  -- a space comes before each further lexeme, and the word does not reach over it
  have hcons : ∀ (ks : List Lexeme) (u : Text), occursIn w (u ++ ks.flatMap fun k => ' ' :: k.spell)
      = (occursIn w u || ks.any fun k => occursIn w k.text) := by
    intro ks
    induction ks with
    | nil => simp
    | cons k ks ih =>
      intro u
      rw [List.flatMap_cons, List.cons_append, Text.occursIn_append_cons hspace hne, ih,
        occursIn_spell hne hquote, List.any_cons]
  cases ls with
  | nil => exact Text.occursIn_nil hne
  | cons l ls => rw [written_cons, hcons, occursIn_spell hne hquote, List.any_cons]

lemma mem_written {c : Char} (hl : l ∈ ls) (hc : c ∈ l.spell) : c ∈ written ls := by
  cases ls with
  | nil => simp at hl
  | cons k ks =>
    rw [written_cons, List.mem_append]
    rcases List.mem_cons.1 hl with rfl | hl
    · exact Or.inl hc
    · exact Or.inr (List.mem_flatMap.2 ⟨l, hl, List.mem_cons_of_mem _ hc⟩)

end Lexeme

namespace ElementKind

lemma isSolid_keyword (kind : ElementKind) : kind.keyword.IsSolid := by cases kind <;> decide

lemma isName_keyword (kind : ElementKind) : kind.keyword.IsName := by cases kind <;> decide

end ElementKind

namespace ViewKind

lemma isSolid_keyword (kind : ViewKind) : kind.keyword.IsSolid := by cases kind <;> decide

lemma isName_keyword (kind : ViewKind) : kind.keyword.IsName := by cases kind <;> decide

end ViewKind

namespace Declaration

/-- The lexemes of a declaration in its canonical spelling. -/
def lexemes : Declaration → List Lexeme
  | workspace name => [.name "workspace".toList, .string name, .openBrace]
  | element kind identifier description technology tags =>
    [.name identifier, .equals, .name kind.keyword, .string description]
      ++ technology.toList.map .string ++ tags.toList.map .string
  | relationship source destination description =>
    [.name source, .arrow, .name destination] ++ description.toList.map .string
  | view kind target title => [.name kind.keyword, .name target] ++ title.toList.map .string
  | styles => [.name "styles".toList, .openBrace]

lemma renderOptional_eq (body : Option Text) :
    renderOptional body
      = (body.toList.map Lexeme.string).flatMap fun l => ' ' :: l.spell := by
  cases body with
  | none => rfl
  | some b => simp [renderOptional, renderString, Lexeme.spell]

/-- The canonical spelling has single spaces between its lexemes. -/
theorem render_eq_written (d : Declaration) : d.render = Lexeme.written d.lexemes := by
  cases d with
  | workspace name =>
    show "workspace".toList ++ renderString name ++ [' ', '{'] = _
    simp only [renderString, lexemes, Lexeme.written_cons, Lexeme.spell, Lexeme.text,
      List.flatMap_cons, List.flatMap_nil, List.append_assoc, List.append_nil, List.cons_append,
      List.nil_append]
  | element kind identifier description technology tags =>
    show identifier ++ [' ', '=', ' '] ++ kind.keyword ++ renderString description
      ++ renderOptional technology ++ renderOptional tags = _
    simp only [renderString, renderOptional_eq, lexemes, Lexeme.written_cons, Lexeme.spell,
      Lexeme.text, List.flatMap_cons, List.flatMap_append, List.append_assoc, List.cons_append,
      List.nil_append]
  | relationship source destination description =>
    show source ++ [' ', '-', '>', ' '] ++ destination ++ renderOptional description = _
    simp only [renderOptional_eq, lexemes, Lexeme.written_cons, Lexeme.spell, Lexeme.text,
      List.flatMap_cons, List.append_assoc, List.cons_append, List.nil_append]
  | view kind target title =>
    show kind.keyword ++ ' ' :: target ++ renderOptional title = _
    simp only [renderOptional_eq, lexemes, Lexeme.written_cons, Lexeme.spell, Lexeme.text,
      List.flatMap_cons, List.append_assoc, List.cons_append, List.nil_append]
  | styles => rfl

/-- Whether the declaration ends with the brace that opens a block. -/
def opensBlock : Declaration → Bool
  | workspace _ => true
  | styles => true
  | _ => false

lemma count_braces_lexemes (d : Declaration) :
    d.lexemes.count .openBrace = (if d.opensBlock then 1 else 0) ∧
      d.lexemes.count .closeBrace = 0 := by
  have hstrings : ∀ (body : Option Text) (l : Lexeme), (∀ t, l ≠ .string t) →
      (body.toList.map Lexeme.string).count l = 0 := by
    intro body l hl
    rw [List.count_eq_zero, List.mem_map]
    rintro ⟨t, -, rfl⟩
    exact hl t rfl
  cases d <;> simp [lexemes, opensBlock, hstrings]

/-! ### The lexemes of each declaration -/

section
variable {P : Lexeme → Prop} {kind : ElementKind} {view : ViewKind}
  {identifier description source destination target : Text} {technology tags body : Option Text}

lemma forall_mem_lexemes_element :
    (∀ l ∈ lexemes (.element kind identifier description technology tags), P l) ↔
      P (.name identifier) ∧ P .equals ∧ P (.name kind.keyword) ∧ P (.string description) ∧
        (∀ t ∈ technology, P (.string t)) ∧ ∀ t ∈ tags, P (.string t) := by
  simp only [lexemes, List.forall_mem_append, List.forall_mem_cons, List.forall_mem_map,
    Option.mem_toList, Option.mem_def, List.not_mem_nil, false_implies, implies_true, and_true,
    and_assoc]

lemma forall_mem_lexemes_relationship :
    (∀ l ∈ lexemes (.relationship source destination body), P l) ↔
      P (.name source) ∧ P .arrow ∧ P (.name destination) ∧ ∀ t ∈ body, P (.string t) := by
  simp only [lexemes, List.forall_mem_append, List.forall_mem_cons, List.forall_mem_map,
    Option.mem_toList, Option.mem_def, List.not_mem_nil, false_implies, implies_true, and_true,
    and_assoc]

lemma forall_mem_lexemes_view :
    (∀ l ∈ lexemes (.view view target body), P l) ↔
      P (.name view.keyword) ∧ P (.name target) ∧ ∀ t ∈ body, P (.string t) := by
  simp only [lexemes, List.forall_mem_append, List.forall_mem_cons, List.forall_mem_map,
    Option.mem_toList, Option.mem_def, List.not_mem_nil, false_implies, implies_true, and_true,
    and_assoc]

end

/-- The lexemes of a declaration that can be read do not run into one another. -/
lemma isClosed_lexemes {d : Declaration} (h : d.Readable) : ∀ l ∈ d.lexemes, l.IsClosed := by
  have hname : ∀ {t : Text}, t.IsName → (Lexeme.name t).IsClosed := fun ht => ⟨ht, by simp⟩
  have hstring : ∀ {t : Text}, '"' ∉ t → (Lexeme.string t).IsClosed := fun ht => ⟨ht, by simp⟩
  have hsign : Lexeme.openBrace.IsClosed ∧ Lexeme.equals.IsClosed ∧ Lexeme.arrow.IsClosed := by
    simp [Lexeme.IsClosed, Lexeme.Valid]
  cases d with
  | workspace name =>
    simp only [lexemes, List.forall_mem_cons]
    exact ⟨hname (by decide), hstring h.2, hsign.1, by simp⟩
  | element kind identifier description technology tags =>
    obtain ⟨hidentifier, -, hdescription, htechnology, htags, -⟩ := h
    exact forall_mem_lexemes_element.2 ⟨hname hidentifier.isName, hsign.2.1,
      hname kind.isName_keyword, hstring hdescription, fun t ht => hstring (htechnology t ht),
      fun t ht => hstring (htags t ht)⟩
  | relationship source destination description =>
    obtain ⟨hsource, hdestination, hdescription⟩ := h
    exact forall_mem_lexemes_relationship.2 ⟨hname hsource, hsign.2.2, hname hdestination,
      fun t ht => hstring (hdescription t ht)⟩
  | view kind target title =>
    obtain ⟨htarget, htitle⟩ := h
    exact forall_mem_lexemes_view.2 ⟨hname kind.isName_keyword, hname htarget.isName,
      fun t ht => hstring (htitle t ht)⟩
  | styles =>
    simp only [lexemes, List.forall_mem_cons]
    exact ⟨hname (by decide), hsign.1, by simp⟩

/-! ### Reading a declaration back -/

/-- The tokens of the canonical spelling are the lexemes of the declaration. -/
lemma scan_render {d : Declaration} (h : d.Readable) :
    Token.scan d.render = Lexeme.spaced d.lexemes := by
  rw [render_eq_written, Token.scan_written (isClosed_lexemes h)]

/-- An optional argument is read off the string that it stands in. -/
lemma argument?_map_string (body : Option Text) :
    argument? (body.toList.map fun t => ⟨.string t, true⟩) = body := by
  cases body <;> rfl

/-- The optional arguments of an element are read off the strings behind its description. -/
lemma arguments_map_string {kind : ElementKind} {technology tags : Option Text}
    (hboth : tags ≠ none → technology ≠ none ∧ kind.acceptsTags = true) :
    argument? ((technology.toList ++ tags.toList).map fun t => ⟨.string t, true⟩) = technology ∧
      tags? kind ((technology.toList ++ tags.toList).map fun t => ⟨.string t, true⟩) = tags := by
  cases technology with
  | none =>
    cases tags with
    | none => exact ⟨rfl, rfl⟩
    | some t => exact absurd rfl (hboth (by simp)).1
  | some t =>
    cases tags with
    | none => simp [argument?, tags?]
    | some u => simp [argument?, tags?, (hboth (by simp)).2]

/-- A word is the whole of what stands before the first dot in it. -/
lemma takeWhile_of_isWord {t : Text} (h : t.IsWord) :
    t.contains '.' = false ∧ t.takeWhile (· != '.') = t := by
  refine ⟨?_, List.takeWhile_eq_self_iff.2 fun c hc => ?_⟩
  · rw [Bool.eq_false_iff, ne_eq, List.contains_iff_mem]
    exact h.dot_not_mem
  · rw [bne_iff_ne]
    rintro rfl
    exact h.dot_not_mem hc

/-- A declaration is read back from its canonical spelling by its form. -/
theorem read?_render {d : Declaration} (h : d.Readable) : d.form.read? d.render = some d := by
  have hscan := scan_render h
  cases d with
  | workspace name =>
    rw [form, Form.read?, hscan]
    exact workspace?_eq_some_iff.2 ⟨name, false, true, [], rfl, h.1, rfl⟩
  | element kind identifier description technology tags =>
    obtain ⟨hidentifier, hdescription, -, -, -, hboth⟩ := h
    obtain ⟨htechnology, htags⟩ := arguments_map_string hboth
    rw [form, Form.read?, hscan, element?_eq_some_iff]
    refine ⟨identifier, description, false, true, true, _, ?_, List.all_eq_true.2 hidentifier.2,
      hdescription, by rw [htechnology, htags]⟩
    simp [lexemes, Lexeme.spaced, Function.comp_def]
  | relationship source destination description =>
    rw [form, Form.read?, hscan, relationship?_eq_some_iff]
    refine ⟨source, destination, false, true, true, _, ?_, by rw [argument?_map_string]⟩
    simp [lexemes, Lexeme.spaced, Function.comp_def]
  | view kind target title =>
    obtain ⟨htarget, -⟩ := h
    obtain ⟨hdot, hwhole⟩ := takeWhile_of_isWord htarget
    rw [form, Form.read?, hscan, view?_eq_some_iff]
    refine ⟨kind, target, false, _, ?_, ?_, by rw [hwhole, hdot, if_neg Bool.false_ne_true,
      argument?_map_string]⟩
    · simp [lexemes, Lexeme.spaced, Function.comp_def]
    · obtain ⟨c, rest, rfl⟩ := List.exists_cons_of_ne_nil htarget.1
      exact ⟨c, rfl, htarget.2 c List.mem_cons_self⟩
  | styles => rfl

/-! ### Words in a declaration -/

/-- A solid word occurs in the canonical spelling exactly if it occurs in one of the lexemes. -/
theorem occursIn_render_iff {w : Text} (hw : w.IsSolid) {d : Declaration} :
    occursIn w d.render = true ↔ ∃ l ∈ d.lexemes, occursIn w l.text = true := by
  rw [render_eq_written, Lexeme.occursIn_written hw, List.any_eq_true]

/-- The canonical spelling suggests a declaration of its form. -/
theorem suggestedBy_render (d : Declaration) : d.form.suggestedBy d.render = true := by
  cases d with
  | workspace name => rfl
  | element kind identifier description technology tags =>
    -- the form asks for the sign anywhere and for the keyword anywhere
    have hequals : '=' ∈
        (Declaration.element kind identifier description technology tags).render := by
      rw [render_eq_written]
      exact Lexeme.mem_written (l := .equals) (by simp [lexemes]) (by decide)
    have hkeyword : occursIn kind.keyword
        (Declaration.element kind identifier description technology tags).render = true :=
      (occursIn_render_iff kind.isSolid_keyword).2
        ⟨.name kind.keyword, by simp [lexemes], Text.occursIn_self _⟩
    rw [form, Form.suggestedBy, hkeyword, Bool.and_true, List.contains_iff_mem]
    exact hequals
  | relationship source destination description =>
    exact (occursIn_render_iff (by decide)).2 ⟨.arrow, by simp [lexemes], by decide⟩
  | view kind target title =>
    have hkeyword : occursIn kind.keyword (Declaration.view kind target title).render = true :=
      (occursIn_render_iff kind.isSolid_keyword).2
        ⟨.name kind.keyword, by simp [lexemes], Text.occursIn_self _⟩
    exact List.any_eq_true.2 ⟨kind, kind.mem_all, hkeyword⟩
  | styles => rfl

end Declaration

end C4Lint
