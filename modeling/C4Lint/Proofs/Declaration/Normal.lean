/-
# Normal forms of statements

One declaration can be stated in many ways: with other blanks between its tokens, with tokens behind
it that are left alone, with dots behind the target of a view.  The canonical spelling of what a
statement declares is its normal form, and the main statement is that nothing is changed by it: the
normal form declares the same (`Reading.of_render_of_declared`).

The form that claims a statement claims its normal form as well.  Words are not added by it, since
each lexeme of the declaration stands in the statement (`Form.occursIn_of_mem_lexemes`), and both
begin with the same name (`Form.prefix_of_prefix_render`).  So what the normal form suggests, the
statement suggested before (`Form.suggestedBy_of_suggestedBy_render`).
-/
import C4Lint.Proofs.Token.Gaps
import C4Lint.Proofs.Declaration.Form
import C4Lint.Proofs.Declaration.Spelling

namespace C4Lint

open Text (isBlank isNameChar occursIn)

namespace Text

lemma occursIn_trans {w u t : Text} (hu : occursIn w u = true) (ht : occursIn u t = true) :
    occursIn w t = true := by
  obtain ⟨a, b, rfl⟩ := occursIn_eq_true_iff.1 ht
  exact occursIn_append_left (occursIn_append_right a hu) b

lemma contains_eq_occursIn (c : Char) (t : Text) : t.contains c = occursIn [c] t := by
  rw [Bool.eq_iff_iff, List.contains_iff_mem, List.mem_iff_append, occursIn_eq_true_iff]
  simp

/-- A word of name characters that begins a text lies within the name that begins it. -/
lemma prefix_of_prefix_append {w n rest : Text} (hw : ∀ c ∈ w, isNameChar c = true)
    (hrest : ∀ c ∈ rest.head?, isNameChar c = false) (h : w <+: n ++ rest) : w <+: n := by
  rcases List.prefix_or_prefix_of_prefix h (List.prefix_append n rest) with hin | ⟨x, rfl⟩
  · exact hin
  · -- the word goes on behind the name, unless that is where it ends
    cases x with
    | nil => simp
    | cons c x =>
      obtain ⟨y, rfl⟩ := (List.prefix_append_right_inj n).1 h
      have hname : isNameChar c = true := hw c (by simp)
      rw [hrest c rfl] at hname
      exact Bool.noConfusion hname

end Text

lemma Lexeme.occursIn_text_spell (l : Lexeme) : occursIn l.text l.spell = true := by
  cases l with
  | string b => exact Text.occursIn_eq_true_iff.2 ⟨['"'], ['"'], rfl⟩
  | openString b => exact Text.occursIn_eq_true_iff.2 ⟨['"'], [], by simp [spell, text]⟩
  | _ => exact Text.occursIn_self _

/-- What a token holds occurs in the text that it is read from. -/
lemma Token.occursIn_of_mem_scan {t : Text} {tok : Token} (h : tok ∈ scan t) :
    occursIn tok.lexeme.text t = true := by
  obtain ⟨u, v, rfl⟩ := exists_append_of_mem_scan h
  exact Text.occursIn_append_left
    (Text.occursIn_append_right u (Lexeme.occursIn_text_spell tok.lexeme)) v

namespace Form

open Declaration (lexemes forall_mem_lexemes_element forall_mem_lexemes_relationship
  forall_mem_lexemes_view mem_of_argument? mem_of_tags?)

variable {f : Form} {t : Text} {d : Declaration}

/-! ### The statement and its normal form -/

/-- The lexemes of a declaration occur in the statement that makes it. -/
theorem occursIn_of_mem_lexemes (h : f.read? t = some d) :
    ∀ l ∈ d.lexemes, occursIn l.text t = true := by
  have hmem : ∀ tok ∈ Token.scan t, occursIn tok.lexeme.text t = true := fun _ =>
    Token.occursIn_of_mem_scan
  cases f with
  | workspace =>
    obtain ⟨name, _, _, rest, hscan, -, rfl⟩ := Declaration.workspace?_eq_some_iff.1 h
    rw [hscan] at hmem
    simp only [List.forall_mem_cons] at hmem
    obtain ⟨hkeyword, hname, hbrace, -⟩ := hmem
    simp only [lexemes, List.forall_mem_cons]
    exact ⟨hkeyword, hname, hbrace, by simp⟩
  | element kind =>
    obtain ⟨identifier, description, _, _, _, rest, hscan, -, -, rfl⟩ :=
      Declaration.element?_eq_some_iff.1 h
    rw [hscan] at hmem
    simp only [List.forall_mem_cons] at hmem
    obtain ⟨hidentifier, hequals, hkeyword, hdescription, hrest⟩ := hmem
    exact forall_mem_lexemes_element.2 ⟨hidentifier, hequals, hkeyword, hdescription,
      fun t ht => hrest _ (mem_of_argument? ht), fun t ht => hrest _ (mem_of_tags? ht)⟩
  | relationship =>
    obtain ⟨source, destination, _, _, _, rest, hscan, rfl⟩ :=
      Declaration.relationship?_eq_some_iff.1 h
    rw [hscan] at hmem
    simp only [List.forall_mem_cons] at hmem
    obtain ⟨hsource, harrow, hdestination, hrest⟩ := hmem
    exact forall_mem_lexemes_relationship.2
      ⟨hsource, harrow, hdestination, fun t ht => hrest _ (mem_of_argument? ht)⟩
  | view =>
    obtain ⟨kind, target, _, rest, hscan, -, rfl⟩ := Declaration.view?_eq_some_iff.1 h
    rw [hscan] at hmem
    simp only [List.forall_mem_cons] at hmem
    obtain ⟨hkeyword, htarget, hrest⟩ := hmem
    -- the target may have lost what stood behind its first dot
    have hword : occursIn (target.takeWhile (· != '.')) target = true :=
      Text.occursIn_of_isPrefixOf (List.isPrefixOf_iff_prefix.2 (List.takeWhile_prefix _))
    refine forall_mem_lexemes_view.2 ⟨hkeyword, Text.occursIn_trans hword htarget, ?_⟩
    split_ifs
    · simp
    · exact fun t ht => hrest _ (mem_of_argument? ht)
  | styles =>
    obtain ⟨rfl, rfl⟩ := Declaration.styles?_eq_some_iff.1 h
    decide

/-- A statement without blanks at its front begins with the first name of its declaration. -/
lemma exists_name_of_read? (ht : ∀ c ∈ t.head?, isBlank c = false) (h : f.read? t = some d) :
    ∃ n ls rest, d.lexemes = .name n :: ls ∧ t = n ++ rest := by
  cases f with
  | workspace =>
    obtain ⟨_, _, _, _, hscan, -, rfl⟩ := Declaration.workspace?_eq_some_iff.1 h
    obtain ⟨rest, hrest⟩ := Token.exists_append_of_scan_eq_cons ht hscan
    exact ⟨_, _, rest, rfl, hrest⟩
  | element kind =>
    obtain ⟨_, _, _, _, _, _, hscan, -, -, rfl⟩ := Declaration.element?_eq_some_iff.1 h
    obtain ⟨rest, hrest⟩ := Token.exists_append_of_scan_eq_cons ht hscan
    exact ⟨_, _, rest, rfl, hrest⟩
  | relationship =>
    obtain ⟨_, _, _, _, _, _, hscan, rfl⟩ := Declaration.relationship?_eq_some_iff.1 h
    obtain ⟨rest, hrest⟩ := Token.exists_append_of_scan_eq_cons ht hscan
    exact ⟨_, _, rest, rfl, hrest⟩
  | view =>
    obtain ⟨_, _, _, _, hscan, -, rfl⟩ := Declaration.view?_eq_some_iff.1 h
    obtain ⟨rest, hrest⟩ := Token.exists_append_of_scan_eq_cons ht hscan
    exact ⟨_, _, rest, rfl, hrest⟩
  | styles =>
    obtain ⟨rfl, rfl⟩ := Declaration.styles?_eq_some_iff.1 h
    exact ⟨_, _, [' ', '{'], rfl, rfl⟩

/-- A word of name characters that begins the normal form begins the statement. -/
lemma prefix_of_prefix_render (ht : ∀ c ∈ t.head?, isBlank c = false) (h : f.read? t = some d)
    {w : Text} (hw : ∀ c ∈ w, isNameChar c = true) (hbegins : w <+: d.render) : w <+: t := by
  obtain ⟨n, ls, rest, hlexemes, rfl⟩ := exists_name_of_read? ht h
  -- the word ends within the name, since a space or nothing comes behind it
  rw [Declaration.render_eq_written, hlexemes, Lexeme.written_cons] at hbegins
  refine (Text.prefix_of_prefix_append hw ?_ hbegins).trans (List.prefix_append n rest)
  cases ls with
  | nil => simp
  | cons l ls =>
    have hspace : isNameChar ' ' = false := by decide
    simp [hspace]

/-- What the normal form suggests, the statement suggests. -/
theorem suggestedBy_of_suggestedBy_render (ht : ∀ c ∈ t.head?, isBlank c = false)
    (h : f.read? t = some d) (g : Form) (hg : g.suggestedBy d.render = true) :
    g.suggestedBy t = true := by
  -- forms look for words anywhere or at the front
  have hwords : ∀ w : Text, w.IsSolid → occursIn w d.render = true → occursIn w t = true := by
    intro w hw hoccurs
    obtain ⟨l, hl, hwl⟩ := (Declaration.occursIn_render_iff hw).1 hoccurs
    exact Text.occursIn_trans hwl (occursIn_of_mem_lexemes h l hl)
  have hfront : ∀ w : Text, w.IsName → w.isPrefixOf d.render = true → w.isPrefixOf t = true := by
    intro w hw hbegins
    rw [List.isPrefixOf_iff_prefix] at hbegins ⊢
    exact prefix_of_prefix_render ht h hw.2 hbegins
  cases g with
  | workspace => exact hfront _ (by decide) hg
  | element kind =>
    rw [suggestedBy, Bool.and_eq_true, Text.contains_eq_occursIn] at hg ⊢
    exact ⟨hwords _ (by decide) hg.1, hwords _ kind.isSolid_keyword hg.2⟩
  | relationship => exact hwords _ (by decide) hg
  | view =>
    obtain ⟨kind, hkind, hoccurs⟩ := List.any_eq_true.1 hg
    exact List.any_eq_true.2 ⟨kind, hkind, hwords _ kind.isSolid_keyword hoccurs⟩
  | styles => exact hfront _ (by decide) hg

/-! ### The form of the normal form -/

/-- The form that claims a statement and reads it claims its normal form. -/
theorem of?_render {region : Region} (ht : ∀ c ∈ t.head?, isBlank c = false)
    (hf : of? region t = some f) (hd : f.read? t = some d) : of? region d.render = some f := by
  have hsuggested := d.suggestedBy_render
  rw [form_of_read? hd] at hsuggested
  exact of?_eq_some_of_imp hf hsuggested (suggestedBy_of_suggestedBy_render ht hd)

end Form

namespace Reading

/-- The normal form of a statement declares in every region what the statement declares there, with
all its parts, if the statement does not begin with a blank. -/
theorem of_render_of_declared {region : Region} {t : Text} {d : Declaration}
    (ht : ∀ c ∈ t.head?, isBlank c = false) (h : Reading.of region t = .declared d) :
    Reading.of region d.render = .declared d := by
  obtain ⟨f, hf, hd⟩ := of_eq_declared_iff.1 h
  have hread := Declaration.read?_render (Form.readable_of_read? hd)
  rw [Form.form_of_read? hd] at hread
  exact of_eq_declared_iff.2 ⟨f, Form.of?_render ht hf hd, hread⟩

/-- A system whose description speaks of containers and holds an arrow, with an empty technology and
without tags, since no blank stands before the string that follows. -/
theorem of_render_of_declared_crowded :
    let t := "a=softwareSystem\t\"container -> b\"  \"\"\"tags\" \x7b".toList
    let d : Declaration :=
      .element .softwareSystem "a".toList "container -> b".toList (some []) none
    (∀ c ∈ t.head?, isBlank c = false) ∧ Reading.of .model t = .declared d ∧
      d.render = "a = softwareSystem \"container -> b\" \"\"".toList ∧
      Reading.of .model d.render = .declared d := by
  intro t d
  have ht : ∀ c ∈ t.head?, isBlank c = false := by
    intro c hc
    obtain rfl : 'a' = c := Option.some.inj hc
    decide
  have hd : Reading.of .model t = .declared d := by decide +kernel
  exact ⟨ht, hd, rfl, of_render_of_declared ht hd⟩

end Reading

end C4Lint
