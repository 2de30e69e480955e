/-
# The parts of a declaration

What a statement is read as keeps to its form: the names in it are words, or words with dots, its
strings hold no quotes, and what the form requires is there.  `Declaration.Readable` says so of a
declaration, and `Form.readable_of_read?` of every declaration that is read.

An element is declared under a word, and a relationship leads from name to name, where a name may
also hold dots (`Declaration.WellNamed`).  Neither holds a dash, so that a relationship can be told
from the text of its two names with an arrow between them, and a word holds no dot, so that a dotted
name is never declared.
-/
import C4Lint.Proofs.Declaration.Grammar
import C4Lint.Proofs.Token.Lexeme
import C4Lint.Declaration.Form

namespace C4Lint

namespace Text

/-- A text that names an element: a word that is not empty. -/
def IsWord (t : Text) : Prop := t ≠ [] ∧ ∀ c ∈ t, isWordChar c = true

/-- A text that refers to an element: words and dots, and not empty. -/
def IsName (t : Text) : Prop := t ≠ [] ∧ ∀ c ∈ t, isNameChar c = true

instance (t : Text) : Decidable t.IsWord :=
  decidable_of_iff (t ≠ [] ∧ t.all isWordChar = true) (and_congr_right' List.all_eq_true)

instance (t : Text) : Decidable t.IsName :=
  decidable_of_iff (t ≠ [] ∧ t.all isNameChar = true) (and_congr_right' List.all_eq_true)

lemma IsName.dash_not_mem {t : Text} (h : t.IsName) : '-' ∉ t := by
  intro hmem
  have : isNameChar '-' = true := h.2 '-' hmem
  revert this
  decide

lemma IsWord.dot_not_mem {t : Text} (h : t.IsWord) : '.' ∉ t := by
  intro hmem
  have : isWordChar '.' = true := h.2 '.' hmem
  revert this
  decide

lemma IsWord.isName {t : Text} (h : t.IsWord) : t.IsName :=
  ⟨h.1, fun c hc => isNameChar_of_isWordChar (h.2 c hc)⟩

/-- The first word of a name with dots, if it does not begin with one. -/
lemma IsName.isWord_takeWhile {t : Text} (h : t.IsName)
    (hfirst : ∃ c ∈ t.head?, isWordChar c = true) : IsWord (t.takeWhile (· != '.')) := by
  obtain ⟨c, hc, hword⟩ := hfirst
  obtain ⟨rest, rfl⟩ := List.head?_eq_some_iff.1 hc
  have hdot : c ≠ '.' := by
    rintro rfl
    exact absurd hword (by decide)
  refine ⟨by simp [hdot], fun d hd => ?_⟩
  have hname : isNameChar d = true := h.2 d (List.takeWhile_subset _ hd)
  have hne : (d != '.') = true := List.mem_takeWhile_imp (p := fun x => x != '.') hd
  simpa [isNameChar, bne_iff_ne.1 hne] using hname

end Text

namespace Declaration

/-- The form of a declaration. -/
def form : Declaration → Form
  | workspace _ => .workspace
  | element kind _ _ _ _ => .element kind
  | relationship _ _ _ => .relationship
  | view _ _ _ => .view
  | styles => .styles

/-- The names in the declaration are words, or words with dots, as its form asks for. -/
def WellNamed : Declaration → Prop
  | workspace _ => True
  | element _ identifier _ _ _ => identifier.IsWord
  | relationship source destination _ => source.IsName ∧ destination.IsName
  | view _ _ _ => True
  | styles => True

/-- The parts of the declaration can be those of a statement: names are as the form asks for, no
string holds a quote, the name of a workspace and the description of an element are not empty, and
tags come with a technology and where the kind has them. -/
def Readable : Declaration → Prop
  | workspace name => name ≠ [] ∧ '"' ∉ name
  | element kind identifier description technology tags =>
    identifier.IsWord ∧ description ≠ [] ∧ '"' ∉ description ∧ (∀ t ∈ technology, '"' ∉ t) ∧
      (∀ t ∈ tags, '"' ∉ t) ∧ (tags ≠ none → technology ≠ none ∧ kind.acceptsTags = true)
  | relationship source destination description =>
    source.IsName ∧ destination.IsName ∧ ∀ t ∈ description, '"' ∉ t
  | view _ target title => target.IsWord ∧ ∀ t ∈ title, '"' ∉ t
  | styles => True

lemma Readable.wellNamed {d : Declaration} (h : d.Readable) : d.WellNamed := by
  cases d with
  | element => exact h.1
  | relationship => exact ⟨h.1, h.2.1⟩
  | _ => trivial

end Declaration

/-- A form reads only declarations of its own. -/
lemma Form.form_of_read? {f : Form} {t : Text} {d : Declaration} (h : f.read? t = some d) :
    d.form = f := by
  cases f with
  | workspace =>
    obtain ⟨_, _, _, _, -, -, rfl⟩ := Declaration.workspace?_eq_some_iff.1 h
    rfl
  | element kind =>
    obtain ⟨_, _, _, _, _, _, -, -, -, rfl⟩ := Declaration.element?_eq_some_iff.1 h
    rfl
  | relationship =>
    obtain ⟨_, _, _, _, _, _, -, rfl⟩ := Declaration.relationship?_eq_some_iff.1 h
    rfl
  | view =>
    obtain ⟨_, _, _, _, -, -, rfl⟩ := Declaration.view?_eq_some_iff.1 h
    rfl
  | styles =>
    obtain ⟨-, rfl⟩ := Declaration.styles?_eq_some_iff.1 h
    rfl

/-- What is read from a statement has parts that can be read, whatever the form. -/
theorem Form.readable_of_read? {f : Form} {t : Text} {d : Declaration}
    (h : f.read? t = some d) : d.Readable := by
  -- every form takes its parts from tokens, and these keep to their kinds
  have hts : ∀ tok ∈ Token.scan t, tok.lexeme.Valid := fun _ => Token.valid_of_mem_scan
  cases f with
  | workspace =>
    obtain ⟨name, _, _, _, hscan, hname, rfl⟩ := Declaration.workspace?_eq_some_iff.1 h
    rw [hscan] at hts
    simp only [List.forall_mem_cons] at hts
    exact ⟨hname, hts.2.1⟩
  | element kind =>
    obtain ⟨identifier, description, _, _, _, rest, hscan, hidentifier, hdescription, rfl⟩ :=
      Declaration.element?_eq_some_iff.1 h
    rw [hscan] at hts
    simp only [List.forall_mem_cons] at hts
    obtain ⟨hname, -, -, hstring, hrest⟩ := hts
    exact ⟨⟨hname.1, List.all_eq_true.1 hidentifier⟩, hdescription, hstring,
      fun t ht => hrest _ (Declaration.mem_of_argument? ht),
      fun t ht => hrest _ (Declaration.mem_of_tags? ht), Declaration.argument?_ne_none_of_tags?⟩
  | relationship =>
    obtain ⟨source, destination, _, _, _, rest, hscan, rfl⟩ :=
      Declaration.relationship?_eq_some_iff.1 h
    rw [hscan] at hts
    simp only [List.forall_mem_cons] at hts
    obtain ⟨hsource, -, hdestination, hrest⟩ := hts
    exact ⟨hsource, hdestination, fun t ht => hrest _ (Declaration.mem_of_argument? ht)⟩
  | view =>
    obtain ⟨kind, target, _, rest, hscan, htarget, rfl⟩ := Declaration.view?_eq_some_iff.1 h
    rw [hscan] at hts
    simp only [List.forall_mem_cons] at hts
    obtain ⟨-, hname, hrest⟩ := hts
    refine ⟨Text.IsName.isWord_takeWhile hname htarget, ?_⟩
    split_ifs
    · simp
    · exact fun t ht => hrest _ (Declaration.mem_of_argument? ht)
  | styles =>
    obtain ⟨-, rfl⟩ := Declaration.styles?_eq_some_iff.1 h
    trivial

/-- A statement is read as a declaration by the form that claims it. -/
lemma Reading.of_eq_declared_iff {region : Region} {t : Text} {d : Declaration} :
    Reading.of region t = .declared d ↔
      ∃ f, Form.of? region t = some f ∧ f.read? t = some d := by
  rw [Reading.of]
  cases hf : Form.of? region t with
  | none => simp
  | some f => cases hd : f.read? t <;> simp [hd]

lemma Reading.wellNamed_of_declared {region : Region} {t : Text} {d : Declaration}
    (h : Reading.of region t = .declared d) : d.WellNamed := by
  obtain ⟨f, -, hd⟩ := Reading.of_eq_declared_iff.1 h
  exact (Form.readable_of_read? hd).wellNamed

end C4Lint
