/-
# Documents laid out line by line

A document may be laid out line by line: each line makes one declaration in its canonical spelling,
opens a section, or closes what was opened.  `Blueprint.layout` writes such lines down, each behind
blanks of its own.  The main statement is `Blueprint.all_of_writtenOn`: if the declarations are
understood in the regions they are meant for (`Blueprint.Line.Sound`) and the lines lead there
(`Blueprint.InPlace`), then the entries of the document are its lines, whatever ends its sections.
-/
import C4Lint.Proofs.Declaration.Canonical
import C4Lint.Proofs.Region.Flat
import C4Lint.Proofs.Text.Lines
import C4Lint.Proofs.Validation.Recording

namespace C4Lint

open Text (Blanks)

namespace Blueprint

/-- One line of a document that is laid out. -/
inductive Line where
  /-- The line makes a declaration, which is meant for a region. -/
  | declares (region : Region) (d : Declaration)
  /-- The line opens the model section. -/
  | opensModel
  /-- The line opens the views section. -/
  | opensViews
  /-- The line closes a section, or the workspace. -/
  | closes
deriving DecidableEq, Repr

namespace Line

/-- The statement on the line. -/
def text : Line → Text
  | declares _ d => d.render
  | opensModel => "model \x7b".toList
  | opensViews => "views \x7b".toList
  | closes => "\x7d".toList

/-- The lexemes on the line. -/
def lexemes : Line → List Lexeme
  | declares _ d => d.lexemes
  | opensModel => [.name "model".toList, .openBrace]
  | opensViews => [.name "views".toList, .openBrace]
  | closes => [.closeBrace]

/-- The region that the line belongs to. -/
def region : Line → Region
  | declares region _ => region
  | opensModel => .model
  | opensViews => .views
  | closes => .outside

/-- The declaration that the line makes, if any. -/
def declaration? : Line → Option Declaration
  | declares _ d => some d
  | _ => none

/-- The entry that the line should come to when it has the number `n`. -/
def entry (l : Line) (n : Nat) : Entry := ⟨⟨n, l.text, l.text⟩, l.region⟩

/-- The declaration of a line is tidy and understood in its region, and it opens no block in a
section.  Nothing is asked of other lines. -/
def Sound (l : Line) : Prop :=
  ∀ d, l.declaration? = some d → (∀ x ∈ d.lexemes, x.IsTidy) ∧
    Reading.of l.region d.render = .declared d ∧ (l.region ≠ .outside → d.opensBlock = false)

variable {l : Line} {k : Tracker} {n : Nat}

lemma text_eq_written (l : Line) : l.text = Lexeme.written l.lexemes := by
  cases l with
  | declares region d => exact d.render_eq_written
  | _ => rfl

lemma lexemes_ne_nil (l : Line) : l.lexemes ≠ [] := by
  cases l with
  | declares region d => cases d <;> simp [lexemes, Declaration.lexemes]
  | _ => simp [lexemes]

/-- Lines that make no declaration are sound. -/
lemma sound_of_declaration?_eq_none (h : l.declaration? = none) : l.Sound :=
  fun d hd => absurd (h.symm.trans hd) (by simp)

lemma Sound.isTidy (h : l.Sound) : ∀ x ∈ l.lexemes, x.IsTidy := by
  cases l with
  | declares region d => exact (h d rfl).1
  | opensModel =>
    have hkeyword : Text.IsName "model".toList := by decide
    simp only [lexemes, List.forall_mem_cons]
    exact ⟨hkeyword, trivial, by simp⟩
  | opensViews =>
    have hkeyword : Text.IsName "views".toList := by decide
    simp only [lexemes, List.forall_mem_cons]
    exact ⟨hkeyword, trivial, by simp⟩
  | closes =>
    simp only [lexemes, List.forall_mem_cons]
    exact ⟨trivial, by simp⟩

/-- The line comes to what it declares, or is ignored. -/
lemma Sound.reading_entry (h : l.Sound) (n : Nat) :
    (l.entry n).reading = match l.declaration? with
      | some d => .declared d
      | none => .ignored := by
  cases l with
  | declares region d => exact (h d rfl).2.1
  | _ => exact of_decide_eq_true rfl

/-- No declaration is written like a line of another kind. -/
lemma Sound.text_ne (h : l.Sound) {d : Declaration} (hd : l.declaration? = some d) {m : Line}
    (hm : m.declaration? = none) : l.text ≠ m.text := by
  intro htext
  rw [text_eq_written, text_eq_written] at htext
  have hlexemes := Token.eq_of_written_eq h.isTidy (sound_of_declaration?_eq_none hm).isTidy htext
  cases l with
  | declares region e =>
    cases m with
    | declares _ _ => exact absurd hm (by simp [declaration?])
    | _ => cases e <;> simp [lexemes, Declaration.lexemes] at hlexemes
  | _ => exact absurd hd (by simp [declaration?])

lemma Sound.opened?_eq_none (h : l.Sound) {d : Declaration} (hd : l.declaration? = some d) :
    Region.opened? l.text = none := by
  have hmodel : l.text ≠ "model \x7b".toList := h.text_ne hd (m := opensModel) rfl
  have hviews : l.text ≠ "views \x7b".toList := h.text_ne hd (m := opensViews) rfl
  rw [Region.opened?, if_neg hmodel, if_neg hviews]

/-- A line leads into its region, and a declaration stays where the lines before it have led. -/
lemma Sound.region_advance (h : l.Sound) (hk : l.declaration? ≠ none → l.region = k.region) :
    (Tracker.advance .flat k l.text).region = l.region := by
  cases l with
  | declares region d =>
    rw [Tracker.advance_flat_of_ne (h.opened?_eq_none rfl) (h.text_ne rfl (m := closes) rfl)]
    exact (hk (by simp [declaration?])).symm
  | opensModel => rw [Tracker.advance_flat_of_opened? (r := .model) rfl, region]
  | opensViews => rw [Tracker.advance_flat_of_opened? (r := .views) rfl, region]
  | closes => rw [Tracker.advance_flat_of_closing (t := text closes) rfl rfl, region]

lemma Sound.hasNoBlock_entry (h : l.Sound) (n : Nat) : (l.entry n).HasNoBlock := by
  intro hregion hopened
  cases l with
  | declares region d =>
    obtain ⟨htidy, -, hblock⟩ := h d rfl
    obtain ⟨hopening, hclosing⟩ := d.count_braces_lexemes
    have hscan : Token.scan d.render = Lexeme.spaced d.lexemes := by
      rw [d.render_eq_written, Token.scan_written fun l hl => (htidy l hl).isClosed]
    show (Token.braces (Token.scan d.render)).opening = (Token.braces (Token.scan d.render)).closing
    rw [hscan, Lexeme.braces_spaced, hopening, hclosing, hblock hregion, if_neg Bool.false_ne_true]
  | opensModel => exact absurd hopened (Option.some_ne_none Region.model)
  | opensViews => exact absurd hopened (Option.some_ne_none Region.views)
  | closes => exact absurd rfl hregion

lemma Sound.count_text (h : l.Sound) :
    l.text.count '{' = l.lexemes.count .openBrace ∧
      l.text.count '}' = l.lexemes.count .closeBrace := by
  rw [l.text_eq_written]
  exact Lexeme.count_written h.isTidy

end Line

/-! ### Lines in place -/

/-- From the region `r` on, each declaration belongs to the region that the lines before it lead
to. -/
def InPlace : Region → List Line → Prop
  | _, [] => True
  | r, l :: ls => (l.declaration? ≠ none → l.region = r) ∧ InPlace l.region ls

/-- Declarations that are meant for the region where they stand change nothing for the lines behind
them. -/
lemma inPlace_append_of_declares {r : Region} {ds : List Declaration} {ls : List Line} :
    InPlace r (ds.map (.declares r) ++ ls) ↔ InPlace r ls := by
  induction ds with
  | nil => rfl
  | cons d ds ih => simpa [InPlace, Line.region] using ih

/-- The entries that the lines should come to, the first of them having the number `n`. -/
def entries (n : Nat) (ls : List Line) : List Entry := (ls.zipIdx n).map fun x => x.1.entry x.2

/-- The lines of a document, each behind the blanks for its number. -/
def layout (indent : Nat → Text) (n : Nat) (ls : List Line) : List Text :=
  (ls.zipIdx n).map fun x => indent x.2 ++ x.1.text

variable {n : Nat} {l : Line} {ls : List Line} {k : Tracker} {indent : Nat → Text} {content : Text}

@[simp] lemma entries_cons : entries n (l :: ls) = l.entry n :: entries (n + 1) ls := by
  simp [entries]

@[simp] lemma layout_cons :
    layout indent n (l :: ls) = (indent n ++ l.text) :: layout indent (n + 1) ls := by
  simp [layout]

/-- Where the lines lead is where their declarations are meant to be. -/
theorem ofStatements_entries (hls : ∀ l ∈ ls, l.Sound) (hplace : InPlace k.region ls) :
    Entry.ofStatements .flat k ((entries n ls).map Entry.statement) = entries n ls := by
  induction ls generalizing n k with
  | nil => rfl
  | cons l ls ih =>
    obtain ⟨hl, hrest⟩ := hplace
    have hregion := (hls l List.mem_cons_self).region_advance hl
    rw [entries_cons, List.map_cons, Entry.ofStatements_cons]
    show ⟨_, (Tracker.advance .flat k l.text).region⟩ :: Entry.ofStatements .flat
      (Tracker.advance .flat k l.text) ((entries (n + 1) ls).map Entry.statement) = _
    rw [ih (fun m hm => hls m (List.mem_cons_of_mem _ hm)) (by rwa [hregion]), hregion]
    rfl

/-- The statements are found on their lines. -/
lemma ofLines_layout (hls : ∀ l ∈ ls, l.Sound) (hindent : ∀ i, Blanks (indent i)) :
    Statement.ofLines n (layout indent n ls) = (entries n ls).map Entry.statement := by
  induction ls generalizing n with
  | nil => rfl
  | cons l ls ih =>
    have hline : Statement.ofLine? n (indent n ++ l.text) = some ⟨n, l.text, l.text⟩ := by
      rw [l.text_eq_written]
      exact Statement.ofLine?_append_written l.lexemes_ne_nil
        (hls l List.mem_cons_self).isTidy (hindent n) n
    rw [layout_cons, Statement.ofLines, hline, ih fun m hm => hls m (List.mem_cons_of_mem _ hm),
      entries_cons, List.map_cons]
    rfl

/-- A line of a layout has no line ends in it and a character that is not blank at its end. -/
lemma mem_layout {m : Text} (hls : ∀ l ∈ ls, l.Sound) (hindent : ∀ i, '\n' ∉ indent i)
    (hm : m ∈ layout indent n ls) : '\n' ∉ m ∧ m.getLast? ≠ some '\r' ∧ m ≠ [] := by
  obtain ⟨⟨l, i⟩, hl, rfl⟩ := List.mem_map.1 hm
  have htidy := (hls l (List.fst_mem_of_mem_zipIdx hl)).isTidy
  obtain ⟨hne, -, hlast⟩ := Lexeme.ends_written l.lexemes_ne_nil htidy
  have hnewline := Lexeme.newline_not_mem_written htidy
  rw [← l.text_eq_written] at hne hlast hnewline
  refine ⟨?_, fun hreturn => ?_, ?_⟩
  · rw [List.mem_append, not_or]
    exact ⟨hindent i, hnewline⟩
  · rw [List.getLast?_append_of_ne_nil _ hne] at hreturn
    exact absurd (hlast '\r' hreturn) (by decide)
  · simp [hne]

/-- A document that is laid out comes to the entries that its lines are meant to be. -/
theorem all_of_writtenOn (hls : ∀ l ∈ ls, l.Sound) (hplace : InPlace .outside ls) (hne : ls ≠ [])
    (hindent : ∀ i, Blanks (indent i) ∧ '\n' ∉ indent i)
    (h : Text.WrittenOn (layout indent 1 ls) content) (nesting : Nesting) :
    Entry.all nesting content = entries 1 ls := by
  have hlines : Text.lines content = layout indent 1 ls := by
    have hline := fun m hm => mem_layout (n := 1) (m := m) hls (fun i => (hindent i).2) hm
    rcases List.eq_nil_or_concat' (layout indent 1 ls) with hnil | ⟨front, last, hlayout⟩
    · simp [layout, hne] at hnil
    · rw [hlayout] at h hline ⊢
      exact Text.lines_of_writtenOn h (fun m hm => ⟨(hline m hm).1, (hline m hm).2.1⟩)
        (hline last (by simp)).2.2
  have hflat : Entry.all .flat content = entries 1 ls := by
    rw [Entry.all, Statement.all, hlines, ofLines_layout hls fun i => (hindent i).1]
    exact ofStatements_entries hls hplace
  cases nesting with
  | flat => exact hflat
  | nested =>
    rw [← hflat]
    refine Entry.all_nested_eq_flat fun e he => ?_
    rw [hflat] at he
    obtain ⟨⟨l, i⟩, hl, rfl⟩ := List.mem_map.1 he
    exact (hls l (List.fst_mem_of_mem_zipIdx hl)).hasNoBlock_entry i

/-! ### The text of a layout -/

/-- Blanks at the front of the lines add to no count of other characters. -/
lemma count_layout (hindent : ∀ i, Blanks (indent i)) {c : Char} (hc : Text.isBlank c = false)
    (n : Nat) (ls : List Line) :
    (layout indent n ls).flatten.count c = (ls.flatMap Line.text).count c := by
  induction ls generalizing n with
  | nil => rfl
  | cons l ls ih =>
    have hblank : (indent n).count c = 0 := by
      refine List.count_eq_zero_of_not_mem fun hmem => ?_
      rw [hindent n c hmem] at hc
      exact absurd hc (by simp)
    rw [layout_cons, List.flatten_cons, List.count_append, List.count_append, hblank, ih,
      List.flatMap_cons, List.count_append, Nat.zero_add]

/-- The braces of the lines are those among their lexemes. -/
lemma count_braces_text (hls : ∀ l ∈ ls, l.Sound) :
    (ls.flatMap Line.text).count '{' = (ls.flatMap Line.lexemes).count .openBrace ∧
      (ls.flatMap Line.text).count '}' = (ls.flatMap Line.lexemes).count .closeBrace := by
  induction ls with
  | nil => exact ⟨rfl, rfl⟩
  | cons l ls ih =>
    obtain ⟨hopening, hclosing⟩ := (hls l List.mem_cons_self).count_text
    obtain ⟨ihopening, ihclosing⟩ := ih fun m hm => hls m (List.mem_cons_of_mem _ hm)
    simp only [List.flatMap_cons, List.count_append, hopening, hclosing, ihopening, ihclosing,
      and_self]

/-- A line of a layout stands in the document. -/
lemma exists_append_of_mem (h : Text.WrittenOn (layout indent n ls) content) (hl : l ∈ ls) :
    ∃ before after, content = before ++ l.text ++ after := by
  obtain ⟨i, hi, rfl⟩ := List.getElem_of_mem hl
  have hmem : indent (n + i) ++ ls[i].text ∈ layout indent n ls :=
    List.mem_map.2
      ⟨(ls[i], n + i), List.mk_mem_zipIdx_iff_le_and_getElem?_sub.2 (by simp [hi]), rfl⟩
  obtain ⟨u, v, rfl⟩ := Text.exists_append_of_writtenOn h hmem
  exact ⟨u ++ indent (n + i), v, by simp⟩

/-! ### What the lines declare -/

/-- What `f` reads off the declarations on the lines, given their numbers. -/
def readOff {α : Type} (f : Nat → Declaration → Option α) (n : Nat) (ls : List Line) : List α :=
  (ls.zipIdx n).filterMap fun x => x.1.declaration?.bind (f x.2)

variable {α β : Type} (f : Nat → Declaration → Option α)

@[simp] lemma readOff_nil : readOff f n [] = [] := rfl

lemma readOff_cons (n : Nat) (l : Line) (ls : List Line) :
    readOff f n (l :: ls) = (l.declaration?.bind (f n)).toList ++ readOff f (n + 1) ls := by
  rw [readOff, List.zipIdx_cons, List.filterMap_cons]
  cases l.declaration?.bind (f n) <;> simp [readOff]

lemma readOff_append (n : Nat) (ls ms : List Line) :
    readOff f n (ls ++ ms) = readOff f n ls ++ readOff f (n + ls.length) ms := by
  rw [readOff, List.zipIdx_append, List.filterMap_append, readOff, readOff]

lemma readOff_map_declares (n : Nat) (r : Region) (declaration : β → Declaration) (xs : List β) :
    readOff f n ((xs.map declaration).map (.declares r))
      = (xs.zipIdx n).filterMap fun x => f x.2 (declaration x.1) := by
  rw [readOff, List.map_map, List.zipIdx_map, List.filterMap_map]
  rfl

/-- The declarations of the entries are those on the lines. -/
lemma filterMap_declarations_entries (hls : ∀ l ∈ ls, l.Sound) :
    ((Entry.declarations (entries n ls)).filterMap fun d => f d.1 d.2) = readOff f n ls := by
  rw [Entry.filterMap_declarations, entries, List.filterMap_map]
  refine List.filterMap_congr fun x hx => ?_
  have hreading := (hls x.1 (List.fst_mem_of_mem_zipIdx hx)).reading_entry x.2
  show (x.1.entry x.2).reading.declaration?.bind (f x.2) = _
  rw [hreading]
  cases x.1.declaration? <;> rfl

end Blueprint

end C4Lint
