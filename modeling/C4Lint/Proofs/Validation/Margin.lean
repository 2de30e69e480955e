/-
# Indentation and line ends do not matter

A validation finds the same in two documents whose lines differ in their margins only: in
indentation, in trailing blanks or in carriage returns before the line feeds.  For the statements
this is plain, since every line is trimmed before anything else happens to it.  The outline,
however, is looked for in the text as it is, and there a section may be opened by a word on one line
and a brace on the next.  The word and the brace are found in the other document as well, with other
blanks between them (`Outline.Opens.of_marginEq` and `Outline.DeclaresWorkspace.of_marginEq`).  The
main statement is `Validation.ofDocument_eq_of_map_trim_eq`.
-/
import C4Lint.Proofs.Outline
import C4Lint.Proofs.Statement.Lines
import C4Lint.Proofs.Text.Margin
import C4Lint.Validation

namespace C4Lint

open Text (MarginEq isBlank Blanks)

namespace Outline

variable {a b : Text}

/-- A section that is opened in one text is opened in the other.  Its name is given with its first
and its last character, between which it has no line end. -/
theorem Opens.of_marginEq {c d : Char} {inner : Text} (hab : MarginEq a b) (hc : isBlank c = false)
    (hd : isBlank d = false) (hinner : '\n' ∉ inner) (h : Opens (c :: inner ++ [d]) a) :
    Opens (c :: inner ++ [d]) b := by
  have hbrace : isBlank '{' = false := by decide
  obtain ⟨before, gap, after, hgap, rfl⟩ := h
  -- the texts are cut at the first and the last character of the name and at the brace
  have hab' : MarginEq (before ++ c :: (inner ++ d :: (gap ++ '{' :: after))) b := by
    simpa using hab
  obtain ⟨before', rest, rfl, -, hrest⟩ := hab'.cut hc
  obtain ⟨inner', rest, rfl, hname, hrest⟩ := hrest.cut_cons hc hd
  obtain ⟨gap', after', rfl, hblanks, -⟩ := hrest.cut_cons hd hbrace
  obtain rfl := hname.eq_of_newline_not_mem hc hd hinner
  exact ⟨before', gap', after', (hblanks.blanks_iff hd).1 hgap, by simp⟩

/-- A workspace that is declared in one text is declared in the other, under the same name. -/
theorem DeclaresWorkspace.of_marginEq (hab : MarginEq a b) (h : DeclaresWorkspace a) :
    DeclaresWorkspace b := by
  have hw : isBlank 'w' = false := by decide
  have he : isBlank 'e' = false := by decide
  have hquote : isBlank '"' = false := by decide
  have hbrace : isBlank '{' = false := by decide
  obtain ⟨before, space, name, gap, after, hspace, hblank, hname, hchars, hgap, rfl⟩ := h
  have hab' : MarginEq (before ++ 'w' :: ("orkspac".toList ++ 'e' :: (space ++ '"' :: (name
      ++ '"' :: (gap ++ '{' :: after))))) b := by
    simpa using hab
  -- the texts are cut at the ends of the keyword, at the quotes and at the brace
  obtain ⟨before', rest, rfl, -, hrest⟩ := hab'.cut hw
  obtain ⟨inner', rest, rfl, hkeyword, hrest⟩ := hrest.cut_cons hw he
  obtain ⟨space', rest, rfl, hspaces, hrest⟩ := hrest.cut_cons he hquote
  obtain ⟨name', rest, rfl, hnames, hrest⟩ := hrest.cut_cons hquote hquote
  obtain ⟨gap', after', rfl, hgaps, -⟩ := hrest.cut_cons hquote hbrace
  obtain rfl := hkeyword.eq_of_newline_not_mem hw he (by decide)
  obtain rfl := hnames.eq_of_newline_not_mem hquote hquote fun hmem => (hchars _ hmem).2 rfl
  have hspace' : space' ≠ [] := by
    rintro rfl
    exact hspace (hspaces.symm.eq_of_newline_not_mem he hquote (by simp)).symm
  exact ⟨before', space', name, gap', after', hspace', (hspaces.blanks_iff he).1 hblank, hname,
    hchars, (hgaps.blanks_iff hquote).1 hgap, by simp⟩

lemma opens_iff_of_marginEq {c d : Char} {u : Text} (hab : MarginEq a b)
    (hc : isBlank c = false) (hd : isBlank d = false) (hu : '\n' ∉ u) :
    Opens (c :: u ++ [d]) a ↔ Opens (c :: u ++ [d]) b :=
  ⟨.of_marginEq hab hc hd hu, .of_marginEq hab.symm hc hd hu⟩

lemma braces_eq_of_marginEq (hab : MarginEq a b) : braces a = braces b := by
  have hcount : ∀ c, isBlank c = false → a.count c = b.count c := by
    intro c hc
    have hinked : (Text.inked a).count c = (Text.inked b).count c := by rw [hab.inked_eq]
    rwa [Text.inked, Text.inked, List.count_filter (by simp [hc]),
      List.count_filter (by simp [hc])] at hinked
  rw [braces, braces, hcount '{' (by decide), hcount '}' (by decide)]

/-- The outline of related texts lacks the same. -/
theorem findings_eq_of_marginEq (hab : MarginEq a b) : findings a = findings b := by
  have hworkspace : hasWorkspace a = hasWorkspace b := by
    rw [Bool.eq_iff_iff, hasWorkspace_eq_true_iff, hasWorkspace_eq_true_iff]
    exact ⟨.of_marginEq hab, .of_marginEq hab.symm⟩
  have hmodel : hasSection "model".toList a = hasSection "model".toList b := by
    rw [Bool.eq_iff_iff, hasSection_eq_true_iff, hasSection_eq_true_iff]
    exact opens_iff_of_marginEq (c := 'm') (d := 'l') (u := "ode".toList) hab (by decide)
      (by decide) (by decide)
  have hviews : hasSection "views".toList a = hasSection "views".toList b := by
    rw [Bool.eq_iff_iff, hasSection_eq_true_iff, hasSection_eq_true_iff]
    exact opens_iff_of_marginEq (c := 'v') (d := 's') (u := "iew".toList) hab (by decide)
      (by decide) (by decide)
  rw [findings, findings, hworkspace, hmodel, hviews, braces_eq_of_marginEq hab]

end Outline

namespace Validation

/-- Two documents have the same validation, with all their issues as they are worded and on the
lines where they are, if what stands between their line feeds is the same when it is trimmed. -/
theorem ofDocument_eq_of_map_trim_eq {a b : Text}
    (h : (a.splitOn '\n').map Text.trim = (b.splitOn '\n').map Text.trim) (options : Options) :
    ofDocument options a = ofDocument options b := by
  have hentries : Entry.all options.nesting a = Entry.all options.nesting b := by
    rw [Entry.all, Entry.all, Statement.all_eq_ofLines, Statement.all_eq_ofLines,
      Statement.ofLines_eq_of_map_trim_eq h]
  have houtline : Outline.issues a = Outline.issues b := by
    rw [Outline.issues, Outline.issues,
      Outline.findings_eq_of_marginEq (Text.marginEq_of_map_trim_eq h)]
  rw [ofDocument, ofDocument, hentries, houtline]

/-- Carriage returns, tabs, blank lines of spaces and wide spaces, also between words of the outline
and their braces, which stand on other lines. -/
theorem ofDocument_eq_of_map_trim_eq_with_returns :
    let a := "workspace\n\"W\"\n\x7b\nmodel\n\n\x7b\na = person\nviews\x7b\n\x7d \x7d\n".toList
    let b :=
      ("workspace\t\r\n  \"W\" \r\n\x7b\r\n\tmodel \r\n \t\r\n\u3000\x7b\r\n"
        ++ "    a = person\u3000\r\nviews\x7b\r\n\u2003\x7d \x7d\t\n ").toList
    a ≠ b ∧ (a.splitOn '\n').map Text.trim = (b.splitOn '\n').map Text.trim ∧
      Outline.DeclaresWorkspace b ∧ ofDocument ⟨.nested, true⟩ a = ofDocument ⟨.nested, true⟩ b := by
  intro a b
  have h : (a.splitOn '\n').map Text.trim = (b.splitOn '\n').map Text.trim := by decide +kernel
  exact ⟨by decide +kernel, h, Outline.hasWorkspace_eq_true_iff.1 (by decide +kernel),
    ofDocument_eq_of_map_trim_eq h ⟨.nested, true⟩⟩

end Validation

end C4Lint
