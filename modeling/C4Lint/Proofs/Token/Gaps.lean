/-
# The blanks between tokens

The tokens of a text, each as it is written, and the blanks between them are the whole text.
`Token.Placed` is a token with the blanks that stand before it, and `exists_placed_scan` puts the
tokens of a text into their places.  From there it can be said where the spelling of a token stands
in the text (`exists_append_of_mem_scan`, `exists_append_of_scan_eq_cons`).  The main statement is
`scan_loses_nothing`.
-/
import C4Lint.Proofs.Text.Run
import C4Lint.Token.Scan

namespace C4Lint.Token

open Text (isBlank Blanks)

/-- A token in its place, which has blanks before it exactly if it says so. -/
structure Placed where
  /-- The token. -/
  token : Token
  /-- What stands between the token and whatever comes before it. -/
  gap : Text
  /-- The gap holds blanks only. -/
  blanks_gap : Blanks gap
  /-- The token knows whether there is a gap. -/
  spaced_iff : token.spaced = true ↔ gap ≠ []

/-- The part of the text that the token and the blanks before it take up. -/
def Placed.text (p : Placed) : Text := p.gap ++ p.token.lexeme.spell

variable {t : Text} {tok : Token} {ts : List Token}

/-- The tokens behind some blanks have their places.  In the induction the gap before the next token
grows until the token comes. -/
lemma exists_placed_scanAfter {spaced : Bool} {gap : Text} (hgap : Blanks gap)
    (hspaced : spaced = true ↔ gap ≠ []) (t : Text) :
    ∃ (ps : List Placed) (last : Text), ps.map Placed.token = scanAfter spaced t ∧
      Blanks last ∧ gap ++ t = ps.flatMap Placed.text ++ last := by
  induction spaced, t using scanAfter.induct generalizing gap with
  | case1 spaced => exact ⟨[], gap, by simp, hgap, by simp⟩
  | case2 spaced c t hc ih =>
    -- a blank is added to the gap, which is not empty from then on
    have hgrown : Blanks (gap ++ [c]) := by
      intro d hd
      rcases List.mem_append.1 hd with hd | hd
      · exact hgap d hd
      · rwa [List.mem_singleton.1 hd]
    obtain ⟨ps, last, htokens, hlast, htext⟩ := ih hgrown (by simp)
    refine ⟨ps, last, ?_, hlast, ?_⟩
    · rw [htokens, scanAfter_cons_of_isBlank hc]
    · rw [← htext, List.append_assoc, List.singleton_append]
  | case3 spaced c t hc ih =>
    -- the gap ends here, and behind the token a new one begins
    have hnil : Blanks [] := by simp [Blanks]
    obtain ⟨ps, last, htokens, hlast, htext⟩ := ih hnil (by simp)
    refine ⟨⟨⟨(Lexeme.read c t).1, spaced⟩, gap, hgap, hspaced⟩ :: ps, last, ?_, hlast, ?_⟩
    · rw [List.map_cons, htokens, scanAfter_cons_of_not_isBlank (by simpa using hc)]
    · rw [List.flatMap_cons, Placed.text, List.append_assoc, List.append_assoc, ← htext,
        List.nil_append, Lexeme.spell_append_of_read]

/-- The tokens of a text in their places make up the text, up to blanks at its end. -/
theorem exists_placed_scan (t : Text) :
    ∃ (ps : List Placed) (last : Text), ps.map Placed.token = scan t ∧ Blanks last ∧
      t = ps.flatMap Placed.text ++ last := by
  have hnil : Blanks [] := by simp [Blanks]
  have hspaced : false = true ↔ ([] : Text) ≠ [] := by simp
  exact exists_placed_scanAfter hnil hspaced t

/-- A token stands in the text as it is written. -/
lemma exists_append_of_mem_scan (h : tok ∈ scan t) : ∃ u v, t = u ++ tok.lexeme.spell ++ v := by
  obtain ⟨ps, last, htokens, -, htext⟩ := exists_placed_scan t
  rw [← htokens] at h
  obtain ⟨p, hp, rfl⟩ := List.mem_map.1 h
  obtain ⟨before, after, rfl⟩ := List.append_of_mem hp
  refine ⟨before.flatMap Placed.text ++ p.gap, after.flatMap Placed.text ++ last, ?_⟩
  rw [htext, List.flatMap_append, List.flatMap_cons, Placed.text]
  simp only [List.append_assoc]

/-- A text that does not begin with a blank begins with its first token. -/
lemma exists_append_of_scan_eq_cons (ht : ∀ c ∈ t.head?, isBlank c = false)
    (h : scan t = tok :: ts) : ∃ v, t = tok.lexeme.spell ++ v := by
  cases t with
  | nil => simp [scan] at h
  | cons c t =>
    rw [scan, scanAfter_cons_of_not_isBlank (ht c rfl), List.cons.injEq] at h
    rw [← h.1]
    exact ⟨(Lexeme.read c t).2, (Lexeme.spell_append_of_read c t).symm⟩

/-- The first token behind some blanks, or behind none, has blanks before it if there were some or
the text begins with one. -/
lemma spaced_of_mem_head?_scanAfter {spaced : Bool} (h : tok ∈ (scanAfter spaced t).head?) :
    tok.spaced = true ↔ spaced = true ∨ ∃ c ∈ t.head?, isBlank c = true := by
  induction spaced, t using scanAfter.induct with
  | case1 spaced => simp at h
  | case2 spaced c t hc ih =>
    rw [scanAfter_cons_of_isBlank hc] at h
    simp [ih h, hc]
  | case3 spaced c t hc ih =>
    rw [scanAfter_cons_of_not_isBlank (by simpa using hc), List.head?_cons, Option.mem_some] at h
    simp [← h, hc]

/-- Nothing of a text is lost, doubled or moved when it is taken apart into tokens: it consists of
its tokens as they are written, of blanks before exactly those that say so, and of blanks at its end.
The first token says so exactly if the text begins with a blank.  Without blanks, a text is what its
tokens are written as. -/
theorem scan_loses_nothing (t : Text) :
    (∃ (ps : List Placed) (last : Text), ps.map Placed.token = scan t ∧ Blanks last ∧
      t = ps.flatMap Placed.text ++ last) ∧
    (∀ tok ∈ (scan t).head?, tok.spaced = true ↔ ∃ c ∈ t.head?, isBlank c = true) ∧
    t.filter (fun c => !isBlank c)
      = (scan t).flatMap fun tok => tok.lexeme.spell.filter fun c => !isBlank c := by
  obtain ⟨ps, last, htokens, hlast, htext⟩ := exists_placed_scan t
  have hblanks : ∀ {w : Text}, Blanks w → w.filter (fun c => !isBlank c) = [] :=
    fun hw => List.filter_eq_nil_iff.2 fun c hc => by simp [hw c hc]
  refine ⟨⟨ps, last, htokens, hlast, htext⟩, fun tok htok => ?_, ?_⟩
  · simpa using spaced_of_mem_head?_scanAfter htok
  · -- the gaps go, and what is left is spelled by the tokens
    rw [← htokens, List.flatMap_map]
    conv_lhs => rw [htext, List.filter_append, hblanks hlast, List.append_nil, List.filter_flatMap]
    refine List.flatMap_congr fun p _ => ?_
    rw [Placed.text, List.filter_append, hblanks p.blanks_gap, List.nil_append]

/-- A string with a blank in it behind a tab, an arrow right behind the string, and a last string
that is not closed. -/
theorem scan_loses_nothing_behind_tab :
    let t := "\t\"a b\"-> c \"".toList
    let tok : Token := ⟨.string "a b".toList, true⟩
    tok ∈ (scan t).head? ∧ (∃ c ∈ t.head?, isBlank c = true) ∧
      "\"ab\"->c\"".toList
        = (scan t).flatMap fun tok => tok.lexeme.spell.filter fun c => !isBlank c := by
  intro t tok
  have htok : tok ∈ (scan t).head? := by decide +kernel
  obtain ⟨-, hspaced, hfilter⟩ := scan_loses_nothing t
  exact ⟨htok, (hspaced tok htok).1 rfl, Eq.trans (by decide +kernel) hfilter⟩

end C4Lint.Token
