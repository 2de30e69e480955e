/-
# Tidy statements

A tidy statement is written with single spaces between its lexemes, and it is made of names,
strings, braces, equals signs and arrows only (`Lexeme.IsTidy`).  Such a statement survives
everything that happens to a line before it is understood: it is found on its line whatever blanks
stand before it (`Statement.ofLine?_append_written`), its lexemes are read back
(`Token.scan_written`), and it holds no braces but its own (`Lexeme.count_written`).
-/
import C4Lint.Proofs.Text.Trim
import C4Lint.Proofs.Token.Block
import C4Lint.Proofs.Token.Spelling
import C4Lint.Proofs.Declaration.Names
import C4Lint.Proofs.Statement.Marker

namespace C4Lint

open Text (isBlank Blanks)

namespace Text

/-- A text that may stand in a string: it has neither quotes nor line ends nor braces. -/
def IsBody (t : Text) : Prop := '"' ∉ t ∧ '\n' ∉ t ∧ '{' ∉ t ∧ '}' ∉ t

instance (t : Text) : Decidable t.IsBody := inferInstanceAs (Decidable (_ ∧ _))

end Text

namespace Lexeme

/-- A lexeme of a tidy statement: no string is left open or holds line ends or braces, and there are
no signs without meaning. -/
def IsTidy : Lexeme → Prop
  | name t => t.IsName
  | string b => b.IsBody
  | openString _ => False
  | other _ => False
  | _ => True

lemma IsTidy.valid {l : Lexeme} (h : l.IsTidy) : l.Valid := by
  cases l with
  | name t => exact h
  | string b => exact h.1
  | openString b => exact h.elim
  | other c => exact h.elim
  | _ => trivial

/-- A lexeme that may stand anywhere in a statement: it keeps to its kind, and it is not a string
that is left open. -/
def IsClosed (l : Lexeme) : Prop := l.Valid ∧ ∀ b, l ≠ openString b

lemma IsTidy.isClosed {l : Lexeme} (h : l.IsTidy) : l.IsClosed := by
  refine ⟨h.valid, fun b hb => ?_⟩
  rw [hb] at h
  exact h

/-- The lexemes of a statement, with blanks before all of them but the first. -/
def spaced : List Lexeme → List Token
  | [] => []
  | l :: ls => ⟨l, false⟩ :: ls.map fun l => ⟨l, true⟩

/-- The lexemes as they are written in a tidy statement. -/
def written (ls : List Lexeme) : Text := Token.spellAll (spaced ls)

variable {l : Lexeme} {ls : List Lexeme} {c : Char} {t : Text}

@[simp] lemma written_nil : written [] = [] := rfl

lemma written_cons (l : Lexeme) (ls : List Lexeme) :
    written (l :: ls) = l.spell ++ ls.flatMap fun l => ' ' :: l.spell := by
  simp [written, spaced, Token.spellAll, Token.spell, List.flatMap_map]

lemma written_append_singleton (hls : ls ≠ []) (l : Lexeme) :
    written (ls ++ [l]) = written ls ++ ' ' :: l.spell := by
  obtain ⟨k, ks, rfl⟩ := List.exists_cons_of_ne_nil hls
  simp [written_cons]

lemma map_lexeme_spaced (ls : List Lexeme) : (spaced ls).map Token.lexeme = ls := by
  cases ls with
  | nil => rfl
  | cons l ls => simp [spaced, Function.comp_def]

lemma lexeme_mem_of_mem_spaced {t : Token} (h : t ∈ spaced ls) : t.lexeme ∈ ls := by
  rw [← map_lexeme_spaced ls]
  exact List.mem_map_of_mem h

lemma braces_spaced (ls : List Lexeme) :
    Token.braces (spaced ls) = ⟨ls.count .openBrace, ls.count .closeBrace⟩ := by
  have hcount : ∀ l : Lexeme, (spaced ls).countP (fun t => t.lexeme = l) = ls.count l := by
    intro l
    conv_rhs => rw [← map_lexeme_spaced ls, List.count, List.countP_map]
    exact List.countP_congr fun t _ => by simp
  rw [Token.braces, hcount, hcount]

/-! ### The characters of a tidy lexeme -/

lemma spell_ne_nil (h : l.IsTidy) : l.spell ≠ [] := by
  cases l with
  | name t => exact h.1
  | openString b => exact h.elim
  | other d => exact h.elim
  | _ => simp [spell, text]

/-- No blank stands at the ends of a lexeme, since names hold none and strings have their quotes. -/
lemma isBlank_eq_false_of_mem_ends (h : l.IsTidy)
    (hc : c ∈ l.spell.head? ∨ c ∈ l.spell.getLast?) : isBlank c = false := by
  have hmem : c ∈ l.spell := hc.elim List.mem_of_mem_head? List.mem_of_mem_getLast?
  cases l with
  | name t => exact Text.isBlank_eq_false_of_isNameChar (h.2 c hmem)
  | string b =>
    have hquote : '"' = c := by simpa [spell, List.getLast?_cons] using hc
    rw [← hquote]
    decide
  | openString b => exact h.elim
  | other d => exact h.elim
  | _ =>
    have hall : ∀ s : Text, s.all (fun d => !isBlank d) = true → c ∈ s → isBlank c = false :=
      fun s hs hcs => by simpa using List.all_eq_true.1 hs c hcs
    exact hall _ (by decide) hmem

/-- A line end stands in no lexeme, and a brace only in the lexeme that it is. -/
lemma newline_not_mem_spell (h : l.IsTidy) : '\n' ∉ l.spell := by
  cases l with
  | name t => exact fun hmem => absurd (h.2 _ hmem) (by decide)
  | string b => simpa [spell] using h.2.1
  | openString b => exact h.elim
  | other d => exact h.elim
  | _ => decide

lemma count_spell (h : l.IsTidy) :
    l.spell.count '{' = (if l = .openBrace then 1 else 0) ∧
      l.spell.count '}' = if l = .closeBrace then 1 else 0 := by
  cases l with
  | name t =>
    refine ⟨List.count_eq_zero_of_not_mem fun hmem => ?_,
      List.count_eq_zero_of_not_mem fun hmem => ?_⟩
    · exact absurd (h.2 _ hmem) (by decide)
    · exact absurd (h.2 _ hmem) (by decide)
  | string b =>
    refine ⟨List.count_eq_zero_of_not_mem ?_, List.count_eq_zero_of_not_mem ?_⟩
    · simpa [spell] using h.2.2.1
    · simpa [spell] using h.2.2.2
  | openString b => exact h.elim
  | other d => exact h.elim
  | _ => decide

/-! ### The characters of a tidy statement -/

lemma newline_not_mem_written (h : ∀ l ∈ ls, l.IsTidy) : '\n' ∉ written ls := by
  cases ls with
  | nil => simp
  | cons l ls =>
    rw [written_cons, List.mem_append, List.mem_flatMap]
    rintro (hl | ⟨k, hk, hmem⟩)
    · exact newline_not_mem_spell (h l List.mem_cons_self) hl
    · have hspell : '\n' ∈ k.spell := by simpa using hmem
      exact newline_not_mem_spell (h k (List.mem_cons_of_mem _ hk)) hspell

/-- A tidy statement is not empty and has no blanks at its ends. -/
lemma ends_written (hne : ls ≠ []) (h : ∀ l ∈ ls, l.IsTidy) :
    written ls ≠ [] ∧ (∀ c ∈ (written ls).head?, isBlank c = false) ∧
      ∀ c ∈ (written ls).getLast?, isBlank c = false := by
  have hfirst : ∃ k ∈ ls, ∃ v, written ls = k.spell ++ v := by
    obtain ⟨k, ks, rfl⟩ := List.exists_cons_of_ne_nil hne
    exact ⟨k, List.mem_cons_self, _, written_cons k ks⟩
  have hlast : ∃ k ∈ ls, ∃ v, written ls = v ++ k.spell := by
    rcases List.eq_nil_or_concat' ls with rfl | ⟨ks, k, rfl⟩
    · exact absurd rfl hne
    rcases eq_or_ne ks [] with rfl | hks
    · exact ⟨k, by simp, [], by simp [written_cons]⟩
    · exact ⟨k, by simp, written ks ++ [' '], by simp [written_append_singleton hks]⟩
  obtain ⟨k, hk, v, hkv⟩ := hfirst
  obtain ⟨m, hm, w, hmw⟩ := hlast
  have hne_spell := spell_ne_nil (h k hk)
  refine ⟨by simp [hkv, hne_spell], fun c hc => ?_, fun c hc => ?_⟩
  · rw [hkv, List.head?_append_of_ne_nil _ hne_spell] at hc
    exact isBlank_eq_false_of_mem_ends (h k hk) (Or.inl hc)
  · rw [hmw, List.getLast?_append_of_ne_nil _ (spell_ne_nil (h m hm))] at hc
    exact isBlank_eq_false_of_mem_ends (h m hm) (Or.inr hc)

/-- A tidy statement has the braces that are among its lexemes. -/
theorem count_written (h : ∀ l ∈ ls, l.IsTidy) :
    (written ls).count '{' = ls.count .openBrace ∧
      (written ls).count '}' = ls.count .closeBrace := by
  have hrest : ∀ ks : List Lexeme, (∀ k ∈ ks, k.IsTidy) →
      (ks.flatMap fun k => ' ' :: k.spell).count '{' = ks.count .openBrace ∧
        (ks.flatMap fun k => ' ' :: k.spell).count '}' = ks.count .closeBrace := by
    intro ks hks
    induction ks with
    | nil => exact ⟨rfl, rfl⟩
    | cons k ks ih =>
      obtain ⟨hopen, hclose⟩ := count_spell (hks k List.mem_cons_self)
      obtain ⟨ihopen, ihclose⟩ := ih fun m hm => hks m (List.mem_cons_of_mem _ hm)
      simp [List.count_cons, hopen, hclose, ihopen, ihclose, Nat.add_comm]
  cases ls with
  | nil => exact ⟨rfl, rfl⟩
  | cons l ls =>
    obtain ⟨hopen, hclose⟩ := count_spell (h l List.mem_cons_self)
    obtain ⟨ihopen, ihclose⟩ := hrest ls fun m hm => h m (List.mem_cons_of_mem _ hm)
    simp [written_cons, List.count_cons, hopen, hclose, ihopen, ihclose, Nat.add_comm]

end Lexeme

namespace Token

open Lexeme (written)

variable {ls : List Lexeme}

/-- Blanks keep all lexemes apart but an open string and what comes behind it. -/
lemma separated_spaced (h : ∀ l ∈ ls, l.IsClosed) : Separated (Lexeme.spaced ls) := by
  have hchain : ∀ (ks : List Lexeme) (t : Token), t.lexeme.IsClosed → (∀ k ∈ ks, k.IsClosed) →
      (t :: ks.map fun k => (⟨k, true⟩ : Token)).IsChain Follows := by
    intro ks
    induction ks with
    | nil => exact fun t _ _ => List.isChain_singleton t
    | cons k ks ih =>
      intro t ht hks
      refine List.isChain_cons_cons.2 ⟨⟨ht.2, by simp⟩, ?_⟩
      exact ih _ (hks k List.mem_cons_self) fun m hm => hks m (List.mem_cons_of_mem _ hm)
  cases ls with
  | nil => exact List.isChain_nil
  | cons l ls =>
    exact hchain ls _ (h l List.mem_cons_self) fun m hm => h m (List.mem_cons_of_mem _ hm)

/-- Lexemes that are written with single spaces between them are read back. -/
theorem scan_written (h : ∀ l ∈ ls, l.IsClosed) : scan (written ls) = Lexeme.spaced ls :=
  scan_spellAll (fun _ ht => (h _ (Lexeme.lexeme_mem_of_mem_spaced ht)).1) (separated_spaced h)

/-- Tidy statements that are written alike have the same lexemes. -/
lemma eq_of_written_eq {ms : List Lexeme} (hls : ∀ l ∈ ls, l.IsTidy) (hms : ∀ l ∈ ms, l.IsTidy)
    (h : written ls = written ms) : ls = ms := by
  have hspaced : Lexeme.spaced ls = Lexeme.spaced ms := by
    rw [← scan_written fun l hl => (hls l hl).isClosed, h,
      scan_written fun l hl => (hms l hl).isClosed]
  rw [← Lexeme.map_lexeme_spaced ls, hspaced, Lexeme.map_lexeme_spaced]

end Token

namespace Statement

lemma beforeComment_tidy_append {l : Lexeme} (h : l.IsTidy) (t : Text) :
    beforeComment false (l.spell ++ t) = l.spell ++ beforeComment false t := by
  refine beforeComment_spell_append h.valid (fun b hb => ?_) (fun c hc => ?_)
  · rw [hb] at h
    exact h.elim
  · rw [hc] at h
    exact h.elim

/-- A tidy statement holds no comment. -/
lemma beforeComment_written {ls : List Lexeme} (h : ∀ l ∈ ls, l.IsTidy) :
    beforeComment false (Lexeme.written ls) = Lexeme.written ls := by
  have hrest : ∀ ks : List Lexeme, (∀ k ∈ ks, k.IsTidy) →
      beforeComment false (ks.flatMap fun k => ' ' :: k.spell)
        = ks.flatMap fun k => ' ' :: k.spell := by
    intro ks hks
    induction ks with
    | nil => rfl
    | cons k ks ih =>
      have hspace := beforeComment_append (u := [' ']) (by simp)
        (k.spell ++ ks.flatMap fun k => ' ' :: k.spell)
      rw [List.flatMap_cons, List.cons_append]
      rw [List.singleton_append, List.singleton_append] at hspace
      rw [hspace, beforeComment_tidy_append (hks k List.mem_cons_self),
        ih fun m hm => hks m (List.mem_cons_of_mem _ hm)]
  cases ls with
  | nil => rfl
  | cons l ls =>
    rw [Lexeme.written_cons, beforeComment_tidy_append (h l List.mem_cons_self),
      hrest ls fun m hm => h m (List.mem_cons_of_mem _ hm)]

/-- A tidy statement is found on its line, whatever blanks stand before it. -/
theorem ofLine?_append_written {ls : List Lexeme} (hne : ls ≠ []) (h : ∀ l ∈ ls, l.IsTidy)
    {u : Text} (hu : Blanks u) (n : Nat) :
    ofLine? n (u ++ Lexeme.written ls) = some ⟨n, Lexeme.written ls, Lexeme.written ls⟩ := by
  obtain ⟨hnil, hfirst, hlast⟩ := Lexeme.ends_written hne h
  have htrim : Text.trim (u ++ Lexeme.written ls) = Lexeme.written ls :=
    Text.trim_append_eq hu hfirst hlast
  have hstrip : stripComment (u ++ Lexeme.written ls) = Lexeme.written ls := by
    rw [stripComment, htrim, beforeComment_written h, Text.trimEnd_eq_self hlast]
  refine ofLine?_eq_some_iff.2 ⟨?_, ?_⟩
  · rwa [hstrip]
  · rw [hstrip, htrim]

end Statement

end C4Lint
