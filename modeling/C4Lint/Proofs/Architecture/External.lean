/-
# Which names are external

A name is external exactly if it holds the word "external" in any case.  The rule looks for the word
in the lower-case form of the name, which is another text, at times of another length.  But the
letters of the word come from ASCII only, and so it is enough to make the ASCII letters of the name
small (`isExternal_eq_occursIn`).  The main statement is `isExternal_exact`.
-/
import C4Lint.Architecture.External
import C4Lint.Proofs.Text.Lowercase

namespace C4Lint

open Text (occursIn)

lemma Text.onlyFromAscii_of_mem_external {c : Char} (hc : c ∈ "external".toList) :
    OnlyFromAscii c := by
  -- decided along the word: to decide it of any character is to go through all of Unicode
  have hall : "external".toList.all (fun d => decide (OnlyFromAscii d)) = true := by decide
  exact of_decide_eq_true (List.all_eq_true.1 hall c hc)

lemma Text.occursIn_external_lowercase (t : Text) :
    occursIn "external".toList (lowercase t)
      = occursIn "external".toList (t.map Char.toLower) :=
  occursIn_lowercase (fun _ => onlyFromAscii_of_mem_external) t

/-- A name that ends with the word holds it. -/
lemma Text.occursIn_of_external_isSuffixOf {t : Text}
    (h : "_external".toList.isSuffixOf t = true) :
    occursIn "external".toList (t.map Char.toLower) = true := by
  obtain ⟨start, rfl⟩ := List.isSuffixOf_iff_suffix.1 h
  rw [List.map_append]
  exact occursIn_append_right _ (by decide)

/-- A name is external if the word occurs in it with its ASCII letters made small. -/
theorem isExternal_eq_occursIn (name : Text) :
    isExternal name = occursIn "external".toList (name.map Char.toLower) := by
  rw [isExternal, Text.occursIn_external_lowercase, Bool.or_eq_right_iff_imp]
  exact Text.occursIn_of_external_isSuffixOf

/-- A letter of another alphabet that looks the same is another letter in any case. -/
example : isExternal "EXTERN\u0410L".toList = false ∧ isExternal "EXTERNAL".toList = true := by
  decide +kernel

/-- A name is external exactly if some of its characters in a row are the word "external" up to the
case of ASCII letters.  To end with an underscore and the word makes no difference, and neither does
the case of any ASCII letters, and what is around an external name leaves it external. -/
theorem isExternal_exact (name : Text) :
    (isExternal name = true ↔ ∃ run : Text, run <:+: name ∧ run.EqUpToCase "external".toList) ∧
    isExternal name = occursIn "external".toList (Text.lowercase name) ∧
    (∀ other : Text, other.EqUpToCase name → isExternal other = isExternal name) ∧
    ∀ before after : Text, isExternal name = true → isExternal (before ++ name ++ after) = true := by
  refine ⟨?_, ?_, fun other hother => ?_, fun before after hname => ?_⟩
  · rw [isExternal_eq_occursIn]
    exact Text.occursIn_map_toLower_iff (by decide) name
  · rw [isExternal_eq_occursIn, Text.occursIn_external_lowercase]
  · rw [isExternal_eq_occursIn, isExternal_eq_occursIn, hother]
  · rw [isExternal_eq_occursIn] at hname ⊢
    rw [List.map_append, List.map_append]
    exact Text.occursIn_append_left (Text.occursIn_append_right _ hname) _

/-- The word stands behind a sigma at the end of a word and before the sign for kelvin.  A dotted
capital is put before the name, which becomes two characters, and a sigma behind it. -/
theorem isExternal_exact_between_sigmas :
    let name : Text := "\u0391\u03A3_EXTernal\u212A\u03A3".toList
    let other : Text := "\u0391\u03A3_extERNAl\u212A\u03A3".toList
    (∃ run : Text, run <:+: name ∧ run.EqUpToCase "external".toList) ∧ other.EqUpToCase name ∧
    isExternal name = true ∧ isExternal other = true ∧
    isExternal ("\u0130".toList ++ name ++ "\u03A3".toList) = true := by
  intro name other
  have hrun : ∃ run : Text, run <:+: name ∧ run.EqUpToCase "external".toList :=
    ⟨"EXTernal".toList, ⟨"\u0391\u03A3_".toList, "\u212A\u03A3".toList, by decide⟩, by decide⟩
  have hother : other.EqUpToCase name := by decide
  obtain ⟨hiff, -, hcase, haround⟩ := isExternal_exact name
  have hname : isExternal name = true := hiff.2 hrun
  exact ⟨hrun, hother, hname, (hcase other hother).trans hname, haround _ _ hname⟩

end C4Lint
