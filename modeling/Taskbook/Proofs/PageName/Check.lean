/-
  The two checks of a page name, character by character. The check at the API takes names of
  identifier characters and hyphens, and not too many of them (`fitsApi_iff`); the check at the
  forms and at the import takes names of word characters and hyphens, with or without a line feed
  behind them (`accepted_iff`). Of names that are not too long and have no such line feed, both take
  the same where each character is in both classes or in none (`fitsApi_iff_accepted`). All of ASCII
  is in both or in none (`agreed_of_ascii`).
-/
import Taskbook.PageName.Title
import Taskbook.Proofs.Task.Tag

namespace Taskbook.PageName

variable {name : Text}

/-- Made of identifier characters and hyphens. -/
def Identifying (name : Text) : Prop := name ≠ [] ∧ ∀ c ∈ name, isIdentifier c = true ∨ c = '-'

/-- Made of word characters and hyphens. -/
def Wordlike (name : Text) : Prop := name ≠ [] ∧ ∀ c ∈ name, isWord c = true ∨ c = '-'

instance : DecidablePred Wordlike := fun name =>
  decidable_of_iff (name ≠ [] ∧ name.all (fun c => isWord c || c = '-') = true) (by simp [Wordlike])

/-- What the API takes. -/
def FitsApi (name : Text) : Prop := Identifying name ∧ name.length ≤ maxLength

/-- What the forms and the import take. -/
def FitsForms (name : Text) : Prop :=
  ∃ stem, Wordlike stem ∧ (name = stem ∨ name = stem ++ ['\n'])

theorem isBlank_eq_false_of_isIdentifier {c : Char} (h : isIdentifier c = true) :
    isBlank c = false := by
  have hcodes : ∀ n ∈ blankCodes, isIdentifier (Char.ofNat n) = false := by
    decide +kernel
  refine Bool.eq_false_iff.mpr fun hblank => ?_
  have hc := hcodes c.toNat (List.contains_iff_mem.mp hblank)
  rw [Char.ofNat_toNat, h] at hc
  cases hc

theorem fitsApi_iff : FitsApi name ↔ wellFormed name = true ∧ name.length ≤ maxLength := by
  simp [FitsApi, Identifying, wellFormed]

theorem accepted_iff_stem : accepted name = true ↔ Wordlike (Text.dropFinalNewline name) := by
  simp [accepted, Wordlike]

/-- A name of word characters and hyphens can be the value of a tag on a line. -/
theorem Wordlike.tagForm {key : Text} (hkey : key ≠ [] ∧ key.all isWord = true)
    (h : Wordlike name) : TagForm (key, name) where
  key_ne_nil := hkey.1
  key_word := List.all_eq_true.mp hkey.2
  value_ne_nil := h.1
  value_char := by
    intro c hc
    rcases h.2 c hc with hword | rfl
    · exact isTagValue_of_isWord hword
    · rfl

theorem not_wordlike_concat (stem : Text) : ¬ Wordlike (stem ++ ['\n']) := by
  rintro ⟨-, hall⟩
  rcases hall '\n' (List.mem_append_right _ (List.mem_singleton_self _)) with hword | hhyphen
  · exact absurd hword (by decide +kernel)
  · exact absurd hhyphen (by decide)

theorem Wordlike.dropFinalNewline (h : Wordlike name) : Text.dropFinalNewline name = name := by
  refine if_neg fun hlast => ?_
  obtain ⟨stem, rfl⟩ := List.getLast?_eq_some_iff.mp hlast
  exact not_wordlike_concat stem h

theorem accepted_iff : accepted name = true ↔ FitsForms name := by
  rw [accepted_iff_stem]
  unfold Text.dropFinalNewline FitsForms
  split
  · next hlast =>
    obtain ⟨stem, rfl⟩ := List.getLast?_eq_some_iff.mp hlast
    rw [List.dropLast_concat]
    constructor
    · exact fun hstem => ⟨stem, hstem, Or.inr rfl⟩
    · rintro ⟨other, hother, heq | heq⟩
      · exact absurd (heq ▸ hother) (not_wordlike_concat stem)
      · exact List.append_cancel_right heq ▸ hother
  · next hlast =>
    constructor
    · exact fun hname => ⟨name, hname, Or.inl rfl⟩
    · rintro ⟨other, hother, rfl | rfl⟩
      · exact hother
      · exact absurd List.getLast?_concat hlast

/-- A name on which both checks agree. -/
structure Agreed (name : Text) : Prop where
  length : name.length ≤ maxLength
  last : name.getLast? ≠ some '\n'
  char : ∀ c ∈ name, isWord c = isIdentifier c

theorem fitsApi_iff_accepted (h : Agreed name) : FitsApi name ↔ accepted name = true := by
  rw [accepted_iff_stem, Text.dropFinalNewline, if_neg h.last, FitsApi, and_iff_left h.length]
  refine and_congr_right fun _ => forall₂_congr fun c hc => ?_
  rw [h.char c hc]

theorem isWord_of_ascii {c : Char} (h : c.toNat < 0x80) : isWord c = isIdentifier c := by
  have hnot : decide (0x80 ≤ c.toNat) = false := decide_eq_false (by omega)
  unfold isWord isIdentifier isAlnum
  rw [hnot, Bool.false_and, Bool.false_and, Bool.or_false, Bool.or_false]

theorem agreed_of_ascii (hlength : name.length ≤ maxLength) (hlast : name.getLast? ≠ some '\n')
    (h : name.all (fun c => c.toNat < 0x80) = true) : Agreed name :=
  ⟨hlength, hlast, fun c hc => isWord_of_ascii (of_decide_eq_true (List.all_eq_true.mp h c hc))⟩

end Taskbook.PageName
