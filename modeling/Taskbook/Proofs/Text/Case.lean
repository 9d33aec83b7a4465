/-
  The lower case of a text and that of its ASCII letters alone. Lower case in the full mapping takes
  in the one of ASCII: a text whose ASCII letters are small already has the same lower case
  (`lower_asciiLower`), since a capital of ASCII and its small letter are alike to the mapping, also
  as neighbours of a sigma. On texts of ASCII both are the same (`lower_of_ascii`), and of all other
  characters two have a letter of ASCII in their lower case (`lowerChar_of_not_ascii`).
-/
import Taskbook.Text.Case

namespace Taskbook.Text

/-- A character with the case of ASCII letters taken off. -/
def smallChar (c : Char) : Char := if isCapital c then Char.ofNat (c.toNat + 0x20) else c

theorem asciiLower_cons (c : Char) (s : Text) :
    asciiLower (c :: s) = smallChar c :: asciiLower s := rfl

/-! ## One character -/

theorem exists_of_isCapital {c : Char} (h : isCapital c = true) :
    ∃ n < 26, c = Char.ofNat (0x41 + n) := by
  have hcapital : 'A'.toNat ≤ c.toNat ∧ c.toNat ≤ 'Z'.toNat := by
    simpa [isCapital, Char.le_def, UInt32.le_iff_toNat_le] using h
  have hA : 'A'.toNat = 0x41 := rfl
  have hZ : 'Z'.toNat = 0x5a := rfl
  rw [hA, hZ] at hcapital
  refine ⟨c.toNat - 0x41, by omega, ?_⟩
  rw [Nat.add_sub_cancel' hcapital.1]
  exact (Char.ofNat_toNat c).symm

/-- What holds of the capitals of ASCII, and of all that stay, holds of each character. -/
theorem forall_smallChar {P : Char → Char → Prop}
    (hcapital : ∀ n < 26, P (Char.ofNat (0x41 + n)) (Char.ofNat (0x61 + n)))
    (hsame : ∀ c, P c c) (c : Char) : P c (smallChar c) := by
  unfold smallChar
  split
  · next h =>
    obtain ⟨n, hn, rfl⟩ := exists_of_isCapital h
    have hsmall : ∀ m < 26,
        Char.ofNat ((Char.ofNat (0x41 + m)).toNat + 0x20) = Char.ofNat (0x61 + m) := by decide
    rw [hsmall n hn]
    exact hcapital n hn
  · exact hsame c

theorem isCaseIgnorable_smallChar (c : Char) :
    isCaseIgnorable (smallChar c) = isCaseIgnorable c := by
  apply forall_smallChar (P := fun a b => isCaseIgnorable b = isCaseIgnorable a)
  · decide
  · exact fun _ => rfl

theorem isCased_smallChar (c : Char) : isCased (smallChar c) = isCased c := by
  apply forall_smallChar (P := fun a b => isCased b = isCased a)
  · decide
  · exact fun _ => rfl

theorem lowerChar_smallChar (c : Char) : lowerChar (smallChar c) = lowerChar c := by
  apply forall_smallChar (P := fun a b => lowerChar b = lowerChar a)
  · decide
  · exact fun _ => rfl

theorem toNat_smallChar_eq_sigma_iff (c : Char) :
    (smallChar c).toNat = 0x3a3 ↔ c.toNat = 0x3a3 := by
  apply forall_smallChar (P := fun a b => b.toNat = 0x3a3 ↔ a.toNat = 0x3a3)
  · decide
  · exact fun _ => Iff.rfl

/-! ## Characters outside ASCII -/

theorem CaseRun.exists_of_image? {runs : List CaseRun} {n image : Nat}
    (h : CaseRun.image? runs n = some image) :
    ∃ run ∈ runs, run.first ≤ n ∧ n ≤ run.last ∧ run.image ≤ image := by
  induction runs with
  | nil => cases h
  | cons run runs ih =>
    rw [CaseRun.image?] at h
    split at h
    · cases h
    · split at h
      · next hfirst hholds =>
        refine ⟨run, List.mem_cons_self, by omega, hholds.1, ?_⟩
        rw [← Option.some.inj h]
        exact Nat.le_add_right _ _
      · obtain ⟨found, hmem, hfound⟩ := ih h
        exact ⟨found, List.mem_cons_of_mem run hmem, hfound⟩

/-- A character outside ASCII keeps out of it in lower case, but for the dotted capital I and the
    Kelvin sign. -/
theorem lowerChar_of_not_ascii {c : Char} (h : 0x80 ≤ c.toNat) (hdotted : c.toNat ≠ 0x130)
    (hkelvin : c.toNat ≠ 0x212a) : ∃ n, 0x80 ≤ n ∧ lowerChar c = [Char.ofNat n] := by
  have hruns : ∀ run ∈ Unicode.toLower,
      run.last < 0x80 ∨ run.first = 0x212a ∧ run.last = 0x212a ∨ 0x80 ≤ run.image := by
    decide +kernel
  refine ⟨(CaseRun.image? Unicode.toLower c.toNat).getD c.toNat, ?_, ?_⟩
  · cases himage : CaseRun.image? Unicode.toLower c.toNat with
    | none => exact h
    | some image =>
      obtain ⟨run, hmem, hfirst, hlast, hle⟩ := CaseRun.exists_of_image? himage
      rw [Option.getD_some]
      rcases hruns run hmem with hascii | ⟨hone, hsame⟩ | hhigh
      · omega
      · omega
      · omega
  · unfold lowerChar
    rw [if_neg (by omega), if_neg hdotted]

/-! ## Texts -/

theorem beforeCased_asciiLower (s : Text) : beforeCased (asciiLower s) = beforeCased s := by
  induction s with
  | nil => rfl
  | cons c rest ih =>
    unfold beforeCased at ih ⊢
    rw [asciiLower_cons, List.dropWhile_cons, List.dropWhile_cons, isCaseIgnorable_smallChar]
    by_cases hpassed : isCaseIgnorable c = true
    · rw [if_pos hpassed, if_pos hpassed]
      exact ih
    · rw [if_neg hpassed, if_neg hpassed]
      exact isCased_smallChar c

theorem lowerAfter_asciiLower (afterCased : Bool) (s : Text) :
    lowerAfter afterCased (asciiLower s) = lowerAfter afterCased s := by
  induction s generalizing afterCased with
  | nil => rfl
  | cons c rest ih =>
    rw [asciiLower_cons]
    unfold lowerAfter
    simp only [toNat_smallChar_eq_sigma_iff, beforeCased_asciiLower, lowerChar_smallChar,
      isCaseIgnorable_smallChar, isCased_smallChar, ih]

/-- Texts that differ in the case of ASCII letters alone have the same lower case. -/
theorem lower_asciiLower (s : Text) : (asciiLower s).lower = s.lower :=
  lowerAfter_asciiLower false s

theorem lower_of_ascii {s : Text} (h : ∀ c ∈ s, c.toNat < 0x80) : s.lower = asciiLower s := by
  have hafter : ∀ afterCased, lowerAfter afterCased s = asciiLower s := by
    induction s with
    | nil => exact fun _ => rfl
    | cons c rest ih =>
      obtain ⟨hc, hrest⟩ := List.forall_mem_cons.mp h
      intro afterCased
      have hsigma : ¬ c.toNat = 0x3a3 := by omega
      have hlower : lowerChar c = [smallChar c] := if_pos hc
      unfold lowerAfter
      rw [if_neg hsigma, hlower, ih hrest, asciiLower_cons]
      rfl
  exact hafter false

end Taskbook.Text
