/-
  Tags as they are read off a line. `readTag?_eq_some_iff` is their grammar: a key of word
  characters, a colon, a value and at least one blank; what follows is given back without the
  blanks in front. `readTags` reads such words as long as there are any (`readTags_append`), and
  no word is left where it ends (`readTag?_readTags`).
-/
import Taskbook.Proofs.Text.Trim
import Taskbook.Task.Line

namespace Taskbook

/-! ## Classes of characters -/

theorem isTagValue_of_isWord {c : Char} (h : isWord c = true) : isTagValue c = true := by
  simp [isTagValue, h]

theorem isTagValue_eq_false_of_isBlank {c : Char} (h : isBlank c = true) :
    isTagValue c = false := by
  have hcodes : ∀ n ∈ blankCodes, isTagValue (Char.ofNat n) = false := by
    decide +kernel
  have hc := hcodes c.toNat (by simpa [isBlank] using h)
  rwa [Char.ofNat_toNat] at hc

theorem isBlank_eq_false_of_isTagValue {c : Char} (h : isTagValue c = true) :
    isBlank c = false :=
  Bool.eq_false_iff.mpr fun hb => by simp [isTagValue_eq_false_of_isBlank hb] at h

/-- A tag that can stand on a line: a key of word characters and a value of such characters, dots
    and hyphens, neither of them empty. -/
structure TagForm (tag : Text × Text) : Prop where
  key_ne_nil : tag.1 ≠ []
  key_word : ∀ c ∈ tag.1, isWord c = true
  value_ne_nil : tag.2 ≠ []
  value_char : ∀ c ∈ tag.2, isTagValue c = true

/-- A tag as it is written. -/
def tagText (tag : Text × Text) : Text := tag.1 ++ ':' :: tag.2

theorem TagForm.key_not_blank {tag : Text × Text} (h : TagForm tag) :
    ∀ c ∈ tag.1, isBlank c = false :=
  fun c hc => isBlank_eq_false_of_isTagValue (isTagValue_of_isWord (h.key_word c hc))

theorem TagForm.startsOutside {tag : Text × Text} (h : TagForm tag) (rest : Text) :
    Text.StartsOutside isBlank (tagText tag ++ rest) := by
  rw [tagText, List.append_assoc]
  exact (Text.startsOutside_of_forall h.key_not_blank).append h.key_ne_nil

theorem TagForm.endsOutside {tag : Text × Text} (h : TagForm tag) :
    Text.EndsOutside isBlank (tagText tag) := by
  have hvalue : Text.EndsOutside isBlank tag.2 := Text.endsOutside_of_forall fun c hc =>
    isBlank_eq_false_of_isTagValue (h.value_char c hc)
  rw [tagText, ← List.singleton_append, ← List.append_assoc]
  exact hvalue.append h.value_ne_nil

/-! ## One tag -/

theorem readTag?_of_form {tag : Text × Text} (h : TagForm tag) {c : Char}
    (hc : isBlank c = true) (tail : Text) :
    readTag? (tagText tag ++ c :: tail) = some (tag, tail.dropWhile isBlank) := by
  obtain ⟨key, value⟩ := tag
  obtain ⟨k, ey, rfl⟩ := List.exists_cons_of_ne_nil h.key_ne_nil
  obtain ⟨v, alue, rfl⟩ := List.exists_cons_of_ne_nil h.value_ne_nil
  have hcolon : Text.StartsOutside isWord (':' :: (v :: alue) ++ c :: tail) :=
    Text.startsOutside_cons.mpr (by decide)
  have hblank : Text.StartsOutside isTagValue (c :: tail) :=
    Text.startsOutside_cons.mpr (isTagValue_eq_false_of_isBlank hc)
  rw [tagText, List.append_assoc, readTag?, Text.takeWhile_append h.key_word hcolon,
    Text.dropWhile_append h.key_word hcolon]
  simp only [List.cons_append]
  rw [← List.cons_append, Text.takeWhile_append h.value_char hblank,
    Text.dropWhile_append h.value_char hblank]
  simp only [hc, if_true]

/-- The grammar of a tag on a line. -/
theorem readTag?_eq_some_iff {s rest : Text} {tag : Text × Text} :
    readTag? s = some (tag, rest) ↔
      TagForm tag ∧ ∃ c tail, isBlank c = true ∧ s = tagText tag ++ c :: tail ∧
        rest = tail.dropWhile isBlank := by
  constructor
  · intro h
    rw [readTag?] at h
    split at h
    · next k ey after hkey hafter =>
      split at h
      · next v alue c tail hvalue htail =>
        split at h
        · next hc =>
          obtain ⟨rfl, rfl⟩ := Prod.mk.inj (Option.some.inj h)
          refine ⟨⟨List.cons_ne_nil _ _, ?_, List.cons_ne_nil _ _, ?_⟩, c, tail, hc, ?_, rfl⟩
          · exact fun a ha => List.mem_takeWhile_imp (hkey ▸ ha)
          · exact fun a ha => List.mem_takeWhile_imp (hvalue ▸ ha)
          · rw [← List.takeWhile_append_dropWhile (p := isWord) (l := s), hkey, hafter,
              ← List.takeWhile_append_dropWhile (p := isTagValue) (l := after), hvalue, htail]
            simp [tagText]
        · cases h
      · cases h
    · cases h
  · rintro ⟨hform, c, tail, hc, rfl, rfl⟩
    exact readTag?_of_form hform hc tail

/-! ## All tags -/

/-- Tags that can all stand on a line. -/
def Tags.WellFormed (tags : Tags) : Prop := ∀ tag ∈ tags, TagForm tag

theorem readTags_of_none {s : Text} (h : readTag? s = none) : readTags s = ([], s) := by
  rw [readTags]
  split
  · rfl
  · next hsome => simp [h] at hsome

theorem readTags_of_some {s rest : Text} {tag : Text × Text} (h : readTag? s = some (tag, rest)) :
    readTags s = (tag :: (readTags rest).1, (readTags rest).2) := by
  rw [readTags]
  split
  · next hnone => simp [h] at hnone
  · next hsome =>
    obtain ⟨rfl, rfl⟩ := Prod.mk.inj (Option.some.inj (h.symm.trans hsome))
    rfl

/-- Tags written one after another, each with a blank behind it, are read back. -/
theorem readTags_append {tags : Tags} (h : tags.WellFormed) {rest : Text}
    (hrest : Text.StartsOutside isBlank rest) (hnone : readTag? rest = none) :
    readTags (tags.flatMap (fun tag => tagText tag ++ [' ']) ++ rest) = (tags, rest) := by
  induction tags with
  | nil => exact readTags_of_none hnone
  | cons tag more ih =>
    have hmore := ih fun other hother => h other (List.mem_cons_of_mem _ hother)
    have hstart : Text.StartsOutside isBlank
        (more.flatMap (fun tag => tagText tag ++ [' ']) ++ rest) := by
      cases more with
      | nil => exact hrest
      | cons next _ =>
        have hform := h next (List.mem_cons_of_mem _ List.mem_cons_self)
        simpa [List.append_assoc] using hform.startsOutside _
    have hread := readTag?_of_form (h tag List.mem_cons_self) (c := ' ') (by decide)
      (more.flatMap (fun tag => tagText tag ++ [' ']) ++ rest)
    rw [Text.dropWhile_eq_self hstart] at hread
    rw [List.flatMap_cons, List.append_assoc, List.append_assoc, List.singleton_append,
      readTags_of_some hread, hmore]

/-- What holds of the text and of what every tag leaves holds of what all tags leave. -/
theorem readTags_induction {P : Text → Prop}
    (hstep : ∀ {s rest : Text} {tag : Text × Text}, P s → readTag? s = some (tag, rest) → P rest)
    {s : Text} (h : P s) : P (readTags s).2 := by
  induction s using readTags.induct with
  | case1 s hnone => rwa [readTags_of_none hnone]
  | case2 s tag rest hsome ih =>
    rw [readTags_of_some hsome]
    exact ih (hstep h hsome)

/-- Behind the tags there is no further tag. -/
theorem readTag?_readTags (s : Text) : readTag? (readTags s).2 = none := by
  induction s using readTags.induct with
  | case1 s hnone => rwa [readTags_of_none hnone]
  | case2 s tag rest hsome ih => rwa [readTags_of_some hsome]

theorem wellFormed_readTags (s : Text) : (readTags s).1.WellFormed := by
  induction s using readTags.induct with
  | case1 s hnone =>
    rw [readTags_of_none hnone]
    nofun
  | case2 s first rest hsome ih =>
    rw [readTags_of_some hsome]
    intro tag htag
    rcases List.mem_cons.mp htag with rfl | htag
    · exact (readTag?_eq_some_iff.mp hsome).1
    · exact ih tag htag

end Taskbook
