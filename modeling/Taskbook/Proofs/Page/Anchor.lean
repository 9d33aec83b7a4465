/-
  What the anchor of a heading is read off. Of the text from a heading on only what stands behind
  tags counts, and of that the first run that starts with a letter (`leadRun?_heading`); so tags
  with no text behind them change nothing (`leadOf_filter`). An anchor is made of small letters,
  digits and hyphens (`mem_slugOf`).
-/
import Taskbook.Page.Anchor
import Taskbook.Proofs.Html.Tag

namespace Taskbook.Page

open Html Text

/-! ## The first run -/

theorem leadRun?_append_of_notMem {s : Text} (hs : '>' ∉ s) (rest : Text) :
    leadRun? (s ++ rest) = leadRun? rest := by
  induction s with
  | nil => rfl
  | cons c s ih =>
    simp only [List.mem_cons, not_or] at hs
    rw [List.cons_append, leadRun?, if_neg (Ne.symm hs.1), ih hs.2]

theorem notMem_of_blank {s : Text} (hs : ∀ c ∈ s, isBlank c = true) : '>' ∉ s := by
  intro hmem
  exact absurd (hs '>' hmem) (by decide)

/-- A run ends before the next tag at the latest. -/
theorem leadRun?_append {rest : Text} (hrest : StartsOutside (fun c => decide (c ≠ '<')) rest)
    (s : Text) : leadRun? (s ++ rest) = (leadRun? s).or (leadRun? rest) := by
  induction s with
  | nil => rfl
  | cons c s ih =>
    rw [List.cons_append, leadRun?, leadRun?]
    by_cases hc : c = '>'
    · rw [if_pos hc, if_pos hc]
      cases hdrop : s.dropWhile isBlank with
      | nil =>
        -- only blanks up to the next tag
        have hblank : ∀ c ∈ s, isBlank c = true := List.dropWhile_eq_nil_iff.mp hdrop
        have hskip : leadRun? (s ++ rest) = leadRun? rest :=
          leadRun?_append_of_notMem (notMem_of_blank hblank) rest
        rw [List.dropWhile_append_of_pos hblank]
        cases rest with
        | nil => rfl
        | cons d rest =>
          have hd : d = '<' := by simpa using startsOutside_cons.mp hrest
          subst hd
          have hnotBlank : isBlank '<' = false := by decide
          have hnotLead : isLead '<' = false := by decide
          rw [List.dropWhile_cons_of_neg (by simp [hnotBlank])]
          dsimp only
          rw [hnotLead, hskip]
          rfl
      | cons d tail =>
        have happend : (s ++ rest).dropWhile isBlank = d :: (tail ++ rest) := by
          rw [List.dropWhile_append, hdrop]
          rfl
        rw [happend]
        dsimp only
        by_cases hd : isLead d = true
        · rw [if_pos hd, if_pos hd, takeWhile_append_of_startsOutside hrest]
          rfl
        · rw [if_neg hd, if_neg hd, ih]
    · rw [if_neg hc, if_neg hc, ih]

/-- The first run behind one of the tags. -/
def leadOf (tags : List Tag) : Option Text := tags.findSome? fun tag => leadRun? ('>' :: tag.after)

theorem startsOutside_writeTags (tags : List Tag) :
    StartsOutside (fun c => decide (c ≠ '<')) (writeTags tags) := by
  cases tags with
  | nil => exact startsOutside_nil
  | cons tag tags => exact startsOutside_cons.mpr (by decide)

theorem leadRun?_tag (tag : Tag) {attributes : Text}
    (hattributes : '>' ∉ attributes) (tags : List Tag) :
    leadRun? (attributes ++ '>' :: (tag.after ++ writeTags tags)) =
      (leadRun? ('>' :: tag.after)).or (leadRun? (writeTags tags)) := by
  have hsplit : '>' :: (tag.after ++ writeTags tags) = '>' :: tag.after ++ writeTags tags := rfl
  rw [leadRun?_append_of_notMem hattributes, hsplit,
    leadRun?_append (startsOutside_writeTags tags)]

theorem leadRun?_writeTags {tags : List Tag} (h : ∀ tag ∈ tags, tag.WellFormed) :
    leadRun? (writeTags tags) = leadOf tags := by
  induction tags with
  | nil => rfl
  | cons tag tags ih =>
    obtain ⟨htag, htags⟩ := List.forall_mem_cons.mp h
    have hfront : '>' ∉ '<' :: tag.inside := by simp [htag.noClosing]
    rw [writeTags_cons, Tag.write_append, ← List.cons_append, leadRun?_tag tag hfront,
      ih htags]
    unfold leadOf
    rw [List.findSome?_cons]
    cases leadRun? ('>' :: tag.after) <;> rfl

/-- What follows the name of a heading says the same as the heading and the tags behind it. -/
theorem leadRun?_heading {heading : Tag} {tags : List Tag}
    (h : ∀ tag ∈ heading :: tags, tag.WellFormed) {attributes : Text}
    (hattributes : '>' ∉ attributes) :
    leadRun? (attributes ++ '>' :: (heading.after ++ writeTags tags)) =
      leadOf (heading :: tags) := by
  obtain ⟨-, htags⟩ := List.forall_mem_cons.mp h
  rw [leadRun?_tag heading hattributes, leadRun?_writeTags htags]
  unfold leadOf
  rw [List.findSome?_cons]
  cases leadRun? ('>' :: heading.after) <;> rfl

theorem leadOf_congr {tags others : List Tag} (h : tags.map Tag.after = others.map Tag.after) :
    leadOf tags = leadOf others := by
  have hmap : ∀ l : List Tag,
      leadOf l = (l.map Tag.after).findSome? fun after => leadRun? ('>' :: after) := by
    intro l
    rw [List.findSome?_map]
    rfl
  rw [hmap, hmap, h]

/-- Tags with no text behind them may be left out. -/
theorem leadOf_filter {keeps : Tag → Bool} (h : ∀ tag, keeps tag = false → tag.after = [])
    (tags : List Tag) : leadOf (tags.filter keeps) = leadOf tags := by
  induction tags with
  | nil => rfl
  | cons tag tags ih =>
    unfold leadOf at ih ⊢
    cases hkeeps : keeps tag with
    | true => rw [List.filter_cons_of_pos hkeeps, List.findSome?_cons, List.findSome?_cons, ih]
    | false =>
      have hnone : leadRun? ('>' :: tag.after) = none := by
        rw [h tag hkeeps]
        rfl
      rw [List.filter_cons_of_neg (by simp [hkeeps]), List.findSome?_cons, hnone, ih]

/-! ## The anchor -/

/-- The anchor that a first run gives. -/
def slugOf (run : Option Text) : Text :=
  match run with
  | none => "section"
  | some run =>
    match trimEnd (· = '-') (hyphenate false run.lower) with
    | [] => "section"
    | slug => slug

theorem anchor_eq_slugOf (fragment : Text) : anchor fragment = slugOf (leadRun? fragment) := rfl

theorem mem_hyphenate {c : Char} {gap : Bool} {s : Text} (h : c ∈ hyphenate gap s) :
    isAnchorChar c = true ∨ c = '-' := by
  induction s generalizing gap with
  | nil => cases h
  | cons d s ih =>
    rw [hyphenate] at h
    split at h
    · next hd =>
      rcases List.mem_cons.mp h with rfl | h
      · exact Or.inl hd
      · exact ih h
    · split at h
      · exact ih h
      · rcases List.mem_cons.mp h with rfl | h
        · exact Or.inr rfl
        · exact ih h

theorem mem_slugOf {c : Char} {run : Option Text} (h : c ∈ slugOf run) :
    isAnchorChar c = true ∨ c = '-' := by
  have hall : ("section" : Text).all isAnchorChar = true := by decide
  have hsection : ∀ d ∈ ("section" : Text), isAnchorChar d = true := List.all_eq_true.mp hall
  unfold slugOf at h
  split at h
  · exact Or.inl (hsection c h)
  · next run =>
    split at h
    · exact Or.inl (hsection c h)
    · next hslug =>
      obtain ⟨gap, hgap, -⟩ := exists_trimEnd (· = '-') (hyphenate false run.lower)
      have hmem : c ∈ hyphenate false run.lower := hgap ▸ List.mem_append_left gap h
      exact mem_hyphenate hmem

theorem notMem_slugOf {c : Char} (hc : isAnchorChar c = false) (hhyphen : c ≠ '-')
    (run : Option Text) : c ∉ slugOf run := by
  intro h
  rcases mem_slugOf h with hchar | rfl
  · rw [hchar] at hc
    cases hc
  · exact hhyphen rfl

end Taskbook.Page
