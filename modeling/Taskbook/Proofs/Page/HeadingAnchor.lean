/-
  What the anchor of a section depends on.

  The anchor is read off the text from a heading on, up to the next heading of its level. A run of
  text ends before the next tag at the latest, so the first run of the heading, if there is one, is
  the first of all (`leadRun?_heading_text`), and the anchor is the same whatever follows. If there
  is none the search goes on behind the heading. So the anchor depends on the heading only exactly
  if there is a run in it that starts with a letter (`anchor_is_of_heading_iff`).
-/
import Taskbook.Proofs.Page.HeadingTag

namespace Taskbook.Page

open Html Text

variable {level : Int} {attributes inner : Text}

/-! ## Headings -/

/-- The tag that closes a heading of a level. -/
def endMark (level : Int) : Text := '<' :: '/' :: (headingName level ++ ['>'])

/-- A heading with its tags. -/
def headingText (level : Int) (attributes inner : Text) : Text :=
  startMark level ++ (attributes ++ '>' :: (inner ++ endMark level))

/-- What stands behind a heading up to the next one of its level, from its closing tag on. -/
def behind (level : Int) (rest : Text) : Text := endMark level ++ upTo (startMark level) rest

/-- The `id` of the section that a text begins with. -/
def sectionId? (level : Int) (text : Text) : Option Text :=
  (dropPrefix? ((opening level).write ++ (startMark level ++ " id=\"")) text).map
    fun rest => rest.takeWhile (· ≠ '"')

/-- The first run in a heading is the first of all; if there is none, it is the first behind it. -/
theorem leadRun?_heading_text (hattributes : '>' ∉ attributes) (rest : Text) :
    leadRun? (attributes ++ '>' :: (inner ++ behind level rest)) =
      (leadRun? ('>' :: inner)).or (leadRun? (behind level rest)) := by
  have hbehind : StartsOutside (fun c => decide (c ≠ '<')) (behind level rest) :=
    startsOutside_cons.mpr (by decide)
  rw [leadRun?_append_of_notMem hattributes]
  exact leadRun?_append hbehind ('>' :: inner)

/-- No heading starts in a heading, up to the end of its closing tag, if none starts in its text. -/
theorem IsLevel.no_start (hlevel : IsLevel level) (hattributes : '<' ∉ attributes)
    (hinner : ¬ startMark level <:+: inner) :
    ¬ startMark level <:+: attributes ++ '>' :: (inner ++ '<' :: '/' :: headingName level) := by
  have hne : startMark level ≠ [] := List.cons_ne_nil _ _
  have hend : cut? (startMark level) ('<' :: '/' :: headingName level) = none := by
    rcases hlevel with rfl | rfl
    · decide
    · decide
  have hclosing : cut? (startMark level) (inner ++ '<' :: '/' :: headingName level) = none := by
    have hcut := cut?_append_of_none hlevel.notMem_headingName.2 ((cut?_eq_none_iff hne).mpr hinner)
      ('/' :: headingName level)
    exact hcut.trans (congrArg (Option.map (inFront inner)) hend)
  have hfront : '<' ∉ attributes ++ ['>'] := by simp [hattributes]
  have hwhole : cut? (startMark level)
      (attributes ++ ['>'] ++ (inner ++ '<' :: '/' :: headingName level)) = none :=
    (cut?_append hfront _).trans
      (congrArg (Option.map (inFront (attributes ++ ['>']))) hclosing)
  rw [← cut?_eq_none_iff hne]
  rwa [List.append_assoc, List.singleton_append] at hwhole

/-! ## The id of a section -/

theorem sectionId?_eq_some {slug : Text} (h : '"' ∉ slug) (more : Text) :
    sectionId? level ((opening level).write ++ (startMark level ++ (idText slug ++ more))) =
      some slug := by
  have htext : (opening level).write ++ (startMark level ++ (idText slug ++ more)) =
      ((opening level).write ++ (startMark level ++ " id=\"")) ++ (slug ++ '"' :: more) := by
    unfold idText
    simp
  have hvalue : ∀ c ∈ slug, decide (c ≠ '"') = true := by
    intro c hc
    simpa using fun heq : c = '"' => h (heq ▸ hc)
  unfold sectionId?
  rw [htext, dropPrefix?_eq_some_iff.mpr rfl, Option.map_some,
    takeWhile_append hvalue (startsOutside_cons.mpr (by decide))]

/-- A heading at the head of a text is that of the first section, whose `id` is read off the first
    run in the heading or, if there is none, behind it. -/
theorem IsLevel.sectionId?_nest (hlevel : IsLevel level)
    (hattributes : '<' ∉ attributes ∧ '>' ∉ attributes) (hinner : ¬ startMark level <:+: inner)
    (rest : Text) :
    sectionId? level (nest level (headingText level attributes inner ++ rest)) =
      some (slugOf ((leadRun? ('>' :: inner)).or (leadRun? (behind level rest)))) := by
  have htext : headingText level attributes inner ++ rest =
      [] ++ (startMark level ++
        (attributes ++ '>' :: (inner ++ '<' :: '/' :: headingName level) ++ '>' :: rest)) := by
    unfold headingText endMark
    simp
  have hpiece : attributes ++ '>' :: (inner ++ '<' :: '/' :: headingName level) ++
      '>' :: upTo (startMark level) rest = attributes ++ '>' :: (inner ++ behind level rest) := by
    unfold behind endMark
    simp
  have hempty : nest level [] = [] := by
    rw [hlevel.nest_eq (splitOn_of_none rfl)]
    rfl
  have hquote : ∀ run, '"' ∉ slugOf run := fun run => notMem_slugOf (by decide) (by decide) run
  obtain ⟨more, hnest⟩ := hlevel.nest_heading (hlevel.no_start hattributes.1 hinner) [] rest
  rw [htext, hnest, hempty, hpiece, wrap_eq _ hattributes.2, anchor_eq_slugOf,
    leadRun?_heading_text hattributes.2, List.nil_append]
  simp only [List.append_assoc]
  exact sectionId?_eq_some (hquote _) _

/-- Where nothing follows a heading or a letter does, this is told by the first run behind it. -/
theorem IsLevel.leadRun?_behind (hlevel : IsLevel level) :
    leadRun? (behind level []) = none ∧ leadRun? (behind level ['a']) = some ['a'] := by
  have hcut : cut? (startMark level) [] = none ∧ cut? (startMark level) ['a'] = none := by
    rcases hlevel with rfl | rfl
    · decide
    · decide
  unfold behind
  rw [upTo_of_none hcut.1, upTo_of_none hcut.2]
  rcases hlevel with rfl | rfl
  · decide
  · decide

/-- The `id` of a section is made of the first run of text behind a tag that starts with a letter.
    If there is one in the heading, it is that one whatever follows the heading. If there is none,
    it is the first one behind the heading, up to the next heading of the level, and the `id` is
    `section` if there is none there either. So the `id` depends on the heading only exactly if
    there is such a run in the heading. -/
theorem anchor_is_of_heading_iff (level : Int) (hlevel : IsLevel level) (attributes inner : Text)
    (hattributes : '<' ∉ attributes ∧ '>' ∉ attributes) (hinner : ¬ startMark level <:+: inner) :
    let idWith (rest : Text) :=
      sectionId? level (nest level (headingText level attributes inner ++ rest))
    (∀ run, leadRun? ('>' :: inner) = some run → ∀ rest, idWith rest = some (slugOf (some run))) ∧
    (leadRun? ('>' :: inner) = none → ∀ rest,
      idWith rest = some (slugOf (leadRun? (behind level rest))) ∧
      (leadRun? (behind level rest) = none → idWith rest = some ("section" : Text))) ∧
    ((∀ rest rest', idWith rest = idWith rest') ↔ (leadRun? ('>' :: inner)).isSome = true) := by
  intro idWith
  have hid : ∀ rest,
      idWith rest = some (slugOf ((leadRun? ('>' :: inner)).or (leadRun? (behind level rest)))) :=
    hlevel.sectionId?_nest hattributes hinner
  refine ⟨fun run hrun rest => ?own, fun hnone rest => ⟨?behind, fun hnothing => ?nothing⟩,
    ⟨fun hsame => ?some, fun hsome rest rest' => ?same⟩⟩
  case own => rw [hid, hrun, Option.some_or]
  case behind => rw [hid, hnone, Option.none_or]
  case nothing =>
    rw [hid, hnone, hnothing]
    rfl
  case some =>
    by_contra hrun
    rw [Option.not_isSome_iff_eq_none] at hrun
    obtain ⟨hnothing, hletter⟩ := hlevel.leadRun?_behind
    have heq := hsame [] ['a']
    rw [hid, hid, hrun, hnothing, hletter] at heq
    exact absurd heq (by decide +kernel)
  case same =>
    obtain ⟨run, hrun⟩ := Option.isSome_iff_exists.mp hsome
    rw [hid, hid, hrun, Option.some_or, Option.some_or]

/-- A heading with a number in front of a tag, whose first run is in the tag. -/
theorem anchor_is_of_heading_iff_numbered :
    IsLevel 2 ∧ ('<' ∉ (" class=\"x\"" : Text) ∧ '>' ∉ (" class=\"x\"" : Text)) ∧
      ¬ startMark 2 <:+: "1. <em>Deep</em> dive" ∧
      ∀ rest,
        sectionId? 2 (nest 2 (headingText 2 " class=\"x\"" "1. <em>Deep</em> dive" ++ rest)) =
          some ("deep" : Text) := by
  have hlevel : IsLevel 2 := Or.inr rfl
  have hattributes : '<' ∉ (" class=\"x\"" : Text) ∧ '>' ∉ (" class=\"x\"" : Text) := by decide
  have hinner : ¬ startMark 2 <:+: "1. <em>Deep</em> dive" :=
    (cut?_eq_none_iff (by decide)).mp (by decide +kernel)
  have hrun : leadRun? ('>' :: "1. <em>Deep</em> dive") = some ("Deep" : Text) := by decide +kernel
  have hslug : slugOf (some ("Deep" : Text)) = "deep" := by decide +kernel
  obtain ⟨hown, -, -⟩ := anchor_is_of_heading_iff 2 hlevel _ _ hattributes hinner
  exact ⟨hlevel, hattributes, hinner, fun rest => (hown _ hrun rest).trans (congrArg some hslug)⟩

/-- A heading that is a number takes its `id` from the text below it. -/
theorem anchor_is_read_below_heading :
    leadRun? ('>' :: "2024") = none ∧ ¬ startMark 1 <:+: "2024" ∧
      sectionId? 1 (nest 1 (headingText 1 [] "2024" ++ "<p>Hello</p>")) = some ("hello" : Text) ∧
      sectionId? 1 (nest 1 (headingText 1 [] "2024" ++ "<p>World</p>")) = some ("world" : Text) :=
  ⟨by decide +kernel, (cut?_eq_none_iff (by decide)).mp (by decide +kernel), by decide +kernel,
    by decide +kernel⟩

end Taskbook.Page
