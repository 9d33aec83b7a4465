/-
  The `id`s set in one walk over the tags. The walk tells headings from other tags and reads the text
  behind tags, and nothing else (`setIds`). So it passes over tags with no text behind them that are
  no headings (`setIds_core`), and over its own result it changes nothing (`setIds_setIds`).
-/
import Taskbook.Proofs.Page.Outline

namespace Taskbook.Page

open Html Text

/-! ## The walk -/

/-- What a tag is to the sections. -/
inductive Kind where
  | chapter
  | part
  | titleEnd
  | other
  deriving DecidableEq

def kindOf (tag : Tag) : Kind :=
  if isHeading 1 tag then .chapter
  else if isHeading 2 tag then .part
  else if tag.inside = titleEnd then .titleEnd
  else .other

/-- In front of all chapters, in the heading of a chapter, and behind it. -/
inductive Place where
  | outside
  | title
  | body

namespace Place

/-- The place behind a tag. -/
def behind : Place → Kind → Place
  | _, .chapter => .title
  | .title, .titleEnd => .body
  | place, _ => place

/-- The level of the section that starts with a tag. -/
def level? : Place → Kind → Option Int
  | _, .chapter => some 1
  | .body, .part => some 2
  | _, _ => none

/-- Only a chapter starts in front of all chapters. -/
theorem stays_outside {kind : Kind} (h : kind ≠ .chapter) :
    level? .outside kind = none ∧ behind .outside kind = .outside := by
  cases kind with
  | chapter => contradiction
  | part => exact ⟨rfl, rfl⟩
  | titleEnd => exact ⟨rfl, rfl⟩
  | other => exact ⟨rfl, rfl⟩

/-- A heading goes on up to its end. -/
theorem stays_title {kind : Kind} (h : kind ≠ .chapter) (hend : kind ≠ .titleEnd) :
    level? .title kind = none ∧ behind .title kind = .title := by
  cases kind with
  | chapter => contradiction
  | titleEnd => contradiction
  | part => exact ⟨rfl, rfl⟩
  | other => exact ⟨rfl, rfl⟩

/-- Behind the heading of a chapter only headings start sections. -/
theorem stays_body {kind : Kind} (h : kind ≠ .chapter) (hpart : kind ≠ .part) :
    level? .body kind = none ∧ behind .body kind = .body := by
  cases kind with
  | chapter => contradiction
  | part => contradiction
  | titleEnd => exact ⟨rfl, rfl⟩
  | other => exact ⟨rfl, rfl⟩

end Place

/-- Whether a section of a level ends in front of a tag. -/
def endsBefore (level : Int) (tag : Tag) : Bool :=
  match kindOf tag with
  | .chapter => true
  | .part => level = 2
  | _ => false

/-- The tags up to the end of a section of a level. -/
def sectionOf (level : Int) (tags : List Tag) : List Tag :=
  tags.takeWhile fun tag => !endsBefore level tag

/-- A tag with tags behind it, with its `id` set if a section starts with it. -/
def withId (place : Place) (tag : Tag) (rest : List Tag) : Tag :=
  match place.level? (kindOf tag) with
  | some level => addressed level (slugOf (leadOf (tag :: sectionOf level rest))) tag
  | none => tag

/-- Tags from a place on, with the `id`s set. -/
def setIds : Place → List Tag → List Tag
  | _, [] => []
  | place, tag :: rest => withId place tag rest :: setIds (place.behind (kindOf tag)) rest

/-! ## Kinds of tags -/

variable {level : Int} {place : Place} {tag heading : Tag} {tags rest : List Tag} {slug : Text}

theorem isHeading_addressed (level : Int) (slug : Text) (heading : Tag) :
    isHeading level (addressed level slug heading) = true :=
  List.isPrefixOf_iff_prefix.mpr (List.prefix_append _ _)

theorem kindOf_eq_chapter_iff : kindOf tag = .chapter ↔ isHeading 1 tag = true := by
  unfold kindOf
  grind

theorem kindOf_eq_part_iff : kindOf tag = .part ↔ isHeading 2 tag = true := by
  have hone : isHeading 2 tag = true → isHeading 1 tag = false := not_isHeading_one_of_two
  unfold kindOf
  grind

theorem kindOf_eq_titleEnd_iff : kindOf tag = .titleEnd ↔ tag.inside = titleEnd := by
  have hnot : tag.inside = titleEnd → isHeading 1 tag = false ∧ isHeading 2 tag = false := by
    intro hinside
    unfold isHeading
    rw [hinside]
    decide
  unfold kindOf
  grind

theorem kindOf_ne_chapter (h : isHeading 1 tag = false) : kindOf tag ≠ .chapter := by
  rw [Ne, kindOf_eq_chapter_iff, h]
  decide

theorem kindOf_ne_part (h : isHeading 2 tag = false) : kindOf tag ≠ .part := by
  rw [Ne, kindOf_eq_part_iff, h]
  decide

theorem kindOf_addressed (hlevel : IsLevel level) (h : isHeading level heading = true) :
    kindOf (addressed level slug heading) = kindOf heading := by
  have haddressed := isHeading_addressed level slug heading
  rcases hlevel with rfl | rfl
  · rw [kindOf_eq_chapter_iff.mpr h, kindOf_eq_chapter_iff.mpr haddressed]
  · rw [kindOf_eq_part_iff.mpr h, kindOf_eq_part_iff.mpr haddressed]

/-- Sections start with headings. -/
theorem isHeading_of_level? (h : place.level? (kindOf tag) = some level) :
    IsLevel level ∧ isHeading level tag = true := by
  unfold Place.level? at h
  split at h
  · next hkind =>
    obtain rfl := Option.some.inj h
    exact ⟨Or.inl rfl, kindOf_eq_chapter_iff.mp hkind⟩
  · next hkind =>
    obtain rfl := Option.some.inj h
    exact ⟨Or.inr rfl, kindOf_eq_part_iff.mp hkind⟩
  · cases h

theorem after_withId (place : Place) (tag : Tag) (rest : List Tag) :
    (withId place tag rest).after = tag.after := by
  unfold withId
  split <;> rfl

theorem kindOf_withId (place : Place) (tag : Tag) (rest : List Tag) :
    kindOf (withId place tag rest) = kindOf tag := by
  unfold withId
  split
  · next level hlevel =>
    obtain ⟨hlevel, hheading⟩ := isHeading_of_level? hlevel
    exact kindOf_addressed hlevel hheading
  · rfl

/-! ## The walk over its own result -/

/-- The attributes of a heading stay when `id`s are left out again. -/
def Settled (tag : Tag) : Prop :=
  ∀ level, IsLevel level → isHeading level tag = true →
    dropIds (dropIds (attributesOf level tag)) = dropIds (attributesOf level tag)

theorem attributesOf_addressed (level : Int) (slug : Text) (heading : Tag) :
    attributesOf level (addressed level slug heading) =
      idText slug ++ dropIds (attributesOf level heading) := by
  unfold addressed
  exact List.drop_left

theorem addressed_addressed (hslug : '"' ∉ slug)
    (h : dropIds (dropIds (attributesOf level heading)) = dropIds (attributesOf level heading)) :
    addressed level slug (addressed level slug heading) = addressed level slug heading := by
  have hattributes : dropIds (attributesOf level (addressed level slug heading)) =
      dropIds (attributesOf level heading) := by
    rw [attributesOf_addressed, dropIds_idText hslug, h]
  rw [addressed, hattributes]
  rfl

theorem afters_sectionOf_setIds (level : Int) (place : Place) (tags : List Tag) :
    (sectionOf level (setIds place tags)).map Tag.after = (sectionOf level tags).map Tag.after := by
  induction tags generalizing place with
  | nil => rfl
  | cons tag rest ih =>
    have hends : endsBefore level (withId place tag rest) = endsBefore level tag := by
      unfold endsBefore
      rw [kindOf_withId]
    unfold sectionOf at ih ⊢
    rw [setIds, List.takeWhile_cons, List.takeWhile_cons, hends]
    split
    · rw [List.map_cons, List.map_cons, after_withId, ih]
    · rfl

/-- Setting the `id`s once more changes nothing. -/
theorem setIds_setIds (place : Place) (h : ∀ tag ∈ tags, Settled tag) :
    setIds place (setIds place tags) = setIds place tags := by
  induction tags generalizing place with
  | nil => rfl
  | cons tag rest ih =>
    obtain ⟨htag, hrest⟩ := List.forall_mem_cons.mp h
    have hagain : withId place (withId place tag rest)
        (setIds (place.behind (kindOf tag)) rest) = withId place tag rest := by
      rw [withId, kindOf_withId]
      cases hstart : place.level? (kindOf tag) with
      | none =>
        rfl
      | some level =>
        obtain ⟨hlevel, hheading⟩ := isHeading_of_level? hstart
        have hwith : withId place tag rest =
            addressed level (slugOf (leadOf (tag :: sectionOf level rest))) tag := by
          rw [withId, hstart]
        have hlead : leadOf (withId place tag rest ::
            sectionOf level (setIds (place.behind (kindOf tag)) rest)) =
              leadOf (tag :: sectionOf level rest) := by
          refine leadOf_congr ?_
          rw [List.map_cons, List.map_cons, after_withId, afters_sectionOf_setIds]
        dsimp only
        rw [hlead, hwith]
        exact addressed_addressed (notMem_slugOf (by decide) (by decide) _)
          (htag level hlevel hheading)
    rw [setIds, setIds, hagain, kindOf_withId, ih _ hrest]

/-! ## Tags without text -/

/-- No heading, nor the end of one, and no text behind it. -/
def isSilent (tag : Tag) : Bool := decide (kindOf tag = .other ∧ tag.after = [])

/-- The tags that the walk does not pass over. -/
def core (tags : List Tag) : List Tag := tags.filter fun tag => !isSilent tag

theorem core_append (tags rest : List Tag) : core (tags ++ rest) = core tags ++ core rest :=
  List.filter_append tags rest

theorem core_cons_of_silent (h : isSilent tag = true) (rest : List Tag) :
    core (tag :: rest) = core rest := by
  unfold core
  rw [List.filter_cons_of_neg (by simp [h])]

theorem core_cons_of_not_silent (h : isSilent tag = false) (rest : List Tag) :
    core (tag :: rest) = tag :: core rest := by
  unfold core
  rw [List.filter_cons_of_pos (by simp [h])]

theorem isSilent_withId (place : Place) (tag : Tag) (rest : List Tag) :
    isSilent (withId place tag rest) = isSilent tag := by
  unfold isSilent
  rw [kindOf_withId, after_withId]

theorem endsBefore_of_silent (h : isSilent tag = true) : endsBefore level tag = false := by
  have hkind : kindOf tag = .other := (of_decide_eq_true h).1
  unfold endsBefore
  rw [hkind]

theorem sectionOf_core (level : Int) (tags : List Tag) :
    sectionOf level (core tags) = core (sectionOf level tags) := by
  induction tags with
  | nil => rfl
  | cons tag rest ih =>
    cases hsilent : isSilent tag with
    | true =>
      have hends : endsBefore level tag = false := endsBefore_of_silent hsilent
      have hcons : sectionOf level (tag :: rest) = tag :: sectionOf level rest := by
        unfold sectionOf
        rw [List.takeWhile_cons, hends]
        rfl
      rw [core_cons_of_silent hsilent, ih, hcons, core_cons_of_silent hsilent]
    | false =>
      rw [core_cons_of_not_silent hsilent]
      unfold sectionOf at ih ⊢
      rw [List.takeWhile_cons, List.takeWhile_cons]
      split
      · rw [ih, core_cons_of_not_silent hsilent]
      · rfl

theorem leadOf_core (tags : List Tag) : leadOf (core tags) = leadOf tags := by
  refine leadOf_filter (fun tag hkeeps => ?_) tags
  have hsilent : isSilent tag = true := by simpa using hkeeps
  exact (of_decide_eq_true hsilent).2

/-- A tag without text changes no `id`. -/
theorem withId_core (place : Place) (hsilent : isSilent tag = false) (rest : List Tag) :
    withId place tag (core rest) = withId place tag rest := by
  unfold withId
  split
  · next level hlevel =>
    have hlead := leadOf_core (tag :: sectionOf level rest)
    rw [core_cons_of_not_silent hsilent] at hlead
    rw [sectionOf_core, hlead]
  · rfl

/-- The walk passes over tags without text. -/
theorem setIds_core (place : Place) (tags : List Tag) :
    setIds place (core tags) = core (setIds place tags) := by
  induction tags generalizing place with
  | nil => rfl
  | cons tag rest ih =>
    cases hsilent : isSilent tag with
    | true =>
      have hkind : kindOf tag = .other := (of_decide_eq_true hsilent).1
      have hbehind : place.behind .other = place := by cases place <;> rfl
      rw [core_cons_of_silent hsilent, ih, setIds, hkind, hbehind,
        core_cons_of_silent (by rw [isSilent_withId, hsilent])]
    | false =>
      rw [core_cons_of_not_silent hsilent, setIds, setIds, ih, withId_core place hsilent,
        core_cons_of_not_silent (by rw [isSilent_withId, hsilent])]

end Taskbook.Page
