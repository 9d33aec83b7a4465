/-
  Sections that are put on again. Putting sections on does to headings what the walk over the tags
  does (`setIds_outline`); the tags that open and end sections are passed over (`core_read_nest`).
  So however often sections are put on, the headings are those of the first time
  (`sections_keep_headings`).
-/
import Mathlib.Logic.Function.Iterate
import Taskbook.Proofs.Page.Sections
import Taskbook.Proofs.Page.Walk

namespace Taskbook.Page

open Html Text

variable {level : Int} {place : Place} {tag heading : Tag} {tags rest : List Tag} {slug : Text}

/-! ## The walk over an outline -/

/-- Tags that start no section, and behind which the place is the same. -/
theorem setIds_append (h : ∀ tag ∈ tags, place.level? (kindOf tag) = none ∧
    place.behind (kindOf tag) = place) (rest : List Tag) :
    setIds place (tags ++ rest) = tags ++ setIds place rest := by
  induction tags with
  | nil => rfl
  | cons tag tags ih =>
    obtain ⟨⟨hlevel, hbehind⟩, htags⟩ := List.forall_mem_cons.mp h
    have htag : withId place tag (tags ++ rest) = tag := by
      unfold withId
      rw [hlevel]
    rw [List.cons_append, setIds, htag, hbehind, ih htags, List.cons_append]

theorem sectionOf_append (htags : ∀ tag ∈ tags, endsBefore level tag = false)
    (hrest : sectionOf level rest = []) : sectionOf level (tags ++ rest) = tags := by
  unfold sectionOf at hrest ⊢
  rw [List.takeWhile_append_of_pos (by simpa using htags), hrest, List.append_nil]

/-- A heading with its section, and what follows the section. -/
theorem setIds_section (hstart : place.level? (kindOf heading) = some level)
    (hwell : ∀ tag ∈ heading :: tags, tag.WellFormed)
    (htags : ∀ tag ∈ tags, endsBefore level tag = false) (hrest : sectionOf level rest = []) :
    setIds place (heading :: (tags ++ rest)) =
      addressed level (anchor (fragment level heading tags)) heading ::
        setIds (place.behind (kindOf heading)) (tags ++ rest) := by
  have hheading : heading.WellFormed := hwell heading List.mem_cons_self
  have hanchor : anchor (fragment level heading tags) = slugOf (leadOf (heading :: tags)) := by
    unfold fragment
    rw [anchor_eq_slugOf, leadRun?_heading hwell (notMem_attributesOf hheading).1]
  have hwith : withId place heading (tags ++ rest) =
      addressed level (anchor (fragment level heading tags)) heading := by
    rw [withId, hstart, hanchor]
    dsimp only
    rw [sectionOf_append htags hrest]
  rw [setIds, hwith]

/-- The tags of a part with the `id` set. -/
def Part.named (part : Part) : List Tag := addressed 2 part.slug part.heading :: part.body

/-- The tags of a chapter with the `id`s set. -/
def Chapter.named (chapter : Chapter) : List Tag :=
  addressed 1 chapter.slug chapter.heading ::
    (chapter.title ++ chapter.closing.toList ++ chapter.lead ++ chapter.parts.flatMap Part.named)

theorem endsBefore_of_chapter (h : isHeading 1 tag = true) (level : Int) :
    endsBefore level tag = true := by
  unfold endsBefore
  rw [kindOf_eq_chapter_iff.mpr h]

theorem endsBefore_two_of_part (h : isHeading 2 tag = true) : endsBefore 2 tag = true := by
  unfold endsBefore
  rw [kindOf_eq_part_iff.mpr h]
  rfl

theorem sectionOf_of_ends (h : endsBefore level tag = true) (rest : List Tag) :
    sectionOf level (tag :: rest) = [] := by
  unfold sectionOf
  rw [List.takeWhile_cons_of_neg (by simp [h])]

/-- Only a chapter ends the section of a chapter. -/
theorem endsBefore_one (h : isHeading 1 tag = false) : endsBefore 1 tag = false := by
  have hchapter := kindOf_ne_chapter h
  unfold endsBefore
  split
  · contradiction
  · rfl
  · rfl

theorem endsBefore_two (hone : isHeading 1 tag = false) (htwo : isHeading 2 tag = false) :
    endsBefore 2 tag = false := by
  have hchapter := kindOf_ne_chapter hone
  have hpart := kindOf_ne_part htwo
  unfold endsBefore
  split
  · contradiction
  · contradiction
  · rfl

/-- Behind the heading of a chapter each part gets its `id`. -/
theorem setIds_parts {parts : List Part} (hparts : ∀ part ∈ parts, part.Fits)
    (hwell : ∀ part ∈ parts, ∀ tag ∈ part.tags, tag.WellFormed) (hrest : sectionOf 2 rest = []) :
    setIds .body (parts.flatMap Part.tags ++ rest) =
      parts.flatMap Part.named ++ setIds .body rest := by
  induction parts with
  | nil => rfl
  | cons part parts ih =>
    obtain ⟨hpart, hmore⟩ := List.forall_mem_cons.mp hparts
    obtain ⟨hwellPart, hwellMore⟩ := List.forall_mem_cons.mp hwell
    have hkind : kindOf part.heading = .part := kindOf_eq_part_iff.mpr hpart.heading
    have hbody : ∀ tag ∈ part.body, endsBefore 2 tag = false := fun tag htag =>
      endsBefore_two (hpart.body tag htag).1 (hpart.body tag htag).2
    have hstays : ∀ tag ∈ part.body,
        Place.level? .body (kindOf tag) = none ∧ Place.behind .body (kindOf tag) = .body :=
      fun tag htag => Place.stays_body (kindOf_ne_chapter (hpart.body tag htag).1)
        (kindOf_ne_part (hpart.body tag htag).2)
    have hnext : sectionOf 2 (parts.flatMap Part.tags ++ rest) = [] := by
      cases parts with
      | nil => exact hrest
      | cons next more =>
        obtain ⟨hnextPart, -⟩ := List.forall_mem_cons.mp hmore
        exact sectionOf_of_ends (endsBefore_two_of_part hnextPart.heading) _
    have hstart : Place.level? .body (kindOf part.heading) = some 2 := by rw [hkind]; rfl
    have hbehind : Place.behind .body (kindOf part.heading) = .body := by rw [hkind]; rfl
    have hsection := setIds_section hstart hwellPart hbody hnext
    rw [hbehind, setIds_append hstays, ih hmore hwellMore] at hsection
    rw [List.flatMap_cons, List.flatMap_cons, List.append_assoc, List.append_assoc]
    exact hsection

/-- A chapter and its parts get their `id`s, and the place behind them is some place. -/
theorem setIds_chapter {chapter : Chapter} (h : chapter.Fits)
    (hwell : ∀ tag ∈ chapter.tags, tag.WellFormed) (place : Place) {rest : List Tag}
    (hrest : ∀ level, sectionOf level rest = []) :
    ∃ behind, setIds place (chapter.tags ++ rest) = chapter.named ++ setIds behind rest := by
  have hkind : kindOf chapter.heading = .chapter := kindOf_eq_chapter_iff.mpr h.heading
  have hstart : place.level? (kindOf chapter.heading) = some 1 := by
    rw [hkind]
    cases place <;> rfl
  have hbehind : place.behind (kindOf chapter.heading) = .title := by
    rw [hkind]
    cases place <;> rfl
  have hbody : ∀ tag ∈ chapter.body, endsBefore 1 tag = false := fun tag htag =>
    endsBefore_one (h.body tag htag)
  have hsection := setIds_section hstart hwell hbody (hrest 1)
  have hslug : anchor (fragment 1 chapter.heading chapter.body) = chapter.slug := rfl
  rw [hbehind, hslug] at hsection
  have hwellParts : ∀ part ∈ chapter.parts, ∀ tag ∈ part.tags, tag.WellFormed :=
    fun part hpart tag htag => hwell tag (chapter.mem_tags hpart htag)
  unfold Chapter.named
  generalize chapter.slug = slug at hsection ⊢
  obtain ⟨heading, title, closing, lead, parts⟩ := chapter
  have htitle : ∀ tag ∈ title,
      Place.level? .title (kindOf tag) = none ∧ Place.behind .title (kindOf tag) = .title := by
    intro tag htag
    obtain ⟨hone, hend⟩ := h.title tag htag
    exact Place.stays_title (kindOf_ne_chapter hone) (by rwa [Ne, kindOf_eq_titleEnd_iff])
  dsimp only [Chapter.tags, Chapter.body] at hsection ⊢
  rw [List.append_assoc, List.append_assoc, List.append_assoc, setIds_append htitle] at hsection
  cases closing with
  | none =>
    obtain ⟨rfl, rfl⟩ := h.unclosed rfl
    refine ⟨.title, ?_⟩
    simpa using hsection
  | some close =>
    have hclose : kindOf close = .titleEnd := kindOf_eq_titleEnd_iff.mpr (h.closing close rfl)
    have hlead : ∀ tag ∈ lead,
        Place.level? .body (kindOf tag) = none ∧ Place.behind .body (kindOf tag) = .body := by
      intro tag htag
      obtain ⟨hone, htwo⟩ := h.lead tag htag
      exact Place.stays_body (kindOf_ne_chapter hone) (kindOf_ne_part htwo)
    have hcloseStep : ∀ more : List Tag,
        setIds .title (close :: more) = close :: setIds .body more := by
      intro more
      rw [setIds, withId, hclose]
      rfl
    have hparts := setIds_parts h.parts hwellParts (hrest 2)
    refine ⟨.body, ?_⟩
    rw [Option.toList_some, List.singleton_append, hcloseStep, setIds_append hlead,
      hparts] at hsection
    simpa using hsection

theorem setIds_chapters {chapters : List Chapter} (hfits : ∀ chapter ∈ chapters, chapter.Fits)
    (hwell : ∀ chapter ∈ chapters, ∀ tag ∈ chapter.tags, tag.WellFormed) (place : Place) :
    setIds place (chapters.flatMap Chapter.tags) = chapters.flatMap Chapter.named := by
  induction chapters generalizing place with
  | nil => rfl
  | cons chapter chapters ih =>
    obtain ⟨hchapter, hmore⟩ := List.forall_mem_cons.mp hfits
    obtain ⟨hwellChapter, hwellMore⟩ := List.forall_mem_cons.mp hwell
    have hnext : ∀ level, sectionOf level (chapters.flatMap Chapter.tags) = [] := by
      intro level
      cases chapters with
      | nil => rfl
      | cons next more =>
        obtain ⟨hnextChapter, -⟩ := List.forall_mem_cons.mp hmore
        exact sectionOf_of_ends (endsBefore_of_chapter hnextChapter.heading level) _
    obtain ⟨behind, hbehind⟩ := setIds_chapter hchapter hwellChapter place hnext
    rw [List.flatMap_cons, List.flatMap_cons, hbehind, ih hmore hwellMore]

/-- The headings of the sections get their `id`s, and nothing else changes. -/
theorem setIds_outline {outline : Outline} (h : outline.Fits) :
    setIds .outside outline.plain.tags =
      outline.before ++ outline.chapters.flatMap Chapter.named := by
  have hbefore : ∀ tag ∈ outline.before,
      Place.level? .outside (kindOf tag) = none ∧ Place.behind .outside (kindOf tag) = .outside :=
    fun tag htag => Place.stays_outside (kindOf_ne_chapter (h.before tag htag))
  have hwell : ∀ chapter ∈ outline.chapters, ∀ tag ∈ chapter.tags, tag.WellFormed :=
    fun chapter hchapter tag htag => h.wellFormed.tags tag (outline.mem_tags hchapter htag)
  unfold Outline.plain
  rw [setIds_append hbefore, setIds_chapters h.chapters hwell]

/-! ## Sections and the walk -/

theorem isSilent_opening (hlevel : IsLevel level) : isSilent (opening level) = true := by
  rcases hlevel with rfl | rfl
  · decide
  · decide

theorem isSilent_ending : isSilent ending = true := by decide

theorem core_sectionTags (hlevel : IsLevel level) (slug : Text) (heading : Tag) (tags : List Tag) :
    core (sectionTags level slug heading tags) =
      core (addressed level slug heading :: tags) := by
  have hending : core [ending] = [] := core_cons_of_silent isSilent_ending []
  unfold sectionTags
  rw [core_cons_of_silent (isSilent_opening hlevel), ← List.cons_append, core_append, hending,
    List.append_nil]

theorem core_flatMap {α : Type} (items : List α) (f : α → List Tag) :
    core (items.flatMap f) = items.flatMap fun item => core (f item) := by
  induction items with
  | nil => rfl
  | cons item items ih => rw [List.flatMap_cons, List.flatMap_cons, core_append, ih]

theorem core_wrapped {outline : Outline} :
    core outline.wrapped.tags =
      core (outline.before ++ outline.chapters.flatMap Chapter.named) := by
  have hpart : ∀ part : Part, core part.wrapped = core part.named :=
    fun part => core_sectionTags (Or.inr rfl) part.slug part.heading part.body
  have hchapter : ∀ chapter : Chapter, core chapter.wrapped = core chapter.named := by
    intro chapter
    have hsplit : ∀ more : List Tag, core (addressed 1 chapter.slug chapter.heading ::
        (chapter.title ++ chapter.closing.toList ++ chapter.lead ++ more)) =
          core (addressed 1 chapter.slug chapter.heading ::
            (chapter.title ++ chapter.closing.toList ++ chapter.lead)) ++ core more := by
      intro more
      rw [← List.cons_append, core_append]
    unfold Chapter.wrapped Chapter.named
    rw [core_sectionTags (Or.inl rfl), hsplit, hsplit, core_flatMap, core_flatMap]
    simp only [hpart]
  unfold Outline.wrapped
  rw [core_append, core_append, core_flatMap, core_flatMap]
  simp only [hchapter]

/-- What the walk sees of a text with sections is the walk over what it sees of the text. -/
theorem core_read_nest {html : Text} (hclosed : ClosesTags html) :
    core (Markup.read (nest 1 html)).tags = setIds .outside (core (Markup.read html).tags) := by
  have hfits := Outline.fits_read (Markup.wellFormed_read html)
  rw [read_nest hclosed, core_wrapped, ← setIds_outline hfits, setIds_core, Outline.plain_read]

/-! ## Again and again -/

/-- The tags of the headings of the first two levels. -/
def headings (markup : Markup) : List Text :=
  (markup.tags.filter fun tag => isHeading 1 tag || isHeading 2 tag).map Tag.inside

/-- Leaving `id`s out of a heading leaves plain attributes that are no `id`. -/
def Tame (tag : Tag) : Prop :=
  ∀ level, IsLevel level → isHeading level tag = true →
    ∃ form : Attributes, form.Plain ∧ form.NoId ∧ dropIds (attributesOf level tag) = form.text

/-- A heading has one `id`, which stands in front of plain attributes that are no `id`. -/
def HasOneId (level : Int) (tag : Tag) : Prop :=
  ∃ slug : Text, ∃ form : Attributes, '"' ∉ slug ∧ form.Plain ∧ form.NoId ∧
    tag.inside = headingName level ++ (idText slug ++ form.text)

theorem tame_of_plain {markup : Markup} (h : PlainHeadings markup) :
    ∀ tag ∈ markup.tags, Tame tag := by
  intro tag htag level hlevel hheading
  obtain ⟨form, hplain, htext⟩ := h level hlevel tag htag hheading
  exact ⟨form.withoutIds, hplain.withoutIds, form.noId_withoutIds,
    by rw [htext, dropIds_text hplain]⟩

theorem Tame.settled (h : Tame tag) : Settled tag := by
  intro level hlevel hheading
  obtain ⟨form, hplain, hnoId, htext⟩ := h level hlevel hheading
  rw [htext, dropIds_of_noId hplain hnoId]

theorem Tame.hasOneId (h : Tame heading) (hlevel : IsLevel level)
    (hheading : isHeading level heading = true) (hslug : '"' ∉ slug) :
    HasOneId level (addressed level slug heading) := by
  obtain ⟨form, hplain, hnoId, htext⟩ := h level hlevel hheading
  refine ⟨slug, form, hslug, hplain, hnoId, ?_⟩
  unfold addressed
  rw [htext]

theorem level_unique {other : Int} (hlevel : IsLevel level) (hother : IsLevel other)
    (h : isHeading level tag = true) (hotherHeading : isHeading other tag = true) :
    other = level := by
  rcases hlevel with rfl | rfl
  · rcases hother with rfl | rfl
    · rfl
    · rw [not_isHeading_one_of_two hotherHeading] at h
      cases h
  · rcases hother with rfl | rfl
    · rw [not_isHeading_one_of_two h] at hotherHeading
      cases hotherHeading
    · rfl

theorem Tame.addressed (h : Tame heading) (hlevel : IsLevel level)
    (hheading : isHeading level heading = true) (hslug : '"' ∉ slug) :
    Tame (addressed level slug heading) := by
  intro other hother hotherHeading
  obtain rfl := level_unique hlevel hother (isHeading_addressed level slug heading) hotherHeading
  obtain ⟨form, hplain, hnoId, htext⟩ := h other hlevel hheading
  refine ⟨form, hplain, hnoId, ?_⟩
  rw [attributesOf_addressed, dropIds_idText hslug, htext, dropIds_of_noId hplain hnoId]

theorem Tame.withId (h : Tame tag) (place : Place) (rest : List Tag) :
    Tame (withId place tag rest) := by
  unfold Page.withId
  split
  · next level hlevel =>
    obtain ⟨hlevel, hheading⟩ := isHeading_of_level? hlevel
    exact h.addressed hlevel hheading (notMem_slugOf (by decide) (by decide) _)
  · exact h

theorem tame_setIds (place : Place) (h : ∀ tag ∈ tags, Tame tag) :
    ∀ tag ∈ setIds place tags, Tame tag := by
  induction tags generalizing place with
  | nil => nofun
  | cons tag rest ih =>
    obtain ⟨htag, hrest⟩ := List.forall_mem_cons.mp h
    exact List.forall_mem_cons.mpr ⟨htag.withId place rest, ih _ hrest⟩

/-- A tag without text is no heading. -/
theorem tame_of_core (h : ∀ tag ∈ core tags, Tame tag) : ∀ tag ∈ tags, Tame tag := by
  intro tag htag
  cases hsilent : isSilent tag with
  | false => exact h tag (List.mem_filter.mpr ⟨htag, by simp [hsilent]⟩)
  | true =>
    have hkind : kindOf tag = .other := (of_decide_eq_true hsilent).1
    intro level hlevel hheading
    rcases hlevel with rfl | rfl
    · rw [kindOf_eq_chapter_iff.mpr hheading] at hkind
      cases hkind
    · rw [kindOf_eq_part_iff.mpr hheading] at hkind
      cases hkind

/-- What sections keep of a text. -/
structure Steady (html : Text) : Prop where
  closes : ClosesTags html
  tame : ∀ tag ∈ (Markup.read html).tags, Tame tag

theorem Steady.nest {html : Text} (h : Steady html) : Steady (nest 1 html) := by
  refine ⟨closesTags_nest h.closes, tame_of_core ?_⟩
  rw [core_read_nest h.closes]
  exact tame_setIds .outside fun tag htag => h.tame tag (List.mem_of_mem_filter htag)

theorem Steady.iterate {html : Text} (h : Steady html) (n : Nat) :
    Steady ((Page.nest 1)^[n] html) := by
  induction n with
  | zero => exact h
  | succ n ih =>
    rw [Function.iterate_succ_apply']
    exact ih.nest

/-- The walk sees the same after every time. -/
theorem core_read_iterate {html : Text} (h : Steady html) (n : Nat) :
    core (Markup.read ((nest 1)^[n + 1] html)).tags =
      setIds .outside (core (Markup.read html).tags) := by
  induction n with
  | zero => exact core_read_nest h.closes
  | succ n ih =>
    have hsettled : ∀ tag ∈ core (Markup.read html).tags, Settled tag := fun tag htag =>
      (h.tame tag (List.mem_of_mem_filter htag)).settled
    rw [Function.iterate_succ_apply', core_read_nest (h.iterate (n + 1)).closes, ih,
      setIds_setIds .outside hsettled]

theorem headings_core (front other : Text) (tags : List Tag) :
    headings ⟨front, core tags⟩ = headings ⟨other, tags⟩ := by
  have hheading : ∀ tag : Tag, ((isHeading 1 tag || isHeading 2 tag) && !isSilent tag) =
      (isHeading 1 tag || isHeading 2 tag) := by
    intro tag
    cases hsilent : isSilent tag with
    | false => simp
    | true =>
      have hkind : kindOf tag = .other := (of_decide_eq_true hsilent).1
      have hone : ¬ isHeading 1 tag = true := by
        rw [← kindOf_eq_chapter_iff, hkind]
        decide
      have htwo : ¬ isHeading 2 tag = true := by
        rw [← kindOf_eq_part_iff, hkind]
        decide
      simp [hone, htwo]
  unfold headings core
  dsimp only
  rw [List.filter_filter]
  simp only [hheading]

/-- However often sections are put on, the heading tags are those of the first time, and each time
    the heading of each section has one `id`. -/
theorem sections_keep_headings {html : Text} (hclosed : ClosesTags html)
    (hplain : PlainHeadings (Markup.read html)) (n : Nat) :
    headings (Markup.read ((nest 1)^[n + 1] html)) = headings (Markup.read (nest 1 html)) ∧
    ∃ outline : Outline, outline.Fits ∧ outline.plain.write = (nest 1)^[n] html ∧
      (nest 1)^[n + 1] html = outline.wrapped.write ∧
      ∀ chapter ∈ outline.chapters, HasOneId 1 (addressed 1 chapter.slug chapter.heading) ∧
        ∀ part ∈ chapter.parts, HasOneId 2 (addressed 2 part.slug part.heading) := by
  have hsteady : Steady html := ⟨hclosed, tame_of_plain hplain⟩
  have hcore : core (Markup.read ((nest 1)^[n + 1] html)).tags =
      core (Markup.read (nest 1 html)).tags := by
    rw [core_read_iterate hsteady n, core_read_nest hclosed]
  have hbefore : Steady ((nest 1)^[n] html) := hsteady.iterate n
  refine ⟨?headings, Outline.read (Markup.read ((nest 1)^[n] html)), ?_⟩
  case headings =>
    rw [← headings_core [], hcore, headings_core]
  have hfits : (Outline.read (Markup.read ((nest 1)^[n] html))).Fits :=
    Outline.fits_read (Markup.wellFormed_read _)
  have htext : (Outline.read (Markup.read ((nest 1)^[n] html))).plain.write =
      (nest 1)^[n] html := by
    rw [Outline.plain_read, Markup.write_read hbefore.closes]
  refine ⟨hfits, htext, ?_, fun chapter hchapter => ?_⟩
  · rw [Function.iterate_succ_apply', nest_eq_write hbefore.closes]
  have hchapterFits := hfits.chapters chapter hchapter
  have htame : ∀ tag ∈ chapter.tags, Tame tag := by
    intro tag htag
    have hmem := Outline.mem_tags hchapter htag
    rw [Outline.plain_read] at hmem
    exact hbefore.tame tag hmem
  have hslug : ∀ text, '"' ∉ anchor text := fun text =>
    notMem_slugOf (by decide) (by decide) (leadRun? text)
  refine ⟨(htame _ List.mem_cons_self).hasOneId (Or.inl rfl) hchapterFits.heading (hslug _),
    fun part hpart => ?_⟩
  have hpartMem : part.heading ∈ chapter.tags := chapter.mem_tags hpart List.mem_cons_self
  exact (htame _ hpartMem).hasOneId (Or.inr rfl) (hchapterFits.parts part hpart).heading (hslug _)

theorem sections_keep_headings_mixed :
    (ClosesTags mixedPage.write ∧ PlainHeadings (Markup.read mixedPage.write)) ∧
    headings (Markup.read ((nest 1)^[2] mixedPage.write)) =
      headings (Markup.read (nest 1 mixedPage.write)) := by
  have hwell : mixedPage.WellFormed := by decide
  have hplain : PlainHeadings (Markup.read mixedPage.write) := by
    rw [Markup.read_write hwell]
    exact plainHeadings_mixedPage
  exact ⟨⟨hwell.closesTags, hplain⟩, (sections_keep_headings hwell.closesTags hplain 1).1⟩

end Taskbook.Page
