/-
  Each text in which every tag is closed has an outline (`Outline.plain_read`, `Outline.fits_read`),
  so `nest_outline` says of all such texts what sections do to them. In a heading with plain
  attributes the new `id` stands in front, and those attributes that are taken for an `id` are left
  out (`SetsId`): `sections_only_add_tags`. An attribute whose name is written with a dotless `i` is
  taken for one (`dotless_attribute_is_dropped`).
-/
import Taskbook.Proofs.Page.Outline

namespace Taskbook.Page

open Html Text

/-! ## Reading an outline -/

/-- Whether a tag is one of those in front of the end of a chapter's heading. -/
def inTitle (tag : Tag) : Bool := decide (tag.inside ≠ titleEnd)

/-- A chapter, from its heading and the tags up to the next chapter. -/
def Chapter.read (heading : Tag) (tags : List Tag) : Chapter :=
  let behind := tags.dropWhile inTitle
  let (lead, parts) := cutBefore (isHeading 2) behind.tail
  { heading := heading
    title := tags.takeWhile inTitle
    closing := behind.head?
    lead := lead
    parts := parts.map fun part => ⟨part.1, part.2⟩ }

/-- The outline of a text. -/
def Outline.read (markup : Markup) : Outline :=
  let (before, chapters) := cutBefore (isHeading 1) markup.tags
  { front := markup.front
    before := before
    chapters := chapters.map fun chapter => Chapter.read chapter.1 chapter.2 }

theorem Chapter.tags_read (heading : Tag) (tags : List Tag) :
    (Chapter.read heading tags).tags = heading :: tags := by
  have hjoin := cutBefore_join (p := isHeading 2) (tags.dropWhile inTitle).tail
  have hsplit : tags.takeWhile inTitle ++ ((tags.dropWhile inTitle).head?.toList ++
      (tags.dropWhile inTitle).tail) = tags := by
    conv_rhs => rw [← List.takeWhile_append_dropWhile (p := inTitle) (l := tags)]
    cases tags.dropWhile inTitle <;> rfl
  have hparts : ∀ groups : List (Tag × List Tag),
      (groups.map fun part => (⟨part.1, part.2⟩ : Part)).flatMap Part.tags =
        groups.flatMap fun group => group.1 :: group.2 := by
    intro groups
    rw [List.flatMap_map]
    rfl
  unfold Chapter.read Chapter.tags Chapter.body
  dsimp only
  rw [hparts, List.append_assoc, List.append_assoc, hjoin, hsplit]

theorem Outline.plain_read (markup : Markup) : (Outline.read markup).plain = markup := by
  have hjoin := cutBefore_join (p := isHeading 1) markup.tags
  unfold Outline.read Outline.plain
  dsimp only
  rw [List.flatMap_map]
  simp only [Chapter.tags_read]
  rw [hjoin]

theorem Chapter.fits_read {heading : Tag} (hheading : isHeading 1 heading = true) {tags : List Tag}
    (htags : ∀ tag ∈ tags, isHeading 1 tag = false) : (Chapter.read heading tags).Fits := by
  have hbehind : ∀ tag ∈ (tags.dropWhile inTitle).tail, isHeading 1 tag = false := fun tag htag =>
    htags tag ((List.dropWhile_suffix inTitle).subset (List.mem_of_mem_tail htag))
  refine ⟨hheading, fun tag htag => ?title, fun tag htag => ?closing, fun tag htag => ?lead,
    fun part hpart => ?parts, fun hnone => ?unclosed⟩
  case title =>
    have htitle : inTitle tag = true := List.mem_takeWhile_imp htag
    exact ⟨htags tag (List.takeWhile_subset _ htag), of_decide_eq_true htitle⟩
  case closing =>
    have hhead : (tags.dropWhile inTitle).head? = some tag := htag
    have hnot : inTitle tag = false := by
      have hdrop := List.head?_dropWhile_not inTitle tags
      rwa [hhead] at hdrop
    simpa [inTitle] using hnot
  case lead =>
    exact ⟨hbehind tag (mem_of_mem_cutBefore htag), eq_false_of_mem_cutBefore htag⟩
  case parts =>
    obtain ⟨group, hgroup, rfl⟩ := List.mem_map.mp hpart
    have hmem := mem_of_mem_group hgroup
    obtain ⟨hstart, hrest⟩ := of_mem_groups hgroup
    exact ⟨hstart, fun tag htag => ⟨hbehind tag (hmem tag (List.mem_cons_of_mem _ htag)),
      hrest tag htag⟩⟩
  case unclosed =>
    have hnil : tags.dropWhile inTitle = [] := List.head?_eq_none_iff.mp hnone
    unfold Chapter.read
    rw [hnil]
    exact ⟨rfl, rfl⟩

theorem Outline.fits_read {markup : Markup} (h : markup.WellFormed) :
    (Outline.read markup).Fits := by
  refine ⟨?wellFormed, fun tag htag => eq_false_of_mem_cutBefore htag,
    fun chapter hchapter => ?chapters⟩
  case wellFormed => rwa [Outline.plain_read]
  case chapters =>
    obtain ⟨group, hgroup, rfl⟩ := List.mem_map.mp hchapter
    obtain ⟨hstart, hrest⟩ := of_mem_groups hgroup
    exact Chapter.fits_read hstart hrest

/-! ## The text with its sections -/

variable {level : Int}

theorem wellFormed_opening (hlevel : IsLevel level) : (opening level).WellFormed := by
  have hbrackets : '<' ∉ (opening level).inside ∧ '>' ∉ (opening level).inside := by
    rcases hlevel with rfl | rfl
    · decide
    · decide
  exact ⟨hbrackets.1, hbrackets.2, List.not_mem_nil⟩

theorem wellFormed_ending : ending.WellFormed := ⟨by decide, by decide, List.not_mem_nil⟩

/-- The `id` of a section brings no angle bracket in. -/
theorem notMem_addressed {c : Char} (hc : c = '<' ∨ c = '>') (hlevel : IsLevel level)
    {heading : Tag} (hheading : c ∉ heading.inside) (text : Text) :
    c ∉ (addressed level (anchor text) heading).inside := by
  have hname : c ∉ headingName level := by
    rcases hc with rfl | rfl
    · exact hlevel.notMem_headingName.2
    · exact hlevel.notMem_headingName.1
  have hslug : c ∉ anchor text := by
    rcases hc with rfl | rfl
    · exact notMem_slugOf (by decide) (by decide) (leadRun? text)
    · exact notMem_slugOf (by decide) (by decide) (leadRun? text)
  have hquotes : c ∉ (" id=\"" : Text) ∧ c ∉ ("\"" : Text) := by
    rcases hc with rfl | rfl
    · decide
    · decide
  have hattributes : c ∉ dropIds (attributesOf level heading) := fun hmem =>
    hheading (List.mem_of_mem_drop (dropIds_subset _ hmem))
  unfold addressed idText
  simp only [List.mem_append, not_or]
  exact ⟨hname, ⟨⟨hquotes.1, hslug⟩, hquotes.2⟩, hattributes⟩

theorem wellFormed_sectionTags (hlevel : IsLevel level) {heading : Tag} {tags : List Tag}
    (h : ∀ tag ∈ heading :: tags, tag.WellFormed) (text : Text) :
    ∀ tag ∈ sectionTags level (anchor text) heading tags, tag.WellFormed := by
  obtain ⟨hheading, htags⟩ := List.forall_mem_cons.mp h
  have haddressed : (addressed level (anchor text) heading).WellFormed :=
    ⟨notMem_addressed (Or.inl rfl) hlevel hheading.noOpening text,
      notMem_addressed (Or.inr rfl) hlevel hheading.noClosing text, hheading.after⟩
  unfold sectionTags
  simp only [List.forall_mem_cons, List.forall_mem_append]
  exact ⟨wellFormed_opening hlevel, haddressed, htags, wellFormed_ending, nofun⟩

theorem Chapter.wellFormed_wrapped {chapter : Chapter} (h : ∀ tag ∈ chapter.tags, tag.WellFormed) :
    ∀ tag ∈ chapter.wrapped, tag.WellFormed := by
  have hparts : ∀ tag ∈ chapter.parts.flatMap Part.wrapped, tag.WellFormed := by
    intro tag htag
    obtain ⟨part, hpart, htag⟩ := List.mem_flatMap.mp htag
    have hpartTags : ∀ tag ∈ part.tags, tag.WellFormed := fun tag htag =>
      h tag (chapter.mem_tags hpart htag)
    exact wellFormed_sectionTags (Or.inr rfl) hpartTags _ tag htag
  refine wellFormed_sectionTags (Or.inl rfl) ?_ _
  unfold Chapter.tags Chapter.body at h
  simp only [List.forall_mem_cons, List.forall_mem_append] at h ⊢
  exact ⟨h.1, h.2.1, hparts⟩

theorem Outline.Fits.wellFormed_wrapped {outline : Outline} (h : outline.Fits) :
    outline.wrapped.WellFormed := by
  obtain ⟨⟨hfront, htags⟩, -, -⟩ := h
  obtain ⟨hbefore, -⟩ := List.forall_mem_append.mp htags
  refine ⟨hfront, List.forall_mem_append.mpr ⟨hbefore, fun tag htag => ?_⟩⟩
  obtain ⟨chapter, hchapter, htag⟩ := List.mem_flatMap.mp htag
  have hchapterTags : ∀ tag ∈ chapter.tags, tag.WellFormed := fun tag htag =>
    htags tag (outline.mem_tags hchapter htag)
  exact chapter.wellFormed_wrapped hchapterTags tag htag

theorem nest_eq_write {html : Text} (hclosed : ClosesTags html) :
    nest 1 html = (Outline.read (Markup.read html)).wrapped.write := by
  have hnest := nest_outline (Outline.fits_read (Markup.wellFormed_read html))
  rwa [Outline.plain_read, Markup.write_read hclosed] at hnest

theorem read_nest {html : Text} (hclosed : ClosesTags html) :
    Markup.read (nest 1 html) = (Outline.read (Markup.read html)).wrapped := by
  have hfits := Outline.fits_read (Markup.wellFormed_read html)
  rw [nest_eq_write hclosed, Markup.read_write hfits.wellFormed_wrapped]

/-- Sections leave no tag open. -/
theorem closesTags_nest {html : Text} (hclosed : ClosesTags html) : ClosesTags (nest 1 html) := by
  have hfits := Outline.fits_read (Markup.wellFormed_read html)
  rw [nest_eq_write hclosed]
  exact hfits.wellFormed_wrapped.closesTags

/-! ## Plain headings -/

/-- The tag of each heading has plain attributes. -/
def PlainHeadings (markup : Markup) : Prop :=
  ∀ level, IsLevel level → ∀ tag ∈ markup.tags, isHeading level tag = true →
    ∃ form : Attributes, form.Plain ∧ attributesOf level tag = form.text

/-- In a heading with plain attributes the `id` is set in front of the others, and those that are
    taken for an `id` are left out. -/
def SetsId (level : Int) (slug : Text) (heading : Tag) : Prop :=
  ∃ form : Attributes, form.Plain ∧ heading.inside = headingName level ++ form.text ∧
    addressed level slug heading =
      ⟨headingName level ++ (idText slug ++ form.withoutIds.text), heading.after⟩

theorem setsId_of_plain {heading : Tag} (hheading : isHeading level heading = true)
    (hform : ∃ form : Attributes, form.Plain ∧ attributesOf level heading = form.text)
    (slug : Text) : SetsId level slug heading := by
  obtain ⟨form, hplain, htext⟩ := hform
  have hinside := inside_eq_of_isHeading hheading
  rw [htext] at hinside
  refine ⟨form, hplain, hinside, ?_⟩
  unfold addressed
  rw [htext, dropIds_text hplain]

/-- Of a text in which every tag is closed, sections put two tags around each chapter and each part
    and set the `id` of its heading. All else stays as it is, in its order. -/
theorem sections_only_add_tags {html : Text} (hclosed : ClosesTags html)
    (hplain : PlainHeadings (Markup.read html)) :
    ∃ outline : Outline, outline.Fits ∧ outline.plain.write = html ∧
      nest 1 html = outline.wrapped.write ∧ Markup.read (nest 1 html) = outline.wrapped ∧
      ∀ chapter ∈ outline.chapters, SetsId 1 chapter.slug chapter.heading ∧
        ∀ part ∈ chapter.parts, SetsId 2 part.slug part.heading := by
  have hfits : (Outline.read (Markup.read html)).Fits :=
    Outline.fits_read (Markup.wellFormed_read html)
  have htext : (Outline.read (Markup.read html)).plain.write = html := by
    rw [Outline.plain_read, Markup.write_read hclosed]
  refine ⟨Outline.read (Markup.read html), hfits, htext, nest_eq_write hclosed, read_nest hclosed,
    fun chapter hchapter => ?_⟩
  have hchapterFits := hfits.chapters chapter hchapter
  have hmem : ∀ tag ∈ chapter.tags, tag ∈ (Markup.read html).tags := by
    intro tag htag
    rw [← Outline.plain_read (Markup.read html)]
    exact Outline.mem_tags hchapter htag
  have hforms : ∀ level, IsLevel level → ∀ tag ∈ chapter.tags, isHeading level tag = true →
      ∃ form : Attributes, form.Plain ∧ attributesOf level tag = form.text :=
    fun level hlevel tag htag => hplain level hlevel tag (hmem tag htag)
  refine ⟨setsId_of_plain hchapterFits.heading
    (hforms 1 (Or.inl rfl) _ List.mem_cons_self hchapterFits.heading) _, fun part hpart => ?_⟩
  have hpartFits := hchapterFits.parts part hpart
  have hpartMem : part.heading ∈ chapter.tags := chapter.mem_tags hpart List.mem_cons_self
  exact setsId_of_plain hpartFits.heading
    (hforms 2 (Or.inr rfl) _ hpartMem hpartFits.heading) _

/-- A heading of the second level in front of all chapters, which stays as it is, and a part with an
    `id` that is replaced. -/
def mixedPage : Markup :=
  ⟨[], [⟨"h2", "Early"⟩, ⟨"h1 class=\"c\"", "Top"⟩, ⟨"/h1", []⟩, ⟨"h2 id=\"old\"", "Part"⟩]⟩

theorem plainHeadings_mixedPage : PlainHeadings mixedPage := by
  intro level hlevel tag htag hheading
  simp only [mixedPage, List.mem_cons, List.not_mem_nil, or_false] at htag
  rcases hlevel with rfl | rfl
  · rcases htag with rfl | rfl | rfl | rfl
    · exact absurd hheading (by decide)
    · exact ⟨⟨[], [⟨" ", "class", "c"⟩], []⟩, by decide, by decide⟩
    · exact absurd hheading (by decide)
    · exact absurd hheading (by decide)
  · rcases htag with rfl | rfl | rfl | rfl
    · exact ⟨⟨[], [], []⟩, by decide, by decide⟩
    · exact absurd hheading (by decide)
    · exact absurd hheading (by decide)
    · exact ⟨⟨[], [⟨" ", "id", "old"⟩], []⟩, by decide, by decide⟩

theorem sections_only_add_tags_mixed :
    (ClosesTags mixedPage.write ∧ PlainHeadings (Markup.read mixedPage.write)) ∧
    ∃ outline : Outline, outline.Fits ∧ outline.plain.write = mixedPage.write ∧
      nest 1 mixedPage.write = outline.wrapped.write ∧
      Markup.read (nest 1 mixedPage.write) = outline.wrapped ∧
      ∀ chapter ∈ outline.chapters, SetsId 1 chapter.slug chapter.heading ∧
        ∀ part ∈ chapter.parts, SetsId 2 part.slug part.heading := by
  have hwell : mixedPage.WellFormed := by decide
  have hclosed : ClosesTags mixedPage.write := hwell.closesTags
  have hplain : PlainHeadings (Markup.read mixedPage.write) := by
    rw [Markup.read_write hwell]
    exact plainHeadings_mixedPage
  exact ⟨⟨hclosed, hplain⟩, sections_only_add_tags hclosed hplain⟩

/-- A heading with an attribute whose name is `id` but for the dot. -/
def dotlessPage : Markup := ⟨[], [⟨"h1 ıd=\"x\"", "T"⟩, ⟨"/h1", []⟩]⟩

/-- The attribute is no `id`, and is left out all the same. -/
theorem dotless_attribute_is_dropped :
    (ClosesTags dotlessPage.write ∧ PlainHeadings dotlessPage) ∧
      dotlessPage.write = "<h1 ıd=\"x\">T</h1>" ∧
      nest 1 dotlessPage.write = "<div class=\"section1\"><h1 id=\"t\">T</h1></div>" := by
  have hwell : dotlessPage.WellFormed := by decide
  have hnest := nest_outline (Outline.fits_read hwell)
  have hform : (⟨[], [⟨" ", "ıd", "x"⟩], []⟩ : Attributes).Plain := by decide
  have hplain : PlainHeadings dotlessPage := by
    intro level hlevel tag htag hheading
    simp only [dotlessPage, List.mem_cons, List.not_mem_nil, or_false] at htag
    rcases hlevel with rfl | rfl
    · rcases htag with rfl | rfl
      · exact ⟨_, hform, by decide⟩
      · exact absurd hheading (by decide)
    · rcases htag with rfl | rfl
      · exact absurd hheading (by decide)
      · exact absurd hheading (by decide)
  have hdrop : dropIds " ıd=\"x\"" = [] := dropIds_text hform
  have hslug : anchor " ıd=\"x\">T</h1>" = "t" := by decide
  have hheading : addressed 1 "t" ⟨"h1 ıd=\"x\"", "T"⟩ = ⟨"h1 id=\"t\"", "T"⟩ := by
    have hattributes : attributesOf 1 ⟨"h1 ıd=\"x\"", "T"⟩ = " ıd=\"x\"" := by decide
    unfold addressed
    rw [hattributes, hdrop]
    decide
  have hwrapped : (Outline.read dotlessPage).wrapped =
      ⟨[], sectionTags 1 (anchor " ıd=\"x\">T</h1>") ⟨"h1 ıd=\"x\"", "T"⟩ [⟨"/h1", []⟩]⟩ := rfl
  rw [Outline.plain_read, hwrapped, hslug] at hnest
  unfold sectionTags at hnest
  refine ⟨⟨hwell.closesTags, hplain⟩, by decide, ?_⟩
  rw [hnest, hheading]
  decide

end Taskbook.Page
