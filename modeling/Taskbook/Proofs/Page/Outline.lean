/-
  What sections do to a text. Its tags are read as an outline: chapters, which start at a heading of
  the first level, with parts, which start at a heading of the second level behind the end of their
  chapter's heading. `nest` puts each chapter and each part between two tags, sets the `id` of its
  heading, and keeps the rest (`nest_outline`).
-/
import Taskbook.Proofs.Page.Anchor
import Taskbook.Proofs.Page.Attribute
import Taskbook.Proofs.Text.Cut

namespace Taskbook.Page

open Html Text

/-! ## Headings -/

/-- The name of the heading tags of a level. -/
def headingName (level : Int) : Text := 'h' :: Text.ofInt level

/-- Whether a tag opens a heading of a level. A longer name that starts like that of a heading is
    taken for one. -/
def isHeading (level : Int) (tag : Tag) : Bool := tag.inside.startsWith (headingName level)

/-- What stands behind the name in the tag of a heading. -/
def attributesOf (level : Int) (heading : Tag) : Text :=
  heading.inside.drop (headingName level).length

/-- A heading with its `id` set. -/
def addressed (level : Int) (slug : Text) (heading : Tag) : Tag :=
  { heading with
    inside := headingName level ++ (idText slug ++ dropIds (attributesOf level heading)) }

/-- A heading and tags behind it, from the end of the heading's name on. -/
def fragment (level : Int) (heading : Tag) (tags : List Tag) : Text :=
  attributesOf level heading ++ '>' :: (heading.after ++ writeTags tags)

theorem inside_eq_of_isHeading {level : Int} {heading : Tag} (h : isHeading level heading = true) :
    heading.inside = headingName level ++ attributesOf level heading := by
  obtain ⟨rest, hrest⟩ := List.isPrefixOf_iff_prefix.mp h
  unfold attributesOf
  rw [← hrest, List.drop_left]

theorem headingName_one : headingName 1 = ['h', '1'] := by decide

theorem headingName_two : headingName 2 = ['h', '2'] := by decide

theorem not_isHeading_one_of_two {tag : Tag} (h : isHeading 2 tag = true) :
    isHeading 1 tag = false := by
  have hinside := inside_eq_of_isHeading h
  unfold isHeading
  rw [hinside, headingName_one, headingName_two]
  rfl

theorem writeTags_cons_of_isHeading {level : Int} {heading : Tag}
    (h : isHeading level heading = true) (tags : List Tag) :
    writeTags (heading :: tags) = '<' :: headingName level ++ fragment level heading tags := by
  unfold fragment
  rw [writeTags_cons, Tag.write_append, inside_eq_of_isHeading h]
  simp

/-! ## Outlines -/

/-- A heading of the second level, with the tags up to the next heading. -/
structure Part where
  heading : Tag
  body : List Tag

/-- A heading of the first level, with the tags up to the next such heading: those up to the tag
    that closes the heading, that tag, those up to the first part, and the parts. -/
structure Chapter where
  heading : Tag
  title : List Tag
  closing : Option Tag
  lead : List Tag
  parts : List Part

/-- A text, with its tags. -/
structure Outline where
  front : Text
  before : List Tag
  chapters : List Chapter

def Part.tags (part : Part) : List Tag := part.heading :: part.body

namespace Chapter

/-- The tags behind the heading. -/
def body (chapter : Chapter) : List Tag :=
  chapter.title ++ chapter.closing.toList ++ chapter.lead ++ chapter.parts.flatMap Part.tags

def tags (chapter : Chapter) : List Tag := chapter.heading :: chapter.body

end Chapter

/-- The text of an outline, as it was. -/
def Outline.plain (outline : Outline) : Markup :=
  ⟨outline.front, outline.before ++ outline.chapters.flatMap Chapter.tags⟩

theorem Chapter.mem_tags {chapter : Chapter} {part : Part} (h : part ∈ chapter.parts) {tag : Tag}
    (htag : tag ∈ part.tags) : tag ∈ chapter.tags :=
  List.mem_cons_of_mem _ (List.mem_append_right _ (List.mem_flatMap.mpr ⟨part, h, htag⟩))

theorem Outline.mem_tags {outline : Outline} {chapter : Chapter} (h : chapter ∈ outline.chapters)
    {tag : Tag} (htag : tag ∈ chapter.tags) : tag ∈ outline.plain.tags :=
  List.mem_append_right _ (List.mem_flatMap.mpr ⟨chapter, h, htag⟩)

/-- The tag that opens a section. -/
def opening (level : Int) : Tag := ⟨"div class=\"section" ++ Text.ofInt level ++ "\"", []⟩

/-- The tag that ends a section. -/
def ending : Tag := ⟨"/div", []⟩

/-- A heading and tags behind it, put into a section. -/
def sectionTags (level : Int) (slug : Text) (heading : Tag) (tags : List Tag) : List Tag :=
  opening level :: addressed level slug heading :: (tags ++ [ending])

/-- The anchor of a part. -/
def Part.slug (part : Part) : Text := anchor (fragment 2 part.heading part.body)

def Part.wrapped (part : Part) : List Tag := sectionTags 2 part.slug part.heading part.body

namespace Chapter

/-- The anchor of a chapter. -/
def slug (chapter : Chapter) : Text := anchor (fragment 1 chapter.heading chapter.body)

def wrapped (chapter : Chapter) : List Tag :=
  sectionTags 1 chapter.slug chapter.heading
    (chapter.title ++ chapter.closing.toList ++ chapter.lead ++
      chapter.parts.flatMap Part.wrapped)

end Chapter

/-- The text of an outline with its sections. -/
def Outline.wrapped (outline : Outline) : Markup :=
  ⟨outline.front, outline.before ++ outline.chapters.flatMap Chapter.wrapped⟩

/-- What is inside the tag that closes the heading of a chapter. -/
def titleEnd : Text := '/' :: headingName 1

/-- A part starts at a heading and goes up to the next. -/
structure Part.Fits (part : Part) : Prop where
  heading : isHeading 2 part.heading = true
  body : ∀ tag ∈ part.body, isHeading 1 tag = false ∧ isHeading 2 tag = false

theorem Part.Fits.notChapter {part : Part} (h : part.Fits) :
    ∀ tag ∈ part.tags, isHeading 1 tag = false :=
  List.forall_mem_cons.mpr ⟨not_isHeading_one_of_two h.heading,
    fun tag htag => (h.body tag htag).1⟩

/-- A chapter starts at a heading and goes up to the next. Its parts start with the first heading of
    the second level behind the first tag that closes the chapter's own. -/
structure Chapter.Fits (chapter : Chapter) : Prop where
  heading : isHeading 1 chapter.heading = true
  title : ∀ tag ∈ chapter.title, isHeading 1 tag = false ∧ tag.inside ≠ titleEnd
  closing : ∀ tag ∈ chapter.closing, tag.inside = titleEnd
  lead : ∀ tag ∈ chapter.lead, isHeading 1 tag = false ∧ isHeading 2 tag = false
  parts : ∀ part ∈ chapter.parts, part.Fits
  unclosed : chapter.closing = none → chapter.lead = [] ∧ chapter.parts = []

/-- The chapters start with the first heading of the first level. -/
structure Outline.Fits (outline : Outline) : Prop where
  wellFormed : outline.plain.WellFormed
  before : ∀ tag ∈ outline.before, isHeading 1 tag = false
  chapters : ∀ chapter ∈ outline.chapters, chapter.Fits

/-! ## Cutting at tags -/

variable {level : Int} {s : Text} {tags : List Tag}

/-- A separator that no tag starts with is not found. -/
theorem cut?_writeTags_eq_none {more : Text} (hs : '<' ∉ s) (htags : ∀ tag ∈ tags, tag.WellFormed)
    (hdrop : ∀ tag ∈ tags, ∀ rest, dropPrefix? more (tag.inside ++ '>' :: rest) = none) :
    cut? ('<' :: more) (s ++ writeTags tags) = none := by
  induction tags generalizing s with
  | nil => simpa using cut?_eq_none hs
  | cons tag tags ih =>
    obtain ⟨htag, htags⟩ := List.forall_mem_cons.mp htags
    obtain ⟨hfirst, hdrop⟩ := List.forall_mem_cons.mp hdrop
    have hopening : dropPrefix? ('<' :: more)
        ('<' :: (tag.inside ++ '>' :: (tag.after ++ writeTags tags))) = none := by
      rw [dropPrefix?, if_pos rfl, hfirst]
    have hinside : '<' ∉ tag.inside ++ '>' :: tag.after := by simp [htag.noOpening, htag.after]
    have hrest := ih hinside htags hdrop
    rw [List.append_assoc, List.cons_append] at hrest
    rw [writeTags_cons, Tag.write_append, cut?_append hs, cut?_cons_of_none hopening, hrest]
    rfl

/-- The levels that have sections. -/
def IsLevel (level : Int) : Prop := level = 1 ∨ level = 2

theorem IsLevel.notMem_headingName (h : IsLevel level) :
    '>' ∉ headingName level ∧ '<' ∉ headingName level := by
  rcases h with rfl | rfl
  · decide
  · decide

theorem cut?_heading_eq_none (hlevel : IsLevel level) (hs : '<' ∉ s)
    (htags : ∀ tag ∈ tags, tag.WellFormed) (hnot : ∀ tag ∈ tags, isHeading level tag = false) :
    cut? ('<' :: headingName level) (s ++ writeTags tags) = none := by
  refine cut?_writeTags_eq_none hs htags fun tag htag rest => ?_
  have hfalse : tag.inside.startsWith (headingName level) = false := hnot tag htag
  rw [dropPrefix?_append_cons hlevel.notMem_headingName.1, hfalse]
  rfl

theorem cut?_titleEnd_eq_none (hs : '<' ∉ s) (htags : ∀ tag ∈ tags, tag.WellFormed)
    (hnot : ∀ tag ∈ tags, tag.inside ≠ titleEnd) :
    cut? ('<' :: (titleEnd ++ ['>'])) (s ++ writeTags tags) = none := by
  refine cut?_writeTags_eq_none hs htags fun tag htag rest => ?_
  rw [dropPrefix?_concat (by decide) (htags tag htag).noClosing, if_neg (hnot tag htag)]

/-! ## Sections of one level -/

theorem notMem_attributesOf {heading : Tag} (h : heading.WellFormed) :
    '>' ∉ attributesOf level heading ∧ '<' ∉ attributesOf level heading :=
  ⟨fun hmem => h.noClosing (List.mem_of_mem_drop hmem),
    fun hmem => h.noOpening (List.mem_of_mem_drop hmem)⟩

theorem IsLevel.nest_eq (hlevel : IsLevel level) {first : Text} {pieces : List Text}
    (h : splitOn ('<' :: headingName level) s = first :: pieces) :
    nest level s = first ++ pieces.flatMap (wrap level (nest (level + 1))) := by
  have hdeep : ¬ maxLevel < level := by
    rcases hlevel with rfl | rfl
    · decide
    · decide
  have hname : ("<h" : Text) ++ Text.ofInt level = '<' :: headingName level := rfl
  rw [nest, if_neg hdeep, hname, h]

/-- The text is cut before the headings of the level, and each piece is put into a section. -/
theorem nest_sections (hlevel : IsLevel level) {α : Type} {items : List α} {heading : α → Tag}
    {body : α → List Tag} (hs : '<' ∉ s)
    (htags : ∀ tag ∈ tags ++ items.flatMap (fun item => heading item :: body item), tag.WellFormed)
    (hbefore : ∀ tag ∈ tags, isHeading level tag = false)
    (hheading : ∀ item ∈ items, isHeading level (heading item) = true)
    (hbody : ∀ item ∈ items, ∀ tag ∈ body item, isHeading level tag = false) :
    nest level (s ++ writeTags (tags ++ items.flatMap fun item => heading item :: body item)) =
      s ++ writeTags tags ++ items.flatMap fun item =>
        wrap level (nest (level + 1)) (fragment level (heading item) (body item)) := by
  have hfront : cut? ('<' :: headingName level) (s ++ writeTags tags) = none :=
    cut?_heading_eq_none hlevel hs (fun tag htag => htags tag (List.mem_append_left _ htag)) hbefore
  have hpieces : ∀ piece ∈ items.map (fun item => fragment level (heading item) (body item)),
      cut? ('<' :: headingName level) piece = none := by
    intro piece hpiece
    obtain ⟨item, hitem, rfl⟩ := List.mem_map.mp hpiece
    have hwell : ∀ tag ∈ heading item :: body item, tag.WellFormed := fun tag htag =>
      htags tag (List.mem_append_right _ (List.mem_flatMap.mpr ⟨item, hitem, htag⟩))
    obtain ⟨hfirst, hrest⟩ := List.forall_mem_cons.mp hwell
    have hinside : '<' ∉ attributesOf level (heading item) ++ '>' :: (heading item).after := by
      simp [(notMem_attributesOf hfirst).2, hfirst.after]
    have hnone := cut?_heading_eq_none hlevel hinside hrest (hbody item hitem)
    rwa [List.append_assoc, List.cons_append] at hnone
  have htext : writeTags (items.flatMap fun item => heading item :: body item) =
      (items.map fun item => fragment level (heading item) (body item)).flatMap
        ('<' :: headingName level ++ ·) := by
    clear htags hbody hpieces
    induction items with
    | nil => rfl
    | cons item items ih =>
      obtain ⟨hfirst, hrest⟩ := List.forall_mem_cons.mp hheading
      rw [List.flatMap_cons, writeTags_append, writeTags_cons_of_isHeading hfirst, ih hrest]
      rfl
  have hsplit := splitOn_pieces hlevel.notMem_headingName.2 hfront hpieces
  rw [writeTags_append, htext, ← List.append_assoc, hlevel.nest_eq hsplit, List.flatMap_map]

/-- What becomes of the text behind the tag of a heading. -/
def nestBehind (level : Int) (inner : Text → Text) (after : Text) : Text :=
  if level < maxLevel then
    match cut? ("</h" ++ Text.ofInt level ++ ">") after with
    | some (title, rest) => title ++ ("</h" ++ Text.ofInt level ++ ">") ++ inner rest
    | none => after
  else after

/-- A section is one container. Its heading gets an `id` in front, and loses every other up to the
    first `>`. -/
theorem wrap_eq (inner : Text → Text) {attributes : Text} (h : '>' ∉ attributes) (after : Text) :
    wrap level inner (attributes ++ '>' :: after) =
      (opening level).write ++ ('<' :: headingName level ++
        (idText (anchor (attributes ++ '>' :: after)) ++ (dropIds attributes ++
          '>' :: (nestBehind level inner after ++ ending.write)))) := by
  have hcut : cut? ">" (attributes ++ '>' :: after) = some (attributes, after) := cut?_first h _
  have hwrap : wrap level inner (attributes ++ '>' :: after) =
      "<div class=\"section" ++ Text.ofInt level ++ "\"><h" ++ Text.ofInt level ++ " id=\"" ++
        anchor (attributes ++ '>' :: after) ++ "\"" ++ dropIds attributes ++
        ('>' :: nestBehind level inner after) ++ "</div>" := by
    unfold wrap
    rw [hcut]
    rfl
  have hdiv : ("<div class=\"section" : Text) = '<' :: ("div class=\"section" : Text) := rfl
  have hname : ("\"><h" : Text) = ("\"" : Text) ++ ('>' :: '<' :: 'h' :: []) := rfl
  have hend : ("</div>" : Text) = ending.write := rfl
  rw [hwrap, hdiv, hname, hend]
  unfold opening idText headingName Tag.write
  simp only [List.append_assoc, List.cons_append, List.nil_append]

theorem writeTags_sectionTags (slug : Text) (heading : Tag) (tags : List Tag) :
    writeTags (sectionTags level slug heading tags) =
      '<' :: ((opening level).inside ++ '>' :: '<' :: ((addressed level slug heading).inside ++
        '>' :: (heading.after ++ writeTags tags ++ ending.write))) := by
  have hopening : (opening level).after = [] := rfl
  have hheading : (addressed level slug heading).after = heading.after := rfl
  have hending : writeTags [ending] = ending.write := List.append_nil _
  rw [sectionTags, writeTags_cons, writeTags_cons, writeTags_append, Tag.write_append,
    Tag.write_append, hopening, hheading, hending, List.nil_append, List.append_assoc]

theorem wrap_fragment {heading : Tag} (h : heading.WellFormed) (inner : Text → Text)
    {more : List Tag}
    (hmore : nestBehind level inner (heading.after ++ writeTags tags) =
      heading.after ++ writeTags more) :
    wrap level inner (fragment level heading tags) =
      writeTags (sectionTags level (anchor (fragment level heading tags)) heading more) := by
  have hclosing : '>' ∉ attributesOf level heading := (notMem_attributesOf h).1
  unfold fragment
  rw [wrap_eq inner hclosing, hmore, writeTags_sectionTags]
  unfold addressed opening
  simp [Tag.write]

/-! ## An outline with its sections -/

theorem nestBehind_two (inner : Text → Text) (after : Text) : nestBehind 2 inner after = after :=
  if_neg (by decide)

theorem nestBehind_one_of_none {after : Text} (inner : Text → Text)
    (h : cut? ('<' :: (titleEnd ++ ['>'])) after = none) : nestBehind 1 inner after = after := by
  have hmark : ("</h" : Text) ++ Text.ofInt 1 ++ ">" = '<' :: (titleEnd ++ ['>']) := by decide
  have hlevel : (1 : Int) < maxLevel := by decide
  unfold nestBehind
  rw [if_pos hlevel, hmark, h]

theorem nestBehind_one_of_some {after title rest : Text} (inner : Text → Text)
    (h : cut? ('<' :: (titleEnd ++ ['>'])) after = some (title, rest)) :
    nestBehind 1 inner after = title ++ '<' :: (titleEnd ++ ['>']) ++ inner rest := by
  have hmark : ("</h" : Text) ++ Text.ofInt 1 ++ ">" = '<' :: (titleEnd ++ ['>']) := by decide
  have hlevel : (1 : Int) < maxLevel := by decide
  unfold nestBehind
  rw [if_pos hlevel, hmark, h]

theorem Part.wrap_eq {part : Part} (htags : ∀ tag ∈ part.tags, tag.WellFormed)
    (inner : Text → Text) :
    wrap 2 inner (fragment 2 part.heading part.body) = writeTags part.wrapped := by
  have hheading : part.heading.WellFormed := htags part.heading List.mem_cons_self
  exact wrap_fragment hheading inner (nestBehind_two inner _)

/-- Behind the heading of a chapter each part is put into a section. -/
theorem nest_parts {parts : List Part} (hs : '<' ∉ s)
    (htags : ∀ tag ∈ tags ++ parts.flatMap Part.tags, tag.WellFormed)
    (hlead : ∀ tag ∈ tags, isHeading 2 tag = false) (hparts : ∀ part ∈ parts, part.Fits) :
    nest 2 (s ++ writeTags (tags ++ parts.flatMap Part.tags)) =
      s ++ writeTags (tags ++ parts.flatMap Part.wrapped) := by
  have hlevel : IsLevel 2 := Or.inr rfl
  have hheading : ∀ part ∈ parts, isHeading 2 part.heading = true :=
    fun part hpart => (hparts part hpart).heading
  have hbody : ∀ part ∈ parts, ∀ tag ∈ part.body, isHeading 2 tag = false :=
    fun part hpart tag htag => ((hparts part hpart).body tag htag).2
  have hnest := nest_sections hlevel hs htags hlead hheading hbody
  have hwrapped : ∀ part ∈ parts,
      wrap 2 (nest (2 + 1)) (fragment 2 part.heading part.body) = writeTags part.wrapped := by
    intro part hpart
    have hwell : ∀ tag ∈ part.tags, tag.WellFormed := fun tag htag =>
      htags tag (List.mem_append_right _ (List.mem_flatMap.mpr ⟨part, hpart, htag⟩))
    exact part.wrap_eq hwell _
  unfold Part.tags
  rw [hnest, List.flatMap_congr hwrapped, writeTags_append, writeTags_flatMap,
    List.append_assoc]

/-- No chapter starts inside a chapter. -/
theorem Chapter.Fits.body {chapter : Chapter} (h : chapter.Fits) :
    ∀ tag ∈ chapter.body, isHeading 1 tag = false := by
  intro tag htag
  unfold Chapter.body at htag
  simp only [List.mem_append, Option.mem_toList, List.mem_flatMap] at htag
  rcases htag with ((htitle | hclosing) | hlead) | ⟨part, hpart, htag⟩
  · exact (h.title tag htitle).1
  · have hinside : tag.inside = titleEnd := h.closing tag hclosing
    unfold isHeading
    rw [hinside]
    decide
  · exact (h.lead tag hlead).1
  · exact (h.parts part hpart).notChapter tag htag

/-- The parts of a chapter are found behind the tag that closes the chapter's heading. -/
theorem Chapter.Fits.nestBehind_body {chapter : Chapter} (h : chapter.Fits)
    (htags : ∀ tag ∈ chapter.tags, tag.WellFormed) :
    nestBehind 1 (nest (1 + 1)) (chapter.heading.after ++ writeTags chapter.body) =
      chapter.heading.after ++ writeTags (chapter.title ++ chapter.closing.toList ++ chapter.lead ++
        chapter.parts.flatMap Part.wrapped) := by
  obtain ⟨heading, title, closing, lead, parts⟩ := chapter
  obtain ⟨hheading, htitle, hclosing, hlead, hparts, hunclosed⟩ := h
  dsimp only at hheading htitle hclosing hlead hparts hunclosed
  simp only [Chapter.tags, Chapter.body, List.forall_mem_cons, List.forall_mem_append] at htags ⊢
  obtain ⟨hwell, ⟨⟨htitleTags, hclosingTags⟩, hleadTags⟩, hpartTags⟩ := htags
  have hnone : cut? ('<' :: (titleEnd ++ ['>'])) (heading.after ++ writeTags title) = none :=
    cut?_titleEnd_eq_none hwell.after htitleTags fun tag htag => (htitle tag htag).2
  cases closing with
  | none =>
    obtain ⟨rfl, rfl⟩ := hunclosed rfl
    simpa using nestBehind_one_of_none (nest 2) hnone
  | some close =>
    have hclose : close.WellFormed := hclosingTags close (by simp)
    have hinside : close.inside = titleEnd := hclosing close rfl
    have hcut := cut?_first_of_none (by decide) hnone
      (close.after ++ writeTags (lead ++ parts.flatMap Part.tags))
    have hrest : nest (1 + 1) (close.after ++ writeTags (lead ++ parts.flatMap Part.tags)) =
        close.after ++ writeTags (lead ++ parts.flatMap Part.wrapped) :=
      nest_parts hclose.after (List.forall_mem_append.mpr ⟨hleadTags, hpartTags⟩)
        (fun tag htag => (hlead tag htag).2) hparts
    have hwrite : ∀ more : List Tag, heading.after ++
        writeTags (title ++ (some close).toList ++ lead ++ more) =
          heading.after ++ writeTags title ++
            ('<' :: (titleEnd ++ ['>']) ++ (close.after ++ writeTags (lead ++ more))) := by
      intro more
      simp [writeTags_append, writeTags_cons, Tag.write, hinside]
    rw [hwrite, nestBehind_one_of_some _ hcut, hwrite, hrest]
    simp only [List.append_assoc]

/-- The sections of an outline are put around its chapters and parts, and nothing else changes. -/
theorem nest_outline {outline : Outline} (h : outline.Fits) :
    nest 1 outline.plain.write = outline.wrapped.write := by
  obtain ⟨⟨hfront, htags⟩, hbefore, hchapters⟩ := h
  have hlevel : IsLevel 1 := Or.inl rfl
  have hheading : ∀ chapter ∈ outline.chapters, isHeading 1 chapter.heading = true :=
    fun chapter hchapter => (hchapters chapter hchapter).heading
  have hbody : ∀ chapter ∈ outline.chapters, ∀ tag ∈ chapter.body, isHeading 1 tag = false :=
    fun chapter hchapter => (hchapters chapter hchapter).body
  have hnest := nest_sections (s := outline.front) hlevel hfront htags hbefore hheading hbody
  have hwrapped : ∀ chapter ∈ outline.chapters,
      wrap 1 (nest (1 + 1)) (fragment 1 chapter.heading chapter.body) =
        writeTags chapter.wrapped := by
    intro chapter hchapter
    have hwell : ∀ tag ∈ chapter.tags, tag.WellFormed := fun tag htag =>
      htags tag (outline.mem_tags hchapter htag)
    exact wrap_fragment (hwell chapter.heading List.mem_cons_self) _
      ((hchapters chapter hchapter).nestBehind_body hwell)
  have hplain : outline.plain.write = outline.front ++ writeTags (outline.before ++
      outline.chapters.flatMap fun chapter => chapter.heading :: chapter.body) := rfl
  have hfull : outline.wrapped.write = outline.front ++ writeTags (outline.before ++
      outline.chapters.flatMap Chapter.wrapped) := rfl
  rw [hplain, hfull, hnest, List.flatMap_congr hwrapped, writeTags_append, writeTags_flatMap,
    List.append_assoc]

end Taskbook.Page
