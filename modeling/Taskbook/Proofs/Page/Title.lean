/-
  Titles and sections. Two functions read the heading tags of a page: `hasHeading`, which decides
  whether the page gets its title as a heading, takes `h1` in either case and wants a blank or the
  end of the tag behind it, and `nest`, which puts headings into sections, takes each `<h1` in small
  letters. A page starts with its title exactly if the first finds no heading, and its own sections
  are those of the second (`nest_addHeading_of_not`). So a page has one section at least, and its
  title exactly if it has no section of its own, wherever the two agree (`wellTitled_iff`). They
  part on `<H1>`, which gets neither a section nor a title above it, and on `<h1/>`, which gets
  both.
-/
import Taskbook.Page.Render
import Taskbook.Proofs.Html.Skeleton
import Taskbook.Proofs.Markdown.RawHtml
import Taskbook.Proofs.Page.Outline

namespace Taskbook.Page

open Html Text

/-! ## Sections of the first level -/

/-- How a heading of the first level starts where it gets a section. -/
def headingMark : Text := ['<', 'h', '1']

/-- What stands in front of the sections. -/
def leadIn (html : Text) : Text := (splitOn headingMark html).headD []

/-- The sections of the first level. -/
def sections (html : Text) : List Text := (splitOn headingMark html).tail.map (wrap 1 (nest 2))

theorem nest_one (html : Text) : nest 1 html = leadIn html ++ (sections html).flatten := by
  have hdeep : ¬ maxLevel < 1 := by decide
  have hmark : ("<h" : Text) ++ Text.ofInt 1 = headingMark := by decide
  have hnext : (1 : Int) + 1 = 2 := by decide
  rw [nest, if_neg hdeep, hmark, hnext]
  unfold leadIn sections
  cases splitOn headingMark html with
  | nil => rfl
  | cons first pieces =>
    show first ++ pieces.flatMap (wrap 1 (nest 2)) =
      first ++ (pieces.map (wrap 1 (nest 2))).flatten
    rw [List.flatMap_def]

theorem headingMark_ne_nil : headingMark ≠ [] := by decide

theorem sections_eq_nil_iff (html : Text) : sections html = [] ↔ ¬ headingMark <:+: html := by
  rw [← cut?_eq_none_iff headingMark_ne_nil]
  unfold sections
  cases hcut : cut? headingMark html with
  | none =>
    rw [splitOn_of_none hcut]
    simp
  | some parts =>
    rw [splitOn_of_some headingMark_ne_nil hcut]
    simpa using splitOn_ne_nil headingMark parts.2

/-- Each section is one container, which starts with a heading that has an `id`. -/
theorem container_of_mem_sections {html item : Text} (h : item ∈ sections html) :
    ("<div class=\"section1\"><h1 id=\"" : Text) <+: item ∧ ("</div>" : Text) <:+ item := by
  obtain ⟨fragment, -, rfl⟩ := List.mem_map.mp h
  have hstart : ("<div class=\"section" : Text) ++ Text.ofInt 1 ++ "\"><h" ++ Text.ofInt 1 ++
      " id=\"" = "<div class=\"section1\"><h1 id=\"" := by decide
  refine ⟨?_, List.suffix_append _ _⟩
  unfold wrap
  dsimp only
  rw [hstart]
  simp only [List.append_assoc]
  exact List.prefix_append _ _

/-! ## Tags of headings -/

/-- A tag of a heading of the first level: the name in either case, and a blank or the end of the
    tag behind it. -/
def HoldsHeading (html : Text) : Prop :=
  ∃ before h d after, html = before ++ '<' :: h :: '1' :: d :: after ∧ (h = 'h' ∨ h = 'H') ∧
    (isBlank d = true ∨ d = '>')

/-- Each tag whose name starts with that of a heading of the first level, in either case, is such a
    heading's, in small letters. -/
def PlainHeadingTags (html : Text) : Prop :=
  ∀ before h after, html = before ++ '<' :: h :: '1' :: after → h = 'h' ∨ h = 'H' →
    h = 'h' ∧ ∃ d rest, after = d :: rest ∧ (isBlank d = true ∨ d = '>')

theorem hasHeading_iff (html : Text) : hasHeading html = true ↔ HoldsHeading html := by
  induction html with
  | nil => simp [hasHeading, HoldsHeading]
  | cons c rest ih =>
    unfold hasHeading
    rw [Bool.or_eq_true, ih]
    constructor
    · rintro (hhere | ⟨before, h, d, after, rfl, hname, hend⟩)
      · split at hhere
        · next h d after =>
          simp only [Bool.and_eq_true, Bool.or_eq_true, decide_eq_true_eq] at hhere
          exact ⟨[], h, d, after, rfl, hhere.1, hhere.2⟩
        · cases hhere
      · exact ⟨c :: before, h, d, after, rfl, hname, hend⟩
    · rintro ⟨before, h, d, after, htext, hname, hend⟩
      cases before with
      | nil =>
        obtain ⟨rfl, rfl⟩ := List.cons.inj htext
        left
        simp only [Bool.and_eq_true, Bool.or_eq_true, decide_eq_true_eq]
        exact ⟨hname, hend⟩
      | cons b before =>
        obtain ⟨rfl, rfl⟩ := List.cons.inj htext
        exact Or.inr ⟨before, h, d, after, rfl, hname, hend⟩

theorem PlainHeadingTags.holdsHeading_iff {html : Text} (hplain : PlainHeadingTags html) :
    HoldsHeading html ↔ headingMark <:+: html := by
  constructor
  · rintro ⟨before, h, d, after, htext, hname, -⟩
    obtain ⟨rfl, -⟩ := hplain before h (d :: after) htext hname
    exact ⟨before, d :: after, by rw [htext, List.append_assoc]; rfl⟩
  · rintro ⟨before, after, htext⟩
    have hmark : html = before ++ '<' :: 'h' :: '1' :: after := by
      rw [← htext, List.append_assoc]
      rfl
    obtain ⟨-, d, rest, rfl, hend⟩ := hplain before 'h' after hmark (Or.inl rfl)
    exact ⟨before, 'h', d, rest, hmark, Or.inl rfl, hend⟩

/-! ## Titles -/

/-- The title of a page as its heading. -/
def titleHeading (name : Text) : Text := "<h1>" ++ escape (PageName.title name) ++ "</h1>\n"

/-- What stands in the section of the title behind the name of its tag. -/
def titleFragment (name lead : Text) : Text :=
  ">" ++ escape (PageName.title name) ++ "</h1>\n" ++ lead

/-- The section of the title, which has what stood in front of the other sections. -/
def titleSection (name lead : Text) : Text :=
  "<div class=\"section1\"><h1 id=\"" ++ anchor (titleFragment name lead) ++ "\">" ++
    escape (PageName.title name) ++ "</h1>" ++ nest 2 ("\n" ++ lead) ++ "</div>"

theorem addHeading_of_holds {html : Text} (h : HoldsHeading html) (name : Text) :
    addHeading html name = html :=
  if_pos ((hasHeading_iff html).mpr h)

theorem addHeading_of_not {html : Text} (h : ¬ HoldsHeading html) (name : Text) :
    addHeading html name = titleHeading name ++ html :=
  if_neg fun hhas => h ((hasHeading_iff html).mp hhas)

theorem addHeading_eq_self_iff (html name : Text) :
    addHeading html name = html ↔ HoldsHeading html := by
  constructor
  · intro hsame
    by_contra hnot
    rw [addHeading_of_not hnot, List.append_left_eq_self] at hsame
    cases hsame
  · intro h
    exact addHeading_of_holds h name

/-- No section starts in the heading of the title, but that of the title itself. -/
theorem splitOn_title (html name : Text) : ∃ pieces,
    splitOn headingMark html = leadIn html :: pieces ∧
      splitOn headingMark (titleHeading name ++ html) =
        [] :: titleFragment name (leadIn html) :: pieces := by
  have hopening : '<' ∉ '>' :: escape (PageName.title name) :=
    List.not_mem_cons_of_ne_of_not_mem (by decide) (notMem_escape rfl _)
  have hclosing : cut? headingMark ("</h1>\n" ++ html) =
      (cut? headingMark html).map (inFront "</h1>\n") := by
    have hslash : dropPrefix? headingMark ('<' :: ("/h1>\n" ++ html)) = none := rfl
    have hrest : '<' ∉ ("/h1>\n" : Text) := by decide
    show cut? headingMark ('<' :: ("/h1>\n" ++ html)) = _
    rw [cut?_cons_of_none hslash, headingMark, cut?_append hrest, inFront_inFront]
    rfl
  have hcut : cut? headingMark (">" ++ escape (PageName.title name) ++ "</h1>\n" ++ html) =
      (cut? headingMark html).map (inFront (">" ++ escape (PageName.title name) ++ "</h1>\n")) := by
    rw [List.append_assoc]
    show cut? headingMark ('>' :: escape (PageName.title name) ++ ("</h1>\n" ++ html)) = _
    rw [headingMark, cut?_append hopening]
    show (cut? headingMark _).map _ = _
    rw [hclosing, inFront_inFront]
    rfl
  obtain ⟨first, pieces, hsplit, hbehind⟩ := splitOn_append headingMark_ne_nil hcut
  have hfirst : leadIn html = first := by
    unfold leadIn
    rw [hsplit]
    rfl
  have hhead : cut? headingMark (titleHeading name ++ html) =
      some ([], ">" ++ escape (PageName.title name) ++ "</h1>\n" ++ html) := by
    have htext : titleHeading name ++ html =
        headingMark ++ (">" ++ escape (PageName.title name) ++ "</h1>\n" ++ html) := rfl
    rw [htext, cut?_of_prefix headingMark_ne_nil]
  refine ⟨pieces, ?_, ?_⟩
  · rw [hfirst, hsplit]
  · rw [splitOn_of_some headingMark_ne_nil hhead, hbehind, hfirst]
    rfl

theorem wrap_title (name lead : Text) :
    wrap 1 (nest 2) (titleFragment name lead) = titleSection name lead := by
  have htag : cut? ">" (titleFragment name lead) =
      some ([], escape (PageName.title name) ++ "</h1>\n" ++ lead) :=
    cut?_of_prefix (List.cons_ne_nil '>' [])
  have hheading : cut? ('<' :: (titleEnd ++ ['>']))
      (escape (PageName.title name) ++ "</h1>\n" ++ lead) =
        some (escape (PageName.title name), "\n" ++ lead) := by
    have hmark : ('<' :: (titleEnd ++ ['>']) : Text) = "</h1>" := by decide
    rw [hmark, List.append_assoc]
    exact cut?_of_notMem (c := '<') (by decide) (notMem_escape rfl _) ("\n" ++ lead)
  have hnest := nestBehind_one_of_some (nest 2) hheading
  have hwrap : wrap 1 (nest 2) (titleFragment name lead) =
      "<div class=\"section" ++ Text.ofInt 1 ++ "\"><h" ++ Text.ofInt 1 ++ " id=\"" ++
        anchor (titleFragment name lead) ++ "\"" ++ dropIds [] ++
        ('>' :: nestBehind 1 (nest 2) (escape (PageName.title name) ++ "</h1>\n" ++ lead)) ++
        "</div>" := by
    unfold wrap
    rw [htag]
    rfl
  have hstart : ("<div class=\"section" : Text) ++ Text.ofInt 1 ++ "\"><h" ++ Text.ofInt 1 ++
      " id=\"" = "<div class=\"section1\"><h1 id=\"" := by decide
  have hend : ('<' :: (titleEnd ++ ['>']) : Text) = "</h1>" := by decide
  have hclose : ("\">" : Text) = "\"" ++ ['>'] := rfl
  rw [hwrap, hstart, dropIds_nil, hnest, hend]
  unfold titleSection
  rw [hclose]
  simp only [List.append_assoc, List.cons_append, List.nil_append]

/-- A page without a heading starts with its title, whose section ends where the first section of
    the page's own starts. -/
theorem nest_addHeading_of_not {html : Text} (h : ¬ HoldsHeading html) (name : Text) :
    leadIn (addHeading html name) = [] ∧
      sections (addHeading html name) = titleSection name (leadIn html) :: sections html := by
  obtain ⟨pieces, hsplit, htitle⟩ := splitOn_title html name
  rw [addHeading_of_not h]
  unfold leadIn sections
  rw [htitle, hsplit]
  refine ⟨rfl, ?_⟩
  show wrap 1 (nest 2) (titleFragment name _) :: _ = _
  rw [wrap_title]
  rfl

/-- There is a section of the first level, and the title stands there exactly if the page has no
    section of its own. -/
structure WellTitled (html name : Text) : Prop where
  hasSection : sections (addHeading html name) ≠ []
  titled : addHeading html name ≠ html ↔ sections html = []

theorem wellTitled_iff (html name : Text) :
    WellTitled html name ↔ (HoldsHeading html ↔ headingMark <:+: html) := by
  have hnone := sections_eq_nil_iff html
  have htitle := addHeading_eq_self_iff html name
  by_cases hheading : HoldsHeading html
  · have hsame := addHeading_of_holds hheading name
    constructor
    · intro h
      have hsection := h.hasSection
      rw [hsame, ne_eq, hnone, not_not] at hsection
      exact iff_of_true hheading hsection
    · intro h
      have hmark := h.mp hheading
      refine ⟨?_, ?_⟩
      · rw [hsame, ne_eq, hnone, not_not]
        exact hmark
      · rw [ne_eq, htitle, hnone, h]
  · constructor
    · intro h
      have hmark := h.titled
      rw [ne_eq, htitle, hnone, not_iff_not] at hmark
      exact hmark
    · intro h
      refine ⟨?_, ?_⟩
      · rw [(nest_addHeading_of_not hheading name).2]
        exact List.cons_ne_nil _ _
      · rw [ne_eq, htitle, hnone, h]

/-- A page has its sections, with its title's in front exactly if it holds no heading. So it is
    titled as it should be exactly if the tags of its headings are those that get sections. -/
theorem titled_where_headings_get_sections (html name : Text) :
    nest 1 (addHeading html name) =
      leadIn (addHeading html name) ++ (sections (addHeading html name)).flatten ∧
    (HoldsHeading html → addHeading html name = html) ∧
    (¬ HoldsHeading html → addHeading html name = titleHeading name ++ html ∧
      leadIn (addHeading html name) = [] ∧
      sections (addHeading html name) = titleSection name (leadIn html) :: sections html) ∧
    (sections html = [] ↔ ¬ headingMark <:+: html) ∧
    (∀ item ∈ sections (addHeading html name),
      ("<div class=\"section1\"><h1 id=\"" : Text) <+: item ∧ ("</div>" : Text) <:+ item) ∧
    (WellTitled html name ↔ (HoldsHeading html ↔ headingMark <:+: html)) ∧
    (PlainHeadingTags html → WellTitled html name) := by
  refine ⟨nest_one _, fun h => addHeading_of_holds h name,
    fun h => ⟨addHeading_of_not h name, nest_addHeading_of_not h name⟩, sections_eq_nil_iff html,
    fun item hitem => container_of_mem_sections hitem, wellTitled_iff html name,
    fun hplain => ?_⟩
  rw [wellTitled_iff]
  exact hplain.holdsHeading_iff

/-- The line is a page's HTML as it stands. It is taken for a heading, so the page gets neither its
    title nor a section. -/
theorem capital_heading_gets_no_section :
    Markdown.render "<H1>Welcome</H1>" = "<H1>Welcome</H1>\n\n" ∧
      nest 1 (addHeading "<H1>Welcome</H1>\n\n" "Home") = "<H1>Welcome</H1>\n\n" ∧
      sections (addHeading "<H1>Welcome</H1>\n\n" "Home") = [] ∧
      ¬ WellTitled "<H1>Welcome</H1>\n\n" "Home" := by
  have hname : Markdown.readElementName? ('H' :: "1>Welcome</H1>") =
      some (("H1" : Text), (">Welcome</H1>" : Text)) := rfl
  have hrender : Markdown.render "<H1>Welcome</H1>" = "<H1>Welcome</H1>\n\n" :=
    Markdown.render_blockTag (by decide) (by decide) hname Markdown.blockElements_h1
      (by decide +kernel)
  have hnone : sections "<H1>Welcome</H1>\n\n" = [] := by decide +kernel
  have hsame : addHeading "<H1>Welcome</H1>\n\n" "Home" = "<H1>Welcome</H1>\n\n" := by
    decide +kernel
  refine ⟨hrender, ?_, ?_, fun h => ?_⟩
  · rw [hsame, nest_one, hnone]
    decide +kernel
  · rw [hsame, hnone]
  · have hsection := h.hasSection
    rw [hsame] at hsection
    exact hsection hnone

end Taskbook.Page
