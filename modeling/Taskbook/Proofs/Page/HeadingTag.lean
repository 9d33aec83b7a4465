/-
  The attributes of a heading that is put into a section, whatever stands in their values. The new
  `id` comes first, then what `leave` keeps of the attributes (`heading_attributes`), as long as no
  section starts inside the tag (`Spot.Keeps`). That is all attributes but the `id`s, unless an `id`
  stands in or behind a value with a `>`, or the text of a value is read as an `id`
  (`quoted_attributes_are_misread`).
-/
import Taskbook.Proofs.Page.Outline
import Taskbook.Proofs.Page.Quoted

namespace Taskbook.Page

open Html Text

variable {s : Text}

/-! ## Tags in a text that is cut -/

section

variable {level : Int}

/-- A text up to the first separator. -/
def upTo (sep s : Text) : Text := (splitOn sep s).headD []

theorem upTo_of_none {sep : Text} (h : cut? sep s = none) : upTo sep s = s := by
  unfold upTo
  rw [splitOn_of_none h]
  rfl

/-- How the tags of the headings of a level start. -/
def startMark (level : Int) : Text := '<' :: headingName level

/-- The tag that closes a heading of the first level. -/
def titleMark : Text := '<' :: (titleEnd ++ ['>'])

theorem IsLevel.splitOn_tag (hlevel : IsLevel level) (hs : ¬ startMark level <:+: s) (body : Text) :
    ∃ pieces, splitOn (startMark level) (s ++ '>' :: body) =
      (s ++ '>' :: upTo (startMark level) body) :: pieces := by
  have hne : startMark level ≠ [] := List.cons_ne_nil _ _
  have hclosing : '>' ∉ startMark level := by simp [startMark, hlevel.notMem_headingName.1]
  have hcut := cut?_append_cons_of_none hclosing ((cut?_eq_none_iff hne).mpr hs) body
  have hsplit : s ++ '>' :: body = s ++ ['>'] ++ body := by simp
  rw [hsplit] at hcut ⊢
  obtain ⟨first, pieces, hbody, hwhole⟩ := splitOn_append hne hcut
  refine ⟨pieces, ?_⟩
  unfold upTo
  rw [hwhole, hbody]
  simp

/-- A tag without the start of a heading stays in front. -/
theorem IsLevel.nest_tag (hlevel : IsLevel level) (hs : ¬ startMark level <:+: s) (body : Text) :
    ∃ rest, nest level (s ++ '>' :: body) = s ++ '>' :: rest := by
  obtain ⟨pieces, hpieces⟩ := hlevel.splitOn_tag hs body
  rw [hlevel.nest_eq hpieces]
  exact ⟨upTo (startMark level) body ++ pieces.flatMap (wrap level (nest (level + 1))), by simp⟩

/-- The first section behind a text is that of the first heading behind it. -/
theorem IsLevel.nest_heading (hlevel : IsLevel level) (hs : ¬ startMark level <:+: s)
    (before body : Text) :
    ∃ more, nest level (before ++ (startMark level ++ (s ++ '>' :: body))) =
      nest level before ++
        (wrap level (nest (level + 1)) (s ++ '>' :: upTo (startMark level) body) ++ more) := by
  obtain ⟨pieces, hpieces⟩ := hlevel.splitOn_tag hs body
  obtain ⟨first, others, hfirst⟩ :=
    List.exists_cons_of_ne_nil (splitOn_ne_nil (startMark level) before)
  have hsplit : splitOn (startMark level) (before ++ (startMark level ++ (s ++ '>' :: body))) =
      first :: (others ++ (s ++ '>' :: upTo (startMark level) body) :: pieces) := by
    have hcut : splitOn (startMark level) (before ++ (startMark level ++ (s ++ '>' :: body))) =
        splitOn (startMark level) before ++ splitOn (startMark level) (s ++ '>' :: body) :=
      splitOn_append_sep hlevel.notMem_headingName.2 before (s ++ '>' :: body)
    rw [hcut, hfirst, hpieces, List.cons_append]
  rw [hlevel.nest_eq hsplit, hlevel.nest_eq hfirst]
  exact ⟨pieces.flatMap (wrap level (nest (level + 1))), by simp⟩

/-- The end of a tag stays where it is, if no heading starts in it behind the end of another. -/
theorem nestBehind_tag {inside : Text}
    (h : ∀ title rest, inside = title ++ (titleMark ++ rest) → ¬ startMark 2 <:+: rest)
    (after : Text) :
    ∃ rest, nestBehind 1 (nest 2) (inside ++ '>' :: after) = inside ++ '>' :: rest := by
  cases hcut : cut? titleMark (inside ++ '>' :: after) with
  | none => exact ⟨after, nestBehind_one_of_none _ hcut⟩
  | some parts =>
    obtain ⟨title, behind⟩ := parts
    have hresult : nestBehind 1 (nest 2) (inside ++ '>' :: after) =
        title ++ (titleMark ++ nest 2 behind) := by
      rw [nestBehind_one_of_some _ hcut, List.append_assoc]
      rfl
    have hmark : ∀ more, titleMark ++ more = ('<' :: titleEnd) ++ '>' :: more := by simp [titleMark]
    have htext : inside ++ '>' :: after = title ++ (('<' :: titleEnd) ++ '>' :: behind) := by
      rw [eq_of_cut? hcut, ← hmark, List.append_assoc]
    rw [hresult, hmark]
    rcases List.append_eq_append_iff.mp htext with ⟨a, rfl, ha⟩ | ⟨a, rfl, ha⟩
    · -- the heading ends behind the tag
      cases a with
      | nil => exact absurd (List.cons.inj ha).1 (by decide)
      | cons c a =>
        rw [← (List.cons.inj ha).1]
        exact ⟨a ++ (('<' :: titleEnd) ++ '>' :: nest 2 behind), by simp⟩
    · rcases List.append_eq_append_iff.mp ha with ⟨c, rfl, hc⟩ | ⟨c, hend, hc⟩
      · cases c with
        | nil => exact ⟨nest 2 behind, by simp⟩
        | cons d c =>
          -- the heading ends in the tag
          obtain ⟨hd, rfl⟩ := List.cons.inj hc
          subst hd
          have hlevel : IsLevel 2 := Or.inr rfl
          obtain ⟨rest, hrest⟩ := hlevel.nest_tag (h title c (by simp [hmark])) after
          rw [List.append_eq, hrest]
          exact ⟨rest, by simp⟩
      · cases c with
        | nil =>
          -- the heading ends with the tag
          rw [List.append_nil] at hend
          exact ⟨nest 2 behind, by rw [hend, List.append_assoc]⟩
        | cons d c =>
          have hmem : '>' ∈ '<' :: titleEnd := by
            rw [hend, ← (List.cons.inj hc).1]
            exact List.mem_append_right _ List.mem_cons_self
          exact absurd hmem (by decide)

/-- The new `id` comes first, and behind it what is left of the attributes. -/
theorem wrap_leave {inner : Text → Text} {after : Text}
    (hbehind : ∀ inside, s.dropWhile (· ≠ '>') = '>' :: inside →
      ∃ rest, nestBehind level inner (inside ++ '>' :: after) = inside ++ '>' :: rest) :
    ∃ rest, wrap level inner (s ++ '>' :: after) =
      (opening level).write ++ (startMark level ++
        (idText (anchor (s ++ '>' :: after)) ++ (leave s ++ '>' :: rest))) := by
  have hfront : '>' ∉ s.takeWhile (· ≠ '>') := fun hmem =>
    absurd (List.mem_takeWhile_imp hmem) (by decide)
  have hsplit := List.takeWhile_append_dropWhile (p := fun c => decide (c ≠ '>')) (l := s)
  unfold leave
  cases hdrop : s.dropWhile (· ≠ '>') with
  | nil =>
    rw [hdrop, List.append_nil] at hsplit
    rw [hsplit] at hfront ⊢
    refine ⟨nestBehind level inner after ++ ending.write, ?_⟩
    rw [wrap_eq inner hfront]
    simp [startMark]
  | cons c inside =>
    obtain rfl : c = '>' := by simpa using eq_false_of_dropWhile hdrop
    obtain ⟨rest, hrest⟩ := hbehind inside hdrop
    have htext : s ++ '>' :: after =
        s.takeWhile (· ≠ '>') ++ '>' :: (inside ++ '>' :: after) := by
      rw [hdrop] at hsplit
      conv_lhs => rw [← hsplit]
      simp
    refine ⟨rest ++ ending.write, ?_⟩
    rw [htext, wrap_eq inner hfront, hrest]
    simp [startMark]

end

/-! ## Headings that are put into sections -/

/-- Where the tag of a heading stands that is put into a section. -/
inductive Spot where
  /-- Behind any text, the tag of a heading of the first level. -/
  | chapter (before : Text)
  /-- In a chapter, behind the tag that closes its heading, the tag of a heading of the second
      level. -/
  | part (before opened title lead : Text)

namespace Spot

/-- The level of the heading. -/
def level : Spot → Int
  | chapter _ => 1
  | part _ _ _ _ => 2

/-- A chapter from behind the name of its heading up to one of its parts. -/
def chapterText (opened title lead : Text) : Text :=
  opened ++ '>' :: (title ++ (titleMark ++ lead))

/-- The text in front of the tag. -/
def text : Spot → Text
  | chapter before => before
  | part before opened title lead => before ++ (startMark 1 ++ chapterText opened title lead)

/-- The tag of the chapter's heading ends at the first `>`, the heading at the first tag that closes
    it, and no other chapter starts in front of the part. -/
def Fits : Spot → Prop
  | chapter _ => True
  | part _ opened title lead =>
    '>' ∉ opened ∧ ¬ titleMark <:+: title ∧ ¬ startMark 1 <:+: chapterText opened title lead

/-- No section starts in the attributes. -/
def Keeps (attributes : Text) : Spot → Prop
  | chapter _ =>
    ¬ startMark 1 <:+: attributes ∧
      ∀ front rest, attributes.dropWhile (· ≠ '>') = front ++ (titleMark ++ rest) →
        ¬ startMark 2 <:+: rest
  | part _ _ _ _ => ¬ startMark 1 <:+: attributes ∧ ¬ startMark 2 <:+: attributes

/-- What becomes of the text in front of the tag, where the chapter has the anchor `slug`. -/
def front (slug : Text) : Spot → Text
  | chapter before => nest 1 before
  | part before opened title lead =>
    nest 1 before ++ ((opening 1).write ++ (startMark 1 ++ (idText slug ++ (dropIds opened ++
      '>' :: (title ++ (titleMark ++ nest 2 lead))))))

/-- The text behind the tag that belongs to the heading's section. -/
def piece (body : Text) : Spot → Text
  | chapter _ => upTo (startMark 1) body
  | part _ _ _ _ => upTo (startMark 2) (upTo (startMark 1) body)

/-- A page with the heading. -/
def page (spot : Spot) (attributes body : Text) : Text :=
  spot.text ++ (startMark spot.level ++ (attributes ++ '>' :: body))

variable {attributes : Text}

theorem nest_page_chapter {before : Text} (hkeeps : (chapter before).Keeps attributes)
    (body : Text) :
    ∃ rest, nest 1 ((chapter before).page attributes body) =
      nest 1 before ++ ((opening 1).write ++ (startMark 1 ++
        (idText (anchor (attributes ++ '>' :: (chapter before).piece body)) ++
          (leave attributes ++ '>' :: rest)))) := by
  have hlevel : IsLevel 1 := Or.inl rfl
  have hnext : (1 : Int) + 1 = 2 := by decide
  obtain ⟨hstart, hinside⟩ := hkeeps
  have hbehind : ∀ inside, attributes.dropWhile (· ≠ '>') = '>' :: inside →
      ∃ rest, nestBehind 1 (nest 2) (inside ++ '>' :: upTo (startMark 1) body) =
        inside ++ '>' :: rest := by
    intro inside hdrop
    refine nestBehind_tag (fun title rest htitle => hinside ('>' :: title) rest ?_) _
    rw [hdrop, htitle, List.cons_append]
  obtain ⟨more, hmore⟩ := hlevel.nest_heading hstart before body
  obtain ⟨rest, hrest⟩ := wrap_leave hbehind
  rw [hnext, hrest] at hmore
  exact ⟨rest ++ more, hmore.trans (by simp [piece])⟩

/-- No chapter starts across the start of a part. -/
theorem no_chapter_across {s : Text} (hs : ¬ startMark 1 <:+: s)
    (hattributes : ¬ startMark 1 <:+: attributes) :
    ¬ startMark 1 <:+: s ++ (startMark 2 ++ attributes) := by
  have hne : startMark 1 ≠ [] := List.cons_ne_nil _ _
  rw [← cut?_eq_none_iff hne] at hs hattributes ⊢
  have hmark : dropPrefix? (startMark 1) (startMark 2 ++ attributes) = none := by
    unfold startMark
    rw [headingName_one, headingName_two]
    rfl
  have hopening : '<' ∉ headingName 1 ∧ '<' ∉ headingName 2 := by decide
  have hpart : cut? (startMark 1) (startMark 2 ++ attributes) = none := by
    have hname : cut? (startMark 1) (headingName 2 ++ attributes) = none := by
      unfold startMark at hattributes ⊢
      rw [cut?_append hopening.2, hattributes]
      rfl
    have hcons : startMark 2 ++ attributes = '<' :: (headingName 2 ++ attributes) := rfl
    rw [hcons] at hmark ⊢
    rw [cut?_cons_of_none hmark, hname]
    rfl
  have hwhole := cut?_append_of_none hopening.1 hs (headingName 2 ++ attributes)
  exact hwhole.trans (Option.map_eq_none_iff.mpr hpart)

theorem nest_page_part {before opened title lead : Text}
    (hfits : (part before opened title lead).Fits)
    (hkeeps : (part before opened title lead).Keeps attributes) (body : Text) :
    ∃ slug rest, nest 1 ((part before opened title lead).page attributes body) =
      (part before opened title lead).front slug ++ ((opening 2).write ++ (startMark 2 ++
        (idText (anchor (attributes ++ '>' :: (part before opened title lead).piece body)) ++
          (leave attributes ++ '>' :: rest)))) := by
  obtain ⟨hopened, htitle, hchapter⟩ := hfits
  obtain ⟨hstart, hpart⟩ := hkeeps
  have hone : IsLevel 1 := Or.inl rfl
  have htwo : IsLevel 2 := Or.inr rfl
  have hnext : (1 : Int) + 1 = 2 := by decide
  obtain ⟨more, hmore⟩ := hone.nest_heading (no_chapter_across hchapter hstart) before body
  obtain ⟨others, hothers⟩ := htwo.nest_heading hpart lead (upTo (startMark 1) body)
  obtain ⟨rest, hrest⟩ : ∃ rest, wrap 2 (nest (2 + 1)) (attributes ++ '>' ::
      upTo (startMark 2) (upTo (startMark 1) body)) = _ :=
    wrap_leave fun inside _ => ⟨_, nestBehind_two _ _⟩
  -- the chapter that the part is in
  have hsection : ∀ after, wrap 1 (nest 2) (opened ++ '>' :: (title ++ (titleMark ++ after))) =
      (opening 1).write ++ (startMark 1 ++
        (idText (anchor (opened ++ '>' :: (title ++ (titleMark ++ after)))) ++ (dropIds opened ++
          '>' :: (title ++ (titleMark ++ (nest 2 after ++ ending.write)))))) := by
    intro after
    have hne : titleMark ≠ [] := List.cons_ne_nil _ _
    have hcut : cut? titleMark (title ++ (titleMark ++ after)) = some (title, after) :=
      cut?_first_of_none (by decide) ((cut?_eq_none_iff hne).mpr htitle) after
    rw [wrap_eq _ hopened, nestBehind_one_of_some _ hcut]
    simp [startMark, titleMark]
  have htext : chapterText opened title lead ++ (startMark 2 ++ attributes) ++
      '>' :: upTo (startMark 1) body = opened ++ '>' :: (title ++ (titleMark ++
        (lead ++ (startMark 2 ++ (attributes ++ '>' :: upTo (startMark 1) body))))) := by
    simp [chapterText]
  have hpage : (part before opened title lead).page attributes body = before ++ (startMark 1 ++
      (chapterText opened title lead ++ (startMark 2 ++ attributes) ++ '>' :: body)) := by
    simp [page, text, level]
  refine ⟨anchor (chapterText opened title lead ++ (startMark 2 ++ attributes) ++
    '>' :: upTo (startMark 1) body), rest ++ (others ++ (ending.write ++ more)), ?_⟩
  rw [hpage, hmore, hnext, htext, hsection, hothers, hrest]
  simp [front, piece]

end Spot

/-- A heading that is put into a section gets its `id` in front of what is left of its attributes.
    Where each text that is read as an `id` is one, that is all but the `id`s, exactly if no `id`
    stands in or behind a value with a `>`. Where there is no `id`, all is left exactly if no value
    that is read holds the text of one. -/
theorem heading_attributes {spot : Spot} {form : Pairs} (hspot : spot.Fits) (hform : form.Plain)
    (hkeeps : spot.Keeps form.text) (body : Text) :
    (∃ slug rest, nest 1 (spot.page form.text body) =
      spot.front slug ++ ((opening spot.level).write ++ (startMark spot.level ++
        (idText (anchor (form.text ++ '>' :: spot.piece body)) ++ (form.left ++ '>' :: rest))))) ∧
    (form.Legible → (form.left = form.wanted ↔ ∀ pair ∈ form.cutOff, pair.isId = false)) ∧
    ((∀ pair ∈ form.read, pair.isTaken = false) →
      (form.left = form.text ↔ ∀ pair ∈ form.read, ¬ HoldsId pair.seen)) := by
  refine ⟨?_, form.left_eq_wanted_iff hform, form.left_eq_text_iff hform⟩
  cases spot with
  | chapter before =>
    obtain ⟨rest, hrest⟩ := Spot.nest_page_chapter hkeeps body
    exact ⟨[], rest, hrest⟩
  | part before opened title lead => exact Spot.nest_page_part hspot hkeeps body

/-- The tag of a part, with an `id` between two attributes, the second of them with a `>`. -/
def mixedTag : Pairs where
  pairs := [⟨" ", "class", [], [], "big"⟩, ⟨"  ", "ID", " ", " ", "old"⟩,
    ⟨"\n", "title", [], [], "1 > 0"⟩]
  tail := " "

/-- A page up to that tag. -/
def mixedSpot : Spot := .part "<p>\n" " lang=\"en\"" "Top" "\n"

theorem heading_attributes_mixed :
    (mixedSpot.Fits ∧ mixedTag.Plain ∧ mixedSpot.Keeps mixedTag.text ∧ mixedTag.Legible) ∧
    ∃ slug rest, nest 1 (mixedSpot.page mixedTag.text "Part</h2>") =
      mixedSpot.front slug ++ ((opening 2).write ++ (startMark 2 ++
        (idText "part" ++ (" class=\"big\"\ntitle=\"1 > 0\" " ++ '>' :: rest)))) := by
  have hplain : mixedTag.Plain := by decide
  have hone : startMark 1 ≠ [] := List.cons_ne_nil _ _
  have htwo : startMark 2 ≠ [] := List.cons_ne_nil _ _
  have hend : titleMark ≠ [] := List.cons_ne_nil _ _
  have hfits : mixedSpot.Fits :=
    ⟨by decide, (cut?_eq_none_iff hend).mp (by decide), (cut?_eq_none_iff hone).mp (by decide)⟩
  have hkeeps : mixedSpot.Keeps mixedTag.text :=
    ⟨(cut?_eq_none_iff hone).mp (by decide), (cut?_eq_none_iff htwo).mp (by decide)⟩
  have hlegible : mixedTag.Legible := by
    have hseen : ∀ pair ∈ mixedTag.read, (pair.isTaken = true → pair.isId = true) ∧
        '=' ∉ pair.seen := by decide
    intro pair hpair
    obtain ⟨htaken, hequals⟩ := hseen pair hpair
    exact ⟨htaken, fun _ => not_holdsId_of_notMem hequals⟩
  have hcutOff : ∀ pair ∈ mixedTag.cutOff, pair.isId = false := by decide
  have hpiece : mixedSpot.piece "Part</h2>" = "Part</h2>" := by
    have hchapter : upTo (startMark 1) "Part</h2>" = "Part</h2>" := upTo_of_none (by decide)
    have hpart : upTo (startMark 2) "Part</h2>" = "Part</h2>" := upTo_of_none (by decide)
    unfold mixedSpot Spot.piece
    rw [hchapter, hpart]
  have hanchor : anchor (mixedTag.text ++ '>' :: mixedSpot.piece "Part</h2>") = "part" := by
    rw [hpiece]
    decide
  have hwanted : mixedTag.wanted = " class=\"big\"\ntitle=\"1 > 0\" " := by decide
  obtain ⟨⟨slug, rest, hnest⟩, hleft, -⟩ :=
    heading_attributes hfits hplain hkeeps "Part</h2>"
  rw [hanchor, (hleft hlegible).mpr hcutOff, hwanted] at hnest
  exact ⟨⟨hfits, hplain, hkeeps, hlegible⟩, slug, rest, hnest⟩

/-- An `id` stays behind a value with a `>`, and the text of a value is lost that reads like an
    `id`. -/
theorem quoted_attributes_are_misread :
    nest 1 "<h1 title=\"a>b\" id=\"x\">T</h1>" =
      "<div class=\"section1\"><h1 id=\"b-id-x-t\" title=\"a>b\" id=\"x\">T</h1></div>" ∧
    nest 1 "<h1 title=\"see id=5 here\">T</h1>" =
      "<div class=\"section1\"><h1 id=\"t\" title=\"see here\">T</h1></div>" := by
  refine ⟨?_, ?_⟩
  · decide +kernel
  · decide +kernel

end Taskbook.Page
