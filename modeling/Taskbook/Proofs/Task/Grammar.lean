/-
  The grammar of a task line. A line with a blank put behind it is cut into parts in at most one way
  (`LineForm.eq_of_text_eq`), and the keyword that is read, with what follows it, is the one of such
  parts (`readKeyword?_dropBullet_iff`). The tags that are read are the longest run of tag words at
  the front of what follows (`LongestTagWords.readTags_eq`). `task_lines_are_those_of_the_grammar`
  puts these together.
-/
import Taskbook.Proofs.Task.RoundTrip

namespace Taskbook

/-! ## The parts of a line -/

/-- What stands for the star in front of a keyword and the blanks behind it, if there is one. -/
def bulletText : Option Text → Text
  | none => []
  | some gap => '*' :: gap

/-- What stands for the colon behind a keyword, if there is one. -/
def colonText : Bool → Text
  | false => []
  | true => [':']

/-- The parts of a task line. -/
structure LineForm where
  /-- The blanks in front. -/
  lead : Text
  /-- The blanks behind the star, if there is a star. -/
  bullet : Option Text
  keyword : Keyword
  /-- Whether a colon stands behind the keyword. -/
  colon : Bool
  /-- The blanks behind the keyword and the colon. -/
  gap : Text
  /-- Tags and description. -/
  rest : Text

namespace LineForm

/-- The parts from the keyword on. -/
def body (form : LineForm) : Text :=
  form.keyword.word ++ colonText form.colon ++ form.gap ++ form.rest

/-- The parts one after another. -/
def text (form : LineForm) : Text := form.lead ++ bulletText form.bullet ++ form.body

/-- Blanks are where they have to be, and nothing but blanks is there. -/
structure WellFormed (form : LineForm) : Prop where
  lead : ∀ c ∈ form.lead, isBlank c = true
  bullet : ∀ gap, form.bullet = some gap → IsGap gap
  gap : IsGap form.gap
  rest : Text.StartsOutside isBlank form.rest

end LineForm

/-! ## Keywords -/

/-- A character that may stand behind a keyword: a colon or a blank. -/
def endsWord (c : Char) : Bool := c = ':' || isBlank c

/-- What stands behind a keyword on a line starts with such a character. -/
def EndsKeyword (s : Text) : Prop := ∃ c tail, s = c :: tail ∧ endsWord c = true

theorem endsWord_of_isBlank {c : Char} (hc : isBlank c = true) : endsWord c = true := by
  simp [endsWord, hc]

theorem endsKeyword_of_gap (colon : Bool) {gap : Text} (h : IsGap gap) (rest : Text) :
    EndsKeyword (colonText colon ++ gap ++ rest) := by
  obtain ⟨c, tail, rfl, hc, -⟩ := h.exists_cons
  cases colon with
  | false => exact ⟨c, tail ++ rest, rfl, endsWord_of_isBlank hc⟩
  | true => exact ⟨':', c :: tail ++ rest, rfl, rfl⟩

namespace Keyword

theorem mem_all (k : Keyword) : k ∈ all := by
  cases k <;> decide

theorem word_inj {k k' : Keyword} (h : k.word = k'.word) : k = k' := by
  have hall : ∀ k ∈ all, ∀ k' ∈ all, k.word = k'.word → k = k' := by decide
  exact hall k k.mem_all k' k'.mem_all h

theorem endsWord_of_mem_word {k : Keyword} {c : Char} (hc : c ∈ k.word) : endsWord c = false := by
  have hall : all.all (fun k => k.word.all fun c => !endsWord c) = true := by decide
  simpa using List.all_eq_true.mp (List.all_eq_true.mp hall k k.mem_all) c hc

/-- Where one keyword is the head of another, only the longer one is followed as a keyword is. -/
theorem eq_of_prefix_word {k k' : Keyword} {s s' : Text} (hs : EndsKeyword s)
    (h : k.word ++ s = k'.word ++ s') (hhead : k.word <+: k'.word) : k = k' := by
  obtain ⟨c, tail, rfl, hc⟩ := hs
  obtain ⟨more, hmore⟩ := hhead
  cases more with
  | nil => exact word_inj (by rw [← hmore, List.append_nil])
  | cons d more =>
    rw [← hmore, List.append_assoc] at h
    have hcd : c = d := (List.cons.inj (List.append_cancel_left h)).1
    have hd : endsWord d = false := endsWord_of_mem_word (by rw [← hmore]; simp)
    rw [← hcd, hc] at hd
    cases hd

theorem eq_of_word_append {k k' : Keyword} {s s' : Text} (hs : EndsKeyword s)
    (hs' : EndsKeyword s') (h : k.word ++ s = k'.word ++ s') : k = k' := by
  have hfront : k.word <+: k'.word ++ s' := ⟨s, h⟩
  rcases List.prefix_or_prefix_of_prefix hfront (List.prefix_append k'.word s') with hle | hle
  · exact eq_of_prefix_word hs h hle
  · exact (eq_of_prefix_word hs' h.symm hle).symm

end Keyword

/-- A colon is no blank, so it is seen whether there is one. -/
theorem eq_of_colonText_append {colon colon' : Bool} {gap gap' : Text} (h : IsGap gap)
    (h' : IsGap gap') (heq : colonText colon ++ gap = colonText colon' ++ gap') :
    colon = colon' ∧ gap = gap' := by
  have hcolon : ∀ {g g' : Text}, IsGap g → g ≠ ':' :: g' := by
    rintro g g' hg rfl
    exact absurd (hg.blank ':' List.mem_cons_self) (by decide)
  cases colon <;> cases colon'
  · exact ⟨rfl, heq⟩
  · exact absurd heq (hcolon h)
  · exact absurd heq.symm (hcolon h')
  · exact ⟨rfl, (List.cons.inj heq).2⟩

theorem Keyword.read?_eq_some_iff {keyword : Keyword} {s rest : Text} :
    keyword.read? s = some rest ↔
      ∃ colon gap, IsGap gap ∧ Text.StartsOutside isBlank rest ∧
        s = keyword.word ++ colonText colon ++ gap ++ rest := by
  constructor
  · intro h
    unfold read? at h
    split at h
    · cases h
    · next after hafter =>
      obtain rfl := Text.dropPrefix?_eq_some_iff.mp hafter
      split at h
      · cases h
      · next c tail htail =>
        split at h
        · next hc =>
          obtain rfl := Option.some.inj h
          obtain ⟨gap, hgap, hcut⟩ := IsGap.exists_of_cons (s := tail) hc
          have hstart := Text.startsOutside_dropWhile isBlank tail
          unfold dropColon at htail
          split at htail
          · exact ⟨true, gap, hgap, hstart, by simp [colonText, htail, hcut]⟩
          · exact ⟨false, gap, hgap, hstart, by simp [colonText, htail, hcut]⟩
        · cases h
  · rintro ⟨colon, gap, hgap, hrest, rfl⟩
    have hdrop : dropColon (colonText colon ++ gap ++ rest) = gap ++ rest := by
      obtain ⟨c, tail, rfl, hc, -⟩ := hgap.exists_cons
      have hne : c ≠ ':' := by
        rintro rfl
        exact absurd hc (by decide)
      cases colon with
      | false => simp [colonText, dropColon, hne]
      | true => rfl
    obtain ⟨c, tail, rfl, hc, htail⟩ := hgap.exists_cons
    have hhead : Text.dropPrefix? keyword.word
        (keyword.word ++ colonText colon ++ (c :: tail) ++ rest) =
          some (colonText colon ++ (c :: tail) ++ rest) :=
      Text.dropPrefix?_eq_some_iff.mpr (by simp)
    rw [read?, hhead]
    dsimp only
    rw [hdrop, List.cons_append]
    dsimp only
    rw [if_pos hc, Text.dropWhile_append htail hrest]

theorem Keyword.eq_of_read? {k k' : Keyword} {s rest rest' : Text} (h : k.read? s = some rest)
    (h' : k'.read? s = some rest') : k = k' := by
  obtain ⟨colon, gap, hgap, -, rfl⟩ := read?_eq_some_iff.mp h
  obtain ⟨colon', gap', hgap', -, heq⟩ := read?_eq_some_iff.mp h'
  have hends := endsKeyword_of_gap colon hgap rest
  have hends' := endsKeyword_of_gap colon' hgap' rest'
  exact eq_of_word_append hends hends' (by simpa using heq)

/-- The order in which keywords are tried does not matter. -/
theorem readKeyword?_eq_some_iff {keyword : Keyword} {s rest : Text} :
    readKeyword? s = some (keyword, rest) ↔ keyword.read? s = some rest := by
  constructor
  · intro h
    obtain ⟨k, -, hread⟩ := List.exists_of_findSome?_eq_some h
    obtain ⟨found, hfound, heq⟩ := Option.map_eq_some_iff.mp hread
    obtain ⟨rfl, rfl⟩ := Prod.mk.inj heq
    exact hfound
  · intro h
    have hsome : (readKeyword? s).isSome = true := by
      refine List.findSome?_isSome_iff.mpr ⟨keyword, keyword.mem_all, ?_⟩
      simp [h]
    obtain ⟨⟨k, found⟩, hfound⟩ := Option.isSome_iff_exists.mp hsome
    obtain ⟨k', -, hread⟩ := List.exists_of_findSome?_eq_some hfound
    obtain ⟨other, hother, heq⟩ := Option.map_eq_some_iff.mp hread
    obtain ⟨rfl, rfl⟩ := Prod.mk.inj heq
    obtain rfl := Keyword.eq_of_read? h hother
    rw [h] at hother
    rw [hfound, Option.some.inj hother]

/-! ## Stars -/

theorem dropBullet_bulletText {gap s : Text} (hgap : IsGap gap)
    (hs : Text.StartsOutside isBlank s) : dropBullet (bulletText (some gap) ++ s) = s := by
  obtain ⟨c, tail, rfl, hc, htail⟩ := hgap.exists_cons
  simp [bulletText, dropBullet, hc, Text.dropWhile_append htail hs]

theorem bulletText_inj {bullet bullet' : Option Text} (h : bulletText bullet = bulletText bullet') :
    bullet = bullet' := by
  cases bullet <;> cases bullet' <;> simp_all [bulletText]

theorem exists_bullet (s : Text) :
    ∃ bullet, (∀ gap, bullet = some gap → IsGap gap) ∧ s = bulletText bullet ++ dropBullet s := by
  unfold dropBullet
  split
  · next c rest =>
    split
    · next hc =>
      obtain ⟨gap, hgap, hcut⟩ := IsGap.exists_of_cons (s := rest) hc
      exact ⟨some gap, by rintro _ ⟨⟩; exact hgap, by simp [bulletText, hcut]⟩
    · exact ⟨none, nofun, rfl⟩
  · exact ⟨none, nofun, rfl⟩

namespace LineForm

variable {form form' : LineForm}

theorem body_eq_word (form : LineForm) :
    form.body = form.keyword.word ++ (colonText form.colon ++ form.gap ++ form.rest) := by
  simp [body]

theorem rest_suffix (form : LineForm) : form.rest <:+ form.text := by
  rw [text, body_eq_word]
  exact (List.suffix_append _ _).trans ((List.suffix_append _ _).trans (List.suffix_append _ _))

theorem startsOutside_body (form : LineForm) : Text.StartsOutside isBlank form.body := by
  rw [body_eq_word]
  exact (Text.startsOutside_of_forall form.keyword.word_not_blank).append form.keyword.word_ne_nil

theorem startsOutside_bullet (form : LineForm) :
    Text.StartsOutside isBlank (bulletText form.bullet ++ form.body) := by
  cases form.bullet with
  | none => exact form.startsOutside_body
  | some gap => exact Text.startsOutside_cons.mpr (by decide)

theorem WellFormed.dropBullet_dropWhile (h : form.WellFormed) :
    dropBullet (form.text.dropWhile isBlank) = form.body := by
  rw [text, List.append_assoc, Text.dropWhile_append h.lead form.startsOutside_bullet]
  cases hbullet : form.bullet with
  | none =>
    rw [body_eq_word]
    exact dropBullet_word form.keyword _
  | some gap => exact dropBullet_bulletText (h.bullet gap hbullet) form.startsOutside_body

theorem WellFormed.read?_body (h : form.WellFormed) :
    form.keyword.read? form.body = some form.rest :=
  Keyword.read?_eq_some_iff.mpr ⟨form.colon, form.gap, h.gap, h.rest, rfl⟩

end LineForm

/-- What is read as the keyword and what follows it are the parts of the text. -/
theorem readKeyword?_dropBullet_iff {keyword : Keyword} {s rest : Text} :
    readKeyword? (dropBullet (s.dropWhile isBlank)) = some (keyword, rest) ↔
      ∃ form : LineForm, form.WellFormed ∧ form.text = s ∧ form.keyword = keyword ∧
        form.rest = rest := by
  rw [readKeyword?_eq_some_iff]
  constructor
  · intro h
    obtain ⟨colon, gap, hgap, hrest, hbody⟩ := Keyword.read?_eq_some_iff.mp h
    obtain ⟨bullet, hbullet, hs⟩ := exists_bullet (s.dropWhile isBlank)
    refine ⟨⟨s.takeWhile isBlank, bullet, keyword, colon, gap, rest⟩,
      ⟨fun c hc => List.mem_takeWhile_imp hc, hbullet, hgap, hrest⟩, ?_, rfl, rfl⟩
    have hcut := List.takeWhile_append_dropWhile (p := isBlank) (l := s)
    rw [LineForm.text, LineForm.body, ← hbody, List.append_assoc, ← hs, hcut]
  · rintro ⟨form, hform, rfl, rfl, rfl⟩
    rw [hform.dropBullet_dropWhile]
    exact hform.read?_body

/-- A text has at most one decomposition into the parts of a line. -/
theorem LineForm.eq_of_text_eq {form form' : LineForm} (h : form.WellFormed)
    (h' : form'.WellFormed) (heq : form.text = form'.text) : form = form' := by
  have hlead : form.lead = form'.lead := by
    have htake := congrArg (List.takeWhile isBlank) heq
    simp only [text, List.append_assoc] at htake
    rwa [Text.takeWhile_append h.lead form.startsOutside_bullet,
      Text.takeWhile_append h'.lead form'.startsOutside_bullet] at htake
  have hbody : form.body = form'.body := by
    rw [← h.dropBullet_dropWhile, ← h'.dropBullet_dropWhile, heq]
  have hread := h.read?_body
  have hread' := h'.read?_body
  rw [← hbody] at hread'
  have hkeyword : form.keyword = form'.keyword := Keyword.eq_of_read? hread hread'
  have hrest : form.rest = form'.rest := by
    rw [← hkeyword, hread] at hread'
    exact Option.some.inj hread'
  have hbullet : form.bullet = form'.bullet := by
    rw [text, text, hlead, hbody] at heq
    exact bulletText_inj (List.append_cancel_left (List.append_cancel_right heq))
  have hfront : colonText form.colon ++ form.gap = colonText form'.colon ++ form'.gap := by
    rw [body_eq_word, body_eq_word, hkeyword, hrest] at hbody
    exact List.append_cancel_right (List.append_cancel_left hbody)
  obtain ⟨hcolon, hgap⟩ := eq_of_colonText_append h.gap h'.gap hfront
  cases form
  cases form'
  simp_all only

/-! ## Runs of tags -/

/-- The text starts with tag words, each with blanks behind it, and goes on with `after`. -/
inductive TagWords : Text → Tags → Text → Prop
  | none (after : Text) : TagWords after [] after
  | word {tag : Text × Text} {gap s after : Text} {tags : Tags} :
      TagForm tag → IsGap gap → TagWords s tags after →
      TagWords (tagText tag ++ gap ++ s) (tag :: tags) after

/-- The text starts with these tag words, and any other tag words it starts with are the first of
    them. -/
structure LongestTagWords (s : Text) (tags : Tags) (after : Text) : Prop where
  words : TagWords s tags after
  longest : ∀ tags' after', TagWords s tags' after' → tags' <+: tags

theorem TagWords.eq_of_nil {s after : Text} (h : TagWords s [] after) : s = after := by
  cases h
  rfl

theorem tagWords_readTags (s : Text) : TagWords s (readTags s).1 (readTags s).2 := by
  induction s using readTags.induct with
  | case1 s hnone =>
    rw [readTags_of_none hnone]
    exact .none s
  | case2 s tag rest hsome ih =>
    rw [readTags_of_some hsome]
    obtain ⟨hform, c, tail, hc, rfl, rfl⟩ := readTag?_eq_some_iff.mp hsome
    obtain ⟨gap, hgap, hcut⟩ := IsGap.exists_of_cons (s := tail) hc
    rw [hcut, ← List.append_assoc]
    exact .word hform hgap ih

theorem readTag?_word {tag : Text × Text} {gap : Text} (h : TagForm tag) (hgap : IsGap gap)
    (s : Text) : readTag? (tagText tag ++ gap ++ s) = some (tag, s.dropWhile isBlank) := by
  obtain ⟨c, tail, rfl, hc, htail⟩ := hgap.exists_cons
  have hread := readTag?_of_form h hc (tail ++ s)
  rwa [List.dropWhile_append_of_pos htail, ← List.cons_append, ← List.append_assoc] at hread

/-- Behind the words that a text starts with, reading goes on where they end, blanks aside. -/
theorem TagWords.readTags_eq {s after : Text} {tags : Tags} (h : TagWords s tags after) :
    (readTags (s.dropWhile isBlank)).1 = tags ++ (readTags (after.dropWhile isBlank)).1 ∧
      (readTags (s.dropWhile isBlank)).2 = (readTags (after.dropWhile isBlank)).2 := by
  induction h with
  | none after => exact ⟨rfl, rfl⟩
  | @word tag gap s after tags hform hgap _ ih =>
    have hstart : Text.StartsOutside isBlank (tagText tag ++ gap ++ s) := by
      simpa using hform.startsOutside (gap ++ s)
    rw [Text.dropWhile_eq_self hstart, readTags_of_some (readTag?_word hform hgap s)]
    exact ⟨by rw [ih.1, List.cons_append], ih.2⟩

theorem longestTagWords_readTags {s : Text} (hs : Text.StartsOutside isBlank s) :
    LongestTagWords s (readTags s).1 (readTags s).2 := by
  refine ⟨tagWords_readTags s, fun tags after h => ?_⟩
  have hread := h.readTags_eq.1
  rw [Text.dropWhile_eq_self hs] at hread
  exact ⟨_, hread.symm⟩

/-- The longest run of tag words is what is read, but for blanks in front of what follows. -/
theorem LongestTagWords.readTags_eq {s after : Text} {tags : Tags}
    (h : LongestTagWords s tags after) (hs : Text.StartsOutside isBlank s) :
    (readTags s).1 = tags ∧ (readTags s).2 = after.dropWhile isBlank := by
  obtain ⟨hfirst, hsecond⟩ := h.words.readTags_eq
  rw [Text.dropWhile_eq_self hs] at hfirst hsecond
  have hhead := h.longest _ _ (tagWords_readTags s)
  have hnil : (readTags (after.dropWhile isBlank)).1 = [] := by
    have hlength := hhead.length_le
    rw [hfirst, List.length_append] at hlength
    exact List.length_eq_zero_iff.mp (by omega)
  refine ⟨by rw [hfirst, hnil, List.append_nil], hsecond.trans ?_⟩
  have hwords := tagWords_readTags (after.dropWhile isBlank)
  rw [hnil] at hwords
  exact hwords.eq_of_nil.symm

theorem Text.trim_dropWhile (p : Char → Bool) (s : Text) :
    trim p (s.dropWhile p) = trim p s := by
  rw [trim, trim, dropWhile_eq_self (startsOutside_dropWhile p s)]

/-- The parts of a line give its task. -/
theorem LineForm.WellFormed.parse?_eq {form : LineForm} (h : form.WellFormed) {line : Text}
    (htext : form.text = Text.trimEnd isLineCut line ++ [' '])
    (hline : '\n' ∉ Text.trimEnd isLineCut line) :
    Task.parse? line = some
      { keyword := form.keyword, tags := (readTags form.rest).1
        description := Text.trim isBlank (readTags form.rest).2 } := by
  have hread := readKeyword?_dropBullet_iff.mpr ⟨form, h, htext, rfl, rfl⟩
  have hsuffix : (readTags form.rest).2 <:+ Text.trimEnd isLineCut line ++ [' '] :=
    htext ▸ (readTags_suffix form.rest).trans form.rest_suffix
  refine Task.parse?_eq_some_iff.mpr ⟨form.keyword, form.rest, hread, fun hn => ?_, rfl⟩
  have hmem := hsuffix.subset hn
  simp [hline] at hmem

/-- A line without a line feed, but for line ends at its end, is a task line exactly if it has the
    parts of one. It has them in one way only; they give the keyword, the tags are the longest run
    of tag words behind them, and the description is what remains, trimmed. -/
theorem task_lines_are_those_of_the_grammar (line : Text)
    (h : '\n' ∉ Text.trimEnd isLineCut line) :
    (Task.parse? line ≠ none ↔
      ∃ form : LineForm, form.WellFormed ∧ form.text = Text.trimEnd isLineCut line ++ [' ']) ∧
    (∀ form form' : LineForm, form.WellFormed → form'.WellFormed →
      form.text = Text.trimEnd isLineCut line ++ [' '] →
      form'.text = Text.trimEnd isLineCut line ++ [' '] → form = form') ∧
    ∀ form : LineForm, form.WellFormed →
      form.text = Text.trimEnd isLineCut line ++ [' '] →
      (∃ tags after, LongestTagWords form.rest tags after) ∧
      ∀ tags after, LongestTagWords form.rest tags after →
        Task.parse? line =
          some { keyword := form.keyword, tags, description := Text.trim isBlank after } := by
  refine ⟨⟨?_, ?_⟩, ?_, ?_⟩
  · intro hsome
    obtain ⟨task, htask⟩ := Option.ne_none_iff_exists'.mp hsome
    obtain ⟨keyword, rest, hread, -⟩ := Task.parse?_eq_some_iff.mp htask
    obtain ⟨form, hform, htext, -⟩ := readKeyword?_dropBullet_iff.mp hread
    exact ⟨form, hform, htext⟩
  · rintro ⟨form, hform, htext⟩
    simp [hform.parse?_eq htext h]
  · intro form form' hform hform' htext htext'
    exact LineForm.eq_of_text_eq hform hform' (htext.trans htext'.symm)
  · intro form hform htext
    refine ⟨⟨_, _, longestTagWords_readTags hform.rest⟩, fun tags after hlongest => ?_⟩
    obtain ⟨htags, hafter⟩ := hlongest.readTags_eq hform.rest
    rw [hform.parse?_eq htext h, htags, hafter, Text.trim_dropWhile]

theorem task_lines_are_those_of_the_grammar_near_miss :
    '\n' ∉ Text.trimEnd isLineCut "\t* DO: due:1-2 x:y: go\r\n" ∧
      ∃ (form : LineForm) (tags : Tags) (after : Text), form.WellFormed ∧
        form.text = "\t* DO: due:1-2 x:y: go " ∧ LongestTagWords form.rest tags after ∧
        Task.parse? "\t* DO: due:1-2 x:y: go\r\n" =
          some { keyword := form.keyword, tags, description := Text.trim isBlank after } ∧
        form.keyword = .act ∧ tags = [(("due" : Text), ("1-2" : Text))] ∧
        Text.trim isBlank after = "x:y: go" := by
  have hline : '\n' ∉ Text.trimEnd isLineCut "\t* DO: due:1-2 x:y: go\r\n" := by decide +kernel
  have hparse : Task.parse? "\t* DO: due:1-2 x:y: go\r\n" =
      some { keyword := .act, tags := [("due", "1-2")], description := "x:y: go" } := by
    decide +kernel
  have htrim : Text.trimEnd isLineCut "\t* DO: due:1-2 x:y: go\r\n" ++ [' '] =
      "\t* DO: due:1-2 x:y: go " := by
    decide +kernel
  obtain ⟨hsome, -, hread⟩ := task_lines_are_those_of_the_grammar _ hline
  obtain ⟨form, hform, htext⟩ := hsome.mp (hparse ▸ Option.some_ne_none _)
  obtain ⟨⟨tags, after, hlongest⟩, htask⟩ := hread form hform htext
  have heq := hparse.symm.trans (htask tags after hlongest)
  simp only [Option.some.injEq, Task.mk.injEq] at heq
  obtain ⟨hkeyword, htags, hafter, -⟩ := heq
  exact ⟨hline, form, tags, after, hform, htext.trans htrim, hlongest, htask tags after hlongest,
    hkeyword.symm, htags.symm, hafter.symm⟩

end Taskbook
