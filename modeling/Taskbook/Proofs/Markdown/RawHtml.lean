/-
  Blocks of raw HTML. A tag at the head of a line opens one wherever a block may begin
  (`opening?_tag`), and that of an element like `div` takes the lines up to the next empty one
  (`take_blockTag`). So lines none of which is empty, with an empty line or nothing behind them, are
  one block, as they stand (`readHtmlUntilBlank_lines`). A page that is one such block is passed on
  unchanged (`render_block`), with or without the end of its last line (`render_blockTag`).
-/
import Taskbook.Markdown.Html
import Taskbook.Proofs.Text.Trim

namespace Taskbook.Markdown

/-! ## Lines -/

variable {line rest : Text}

theorem takeWhile_line (h : '\n' ∉ line) :
    (line ++ '\n' :: rest).takeWhile (· ≠ '\n') = line := by
  refine Text.takeWhile_append (fun c hc => ?_) (Text.startsOutside_cons.mpr (by simp))
  rw [decide_eq_true_eq]
  rintro rfl
  exact h hc

theorem dropWhile_line (h : '\n' ∉ line) :
    (line ++ '\n' :: rest).dropWhile (· ≠ '\n') = '\n' :: rest := by
  refine Text.dropWhile_append (fun c hc => ?_) (Text.startsOutside_cons.mpr (by simp))
  rw [decide_eq_true_eq]
  rintro rfl
  exact h hc

theorem cutLine_append (h : '\n' ∉ line) : cutLine (line ++ '\n' :: rest) = (line, rest) := by
  unfold cutLine
  rw [takeWhile_line h, dropWhile_line h]
  rfl

theorem takeLine_append (h : '\n' ∉ line) :
    takeLine (line ++ '\n' :: rest) = (line ++ ['\n'], rest) := by
  unfold takeLine
  rw [dropWhile_line h, takeWhile_line h]

/-- Lines that are taken, before one that is not or the end of the text. -/
theorem takeLines_flatMap {keep : Text → Bool} {parts : List Text}
    (hparts : ∀ part ∈ parts, '\n' ∉ part ∧ keep part = true)
    (hrest : rest = [] ∨ keep (cutLine rest).1 = false) :
    takeLines keep (parts.flatMap (· ++ ['\n']) ++ rest) =
      (parts.flatMap (· ++ ['\n']), rest) := by
  induction parts with
  | nil =>
    rw [List.flatMap_nil, List.nil_append, takeLines]
    rcases hrest with rfl | hstop
    · rfl
    · split
      · next hnil => rw [hnil]
      · rw [if_neg (by rw [hstop]; exact Bool.false_ne_true)]
  | cons part parts ih =>
    obtain ⟨⟨hline, hkeep⟩, hparts⟩ := List.forall_mem_cons.mp hparts
    have htext : (part :: parts).flatMap (· ++ ['\n']) ++ rest =
        part ++ '\n' :: (parts.flatMap (· ++ ['\n']) ++ rest) := by
      simp
    rw [htext, takeLines, dif_neg (by simp), cutLine_append hline, if_pos hkeep,
      takeLine_append hline, ih hparts]
    rfl

/-! ## What a tag opens -/

theorem unindent?_of_head {c : Char} (hc : c ≠ ' ') (n : Nat) (s : Text) :
    unindent? n (c :: s) = some (c :: s) := by
  unfold unindent? dropIndent
  simp [hc]

theorem underline?_tag (s : Text) : underline? ('<' :: s) = none := by
  obtain ⟨gap, hgap, hall⟩ := Text.exists_trimEnd isGap ('<' :: s)
  have hmem : '<' ∈ Text.trimEnd isGap ('<' :: s) := by
    have hin : '<' ∈ Text.trimEnd isGap ('<' :: s) ++ gap := hgap ▸ List.mem_cons_self
    rcases List.mem_append.mp hin with hin | hin
    · exact hin
    · exact absurd (hall _ hin) (by decide)
  have hmarks : ¬ (Text.trimEnd isGap ('<' :: s)).all (fun c => c = '=' || c = '-') = true :=
    fun hmarks => absurd (List.all_eq_true.mp hmarks _ hmem) (by decide)
  unfold underline?
  rw [unindent?_of_head (by decide)]
  exact if_neg hmarks

/-- A tag at the head of a line opens a block of HTML, and nothing else does before. -/
theorem opening?_tag {c : Char} {s : Text} {reading : Reading} (hrest : reading.rest = '<' :: c :: s)
    (hc : isAsciiLetter c = true) (rules : Rules) :
    ∃ read, readElementName? (c :: s) = some read ∧
      opening? rules reading = some (.html (.openTag read.1) read.2) := by
  obtain ⟨read, hread⟩ : ∃ read, readElementName? (c :: s) = some read :=
    ⟨_, if_pos hc⟩
  refine ⟨read, hread, ?_⟩
  have hmark : htmlMark? ('<' :: c :: s) = some (.openTag read.1, read.2) := by
    have hletter : c ≠ '/' ∧ c ≠ '?' ∧ c ≠ '!' := by
      refine ⟨?_, ?_, ?_⟩ <;> rintro rfl <;> exact absurd hc (by decide)
    unfold htmlMark?
    split
    · next heq => cases heq; exact absurd rfl hletter.1
    · next heq => cases heq; exact absurd rfl hletter.2.1
    · next heq => cases heq; exact absurd rfl hletter.2.2
    · next heq => cases heq; rw [hread]; rfl
    · next hnone => exact absurd rfl (hnone _)
  have hline : ∃ line, (cutLine ('<' :: c :: s)).1 = '<' :: line :=
    ⟨(c :: s).takeWhile (· ≠ '\n'), rfl⟩
  obtain ⟨line, hline⟩ := hline
  have hunindent : unindent? 3 ('<' :: c :: s) = some ('<' :: c :: s) :=
    unindent?_of_head (by decide) 3 _
  have hfence : fence? 3 ('<' :: line) = none := rfl
  have hindented : isIndented ('<' :: line) = false := by
    simp [isIndented]
  have hheading : heading? 3 ('<' :: line) = none := rfl
  have hseparates : separates 3 ('<' :: line) = false := rfl
  have hquoted : quoted? 3 ('<' :: line) = none := rfl
  have hitem : itemMark? 3 ('<' :: line) = none := by
    have hdigit : isDigit '<' = false := by decide
    simp [itemMark?, dropIndent, hdigit]
  have hdefinition : definition? ('<' :: c :: s) = none := rfl
  have hopening : htmlOpening? 3 ('<' :: c :: s) = some (.html (.openTag read.1) read.2) := by
    unfold htmlOpening?
    rw [hunindent]
    simp [hmark]
  unfold opening?
  dsimp only
  rw [hrest, hline, hfence, hindented, hheading, underline?_tag, hseparates, hquoted, hitem,
    hdefinition, hopening]
  simp

/-! ## What the block takes -/

variable {reading : Reading}

theorem take_blockTag {name after : Text} (hblock : blockElements.contains (Text.asciiLower name))
    (hopen : ¬ verbatimElements.contains (Text.asciiLower name)) (readBody : ReadBody)
    (budget : Nat) :
    take readBody (budget + 1) (.html (.openTag name) after) reading =
      some (readHtmlUntilBlank reading) := by
  unfold take readHtml?
  dsimp only
  rw [if_neg hopen, if_pos hblock]

/-- As a list of characters the names need not be decoded. -/
theorem contains_words_ofList {chars name : Text} (h : (Text.words chars).contains name = true) :
    (Text.words (String.ofList chars).toList).contains name = true := by
  rwa [String.toList_ofList]

set_option maxRecDepth 4000 in
theorem blockElements_div : blockElements.contains (Text.asciiLower "div") = true :=
  contains_words_ofList (by decide +kernel)

set_option maxRecDepth 4000 in
theorem blockElements_h1 : blockElements.contains (Text.asciiLower "H1") = true :=
  contains_words_ofList (by decide +kernel)

theorem verbatimElements_div : ¬ verbatimElements.contains (Text.asciiLower "div") = true := by
  decide +kernel

/-- The block ends at an empty line or with the text. -/
theorem readHtmlUntilBlank_lines {parts : List Text} {tail : Text}
    (hrest : reading.rest = parts.flatMap (· ++ ['\n']) ++ tail)
    (hparts : ∀ part ∈ parts, '\n' ∉ part ∧ part.all isVoid = false)
    (htail : tail = [] ∨ tail.head? = some '\n') :
    readHtmlUntilBlank reading = reading.push (.html (parts.flatMap (· ++ ['\n']))) tail := by
  have hkept : ∀ part ∈ parts, '\n' ∉ part ∧ (!part.all isVoid) = true :=
    fun part hpart => ⟨(hparts part hpart).1, by rw [(hparts part hpart).2]; rfl⟩
  have hstop : tail = [] ∨ (!(cutLine tail).1.all isVoid) = false := by
    refine htail.imp_right fun hhead => ?_
    obtain ⟨after, rfl⟩ := List.head?_eq_some_iff.mp hhead
    rfl
  unfold readHtmlUntilBlank
  rw [hrest, takeLines_flatMap hkept hstop]

/-! ## A page of one block -/

theorem unixNewlines_of_notMem {s : Text} (h : '\r' ∉ s) : Text.unixNewlines s = s := by
  induction s with
  | nil => rfl
  | cons c s ih =>
    simp only [List.mem_cons, not_or] at h
    rw [Text.unixNewlines, ih h.2]
    · rintro rest rfl
      exact absurd rfl h.1
    · rintro rfl
      exact absurd rfl h.1

/-- A document ends with a block that takes all of it. -/
theorem readBlocks_block {take : Take} {rules : Rules} {opening : Opening} {after : Reading}
    (hrest : reading.rest ≠ []) (hopening : opening? rules reading = some opening)
    (htake : take opening reading = some after) (hafter : after.rest = []) (budget : Nat) :
    readBlocks take rules (budget + 1) reading = after := by
  have hnone : ¬ reading.rest.isEmpty = true := by rwa [List.isEmpty_iff]
  have hdone : readBlocks take rules budget after = after := by
    cases budget with
    | zero => rw [readBlocks]
    | succ budget =>
      rw [readBlocks, hafter]
      exact if_pos rfl
  rw [readBlocks, if_neg hnone, hopening, Option.bind_some, htake, Option.getD_some, hdone]

/-- The name of a tag ends with its line. -/
theorem readElementName?_concat {s : Text} {read : Text × Text}
    (h : readElementName? (s ++ ['\n']) = some read) :
    ∃ more, readElementName? s = some (read.1, more) := by
  have hname : ∀ s : Text, (s ++ ['\n']).takeWhile (fun d => isAsciiAlnum d || d = '-') =
      s.takeWhile (fun d => isAsciiAlnum d || d = '-') := by
    intro s
    induction s with
    | nil => rfl
    | cons d s ih =>
      rw [List.cons_append, List.takeWhile_cons, List.takeWhile_cons, ih]
  cases s with
  | nil => cases h
  | cons c s =>
    unfold readElementName? at h ⊢
    dsimp only [List.cons_append] at h
    split at h
    · next hc =>
      dsimp only
      rw [← Option.some.inj h, if_pos hc]
      exact ⟨_, congrArg (fun name => some (name, _)) (hname (c :: s)).symm⟩
    · cases h

theorem writeAll_html (targets : Targets) (s : Text) :
    Block.writeAll targets [.html s] = s ++ ['\n'] :=
  List.append_nil _

theorem render_eq (s : Text) : render s = Block.writeAll (read s).2 (read s).1 := rfl

/-- A page of lines that are read as one block of HTML is that block. -/
theorem render_block {s : Text} (hreturn : '\r' ∉ s) (hlast : s.getLast? = some '\n')
    (hread : ∀ (reading : Reading) (readBody : ReadBody), reading.rest = s →
      ∃ opening, opening? { tables := true } reading = some opening ∧
        take readBody (s.length + 1) opening reading = some (reading.push (.html s) [])) :
    render s = s ++ ['\n'] := by
  have hne : s ≠ [] := by
    rintro rfl
    cases hlast
  obtain ⟨length, hlength⟩ := Nat.exists_eq_succ_of_ne_zero (mt List.length_eq_zero_iff.mp hne)
  have hblocks : read s = ([.html s], []) := by
    obtain ⟨opening, hopening, htake⟩ :=
      hread { rest := s, targets := [], depth := 0 } (readNested s.length) rfl
    have hdone := readBlocks_block hne hopening htake rfl length
    unfold read
    dsimp only
    rw [unixNewlines_of_notMem hreturn, if_pos hlast, readNested]
    dsimp only
    rw [hlength] at hdone ⊢
    rw [hdone]
    rfl
  rw [render_eq, hblocks, writeAll_html]

/-- A line end is put behind a last line that has none. -/
theorem render_concat {s : Text} (hreturn : '\r' ∉ s) (hlast : ¬ s.getLast? = some '\n') :
    render (s ++ ['\n']) = render s := by
  have hboth : '\r' ∉ s ++ ['\n'] := List.not_mem_append hreturn (by decide)
  have hread : read (s ++ ['\n']) = read s := by
    unfold read
    dsimp only
    rw [unixNewlines_of_notMem hreturn, unixNewlines_of_notMem hboth, if_neg hlast,
      if_pos List.getLast?_concat]
  rw [render_eq, render_eq, hread]

/-- A line that starts with the tag of a block is the page's HTML, whatever stands behind the name
    in the tag. -/
theorem render_blockTag {c : Char} {s name more : Text} (hc : isAsciiLetter c = true)
    (hline : '\n' ∉ c :: s ∧ '\r' ∉ c :: s)
    (hname : readElementName? (c :: s) = some (name, more))
    (hblock : blockElements.contains (Text.asciiLower name) = true)
    (hopen : ¬ verbatimElements.contains (Text.asciiLower name) = true) :
    render ('<' :: c :: s) = '<' :: c :: s ++ "\n\n" := by
  have hfeed : '\n' ∉ '<' :: c :: s := List.not_mem_cons_of_ne_of_not_mem (by decide) hline.1
  have hreturn : '\r' ∉ '<' :: c :: s := List.not_mem_cons_of_ne_of_not_mem (by decide) hline.2
  have hlast : ¬ ('<' :: c :: s).getLast? = some '\n' :=
    fun h => hfeed (List.mem_of_getLast? h)
  have hlines : '<' :: c :: s ++ ['\n'] = ['<' :: c :: s].flatMap (· ++ ['\n']) ++ [] := by
    simp
  have hpart : ∀ part ∈ ['<' :: c :: s], '\n' ∉ part ∧ part.all isVoid = false := by
    intro part hmem
    rw [List.mem_singleton.mp hmem]
    exact ⟨hfeed, rfl⟩
  have hended : render ('<' :: c :: s ++ ['\n']) = '<' :: c :: s ++ ['\n'] ++ ['\n'] := by
    refine render_block (List.not_mem_append hreturn (by decide)) List.getLast?_concat
      fun reading readBody hrest => ?_
    obtain ⟨found, hfound, hopening⟩ := opening?_tag hrest hc { tables := true }
    obtain ⟨behind, hsame⟩ := readElementName?_concat (s := c :: s) hfound
    obtain ⟨rfl, -⟩ := Prod.mk.inj (Option.some.inj (hname.symm.trans hsame))
    refine ⟨_, hopening, ?_⟩
    rw [take_blockTag hblock hopen,
      readHtmlUntilBlank_lines (hrest.trans hlines) hpart (Or.inl rfl)]
    simp
  rw [← render_concat hreturn hlast, hended, List.append_assoc]
  rfl

end Taskbook.Markdown
