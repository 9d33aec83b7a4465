/-
  Printing a task and reading it back. A task is well formed (`Task.WellFormed`) if its tags can
  stand on a line and its description is a trimmed line that does not start like a tag. Reading
  gives well-formed tasks only (`wellFormed_of_parse?`), and from the line a well-formed task is
  printed as it gives the task back (`parse?_print`).
-/
import Taskbook.Proofs.Task.Tag

namespace Taskbook

/-- The text starts with a tag that ends it or has a blank behind it. -/
def StartsWithTag (s : Text) : Prop :=
  ∃ tag rest, TagForm tag ∧ s = tagText tag ++ rest ∧
    ∀ c, rest.head? = some c → isBlank c = true

/-- A task that can stand on a line. -/
structure Task.WellFormed (task : Task) : Prop where
  tags : task.tags.WellFormed
  trimmed : Text.trim isBlank task.description = task.description
  oneLine : '\n' ∉ task.description
  untagged : ¬ StartsWithTag task.description

theorem isBlank_of_isLineCut {c : Char} (h : isLineCut c = true) : isBlank c = true := by
  rcases Bool.or_eq_true_iff.mp h with h | h <;> rw [of_decide_eq_true h] <;> decide

theorem Task.parse?_eq_some_iff {line : Text} {task : Task} :
    Task.parse? line = some task ↔
      ∃ keyword rest, readKeyword? (dropBullet
          ((Text.trimEnd isLineCut line ++ [' ']).dropWhile isBlank)) = some (keyword, rest) ∧
        '\n' ∉ (readTags rest).2 ∧
        task = { keyword, tags := (readTags rest).1
                 description := Text.trim isBlank (readTags rest).2 } := by
  unfold Task.parse?
  dsimp only
  cases readKeyword? (dropBullet ((Text.trimEnd isLineCut line ++ [' ']).dropWhile isBlank)) with
  | none => simp
  | some found =>
    obtain ⟨keyword, rest⟩ := found
    by_cases hn : '\n' ∈ (readTags rest).2
    · simp [hn]
    · simp [hn, eq_comm]

/-! ## Reading gives well-formed tasks -/

theorem dropColon_suffix (s : Text) : dropColon s <:+ s := by
  unfold dropColon
  split
  · exact List.suffix_cons _ _
  · exact List.suffix_rfl

theorem Keyword.suffix_of_read? {keyword : Keyword} {s rest : Text}
    (h : keyword.read? s = some rest) : rest <:+ s ∧ Text.StartsOutside isBlank rest := by
  unfold Keyword.read? at h
  split at h
  · cases h
  · next after hafter =>
    obtain rfl := Text.dropPrefix?_eq_some_iff.mp hafter
    split at h
    · cases h
    · next c tail htail =>
      split at h
      · obtain rfl := Option.some.inj h
        have htail' : c :: tail <:+ after := htail ▸ dropColon_suffix after
        exact ⟨((List.dropWhile_suffix _).trans (List.suffix_cons c tail)).trans
          (htail'.trans (List.suffix_append _ _)), Text.startsOutside_dropWhile _ _⟩
      · cases h

theorem suffix_of_readKeyword? {s rest : Text} {keyword : Keyword}
    (h : readKeyword? s = some (keyword, rest)) :
    rest <:+ s ∧ Text.StartsOutside isBlank rest := by
  obtain ⟨_, _, hread⟩ := List.exists_of_findSome?_eq_some h
  obtain ⟨_, hrest, heq⟩ := Option.map_eq_some_iff.mp hread
  obtain ⟨_, rfl⟩ := Prod.mk.inj heq
  exact Keyword.suffix_of_read? hrest

theorem dropBullet_suffix (s : Text) : dropBullet s <:+ s := by
  unfold dropBullet
  split
  · next c rest =>
    split
    · exact ((List.dropWhile_suffix _).trans (List.suffix_cons c rest)).trans
        (List.suffix_cons '*' _)
    · exact List.suffix_rfl
  · exact List.suffix_rfl

theorem readTags_suffix (s : Text) : (readTags s).2 <:+ s := by
  refine readTags_induction (P := (· <:+ s)) (fun {t rest tag} ht hread => ?_) List.suffix_rfl
  obtain ⟨_, c, tail, _, rfl, rfl⟩ := readTag?_eq_some_iff.mp hread
  exact ((List.dropWhile_suffix _).trans (List.suffix_cons c tail)).trans
    ((List.suffix_append _ _).trans ht)

theorem readTags_startsOutside {s : Text} (h : Text.StartsOutside isBlank s) :
    Text.StartsOutside isBlank (readTags s).2 := by
  refine readTags_induction (fun _ hread => ?_) h
  obtain ⟨_, _, tail, _, _, rfl⟩ := readTag?_eq_some_iff.mp hread
  exact Text.startsOutside_dropWhile _ _

/-- What is left behind all tags, and ends in a blank, does not start with a tag when trimmed. -/
theorem not_startsWithTag_trim {s : Text} (hstart : Text.StartsOutside isBlank s)
    (hend : ∀ c, s.getLast? = some c → isBlank c = true) (hnone : readTag? s = none) :
    ¬ StartsWithTag (Text.trim isBlank s) := by
  rintro ⟨tag, rest, hform, hrest, hboundary⟩
  rw [Text.trim, Text.dropWhile_eq_self hstart] at hrest
  obtain ⟨gap, hgap, hblank⟩ := Text.exists_trimEnd isBlank s
  rw [hrest, List.append_assoc] at hgap
  have hread : ∀ c tail, rest ++ gap = c :: tail → isBlank c = true → False := by
    intro c tail htail hc
    rw [hgap, htail, readTag?_of_form hform hc] at hnone
    cases hnone
  cases rest with
  | cons c rest => exact hread c _ rfl (hboundary c rfl)
  | nil =>
    cases gap with
    | cons c gap => exact hread c _ rfl (hblank c List.mem_cons_self)
    | nil =>
      -- Without a gap the text would end as the tag does, in no blank.
      obtain rfl : s = tagText tag := by simpa using hgap
      have hlast := List.getLast?_eq_some_getLast (l := tagText tag) (by simp [tagText])
      have hout := hform.endsOutside _ hlast
      simp [hend _ hlast] at hout

/-- What is left behind the tags of a line is its end, with the blank that is put behind it. -/
theorem readTags_suffix_line {line rest : Text} {keyword : Keyword}
    (h : readKeyword? (dropBullet
      ((Text.trimEnd isLineCut line ++ [' ']).dropWhile isBlank)) = some (keyword, rest)) :
    (readTags rest).2 <:+ Text.trimEnd isLineCut line ++ [' '] :=
  (readTags_suffix rest).trans
    ((suffix_of_readKeyword? h).1.trans ((dropBullet_suffix _).trans (List.dropWhile_suffix _)))

theorem wellFormed_of_parse? {line : Text} {task : Task} (h : Task.parse? line = some task) :
    task.WellFormed := by
  obtain ⟨keyword, rest, hkeyword, hline, rfl⟩ := Task.parse?_eq_some_iff.mp h
  have hstart : Text.StartsOutside isBlank rest := (suffix_of_readKeyword? hkeyword).2
  have hall := readTags_suffix_line hkeyword
  refine ⟨wellFormed_readTags _, Text.trim_trim _ _,
    fun hn => hline (Text.trim_subset _ _ hn), ?_⟩
  refine not_startsWithTag_trim (readTags_startsOutside hstart) (fun c hc => ?_)
    (readTag?_readTags rest)
  -- The blank put behind the line is the last character of whatever is left of it.
  rcases List.suffix_concat_iff.mp hall with hnil | ⟨init, hinit, _⟩
  · simp [hnil] at hc
  · obtain rfl : ' ' = c := by simpa [hinit] using hc
    decide

/-! ## Printing and reading -/

/-- The description with a blank behind it, unless it is empty. -/
def Task.endText (task : Task) : Text :=
  if task.description = [] then [] else task.description ++ [' ']

/-- What stands behind the keyword and a blank, with a blank at the end. -/
def Task.bodyText (task : Task) : Text :=
  task.tags.flatMap (fun tag => tagText tag ++ [' ']) ++ task.endText

theorem join_append_sep (sep : Text) {parts : List Text} (h : parts ≠ []) :
    Text.join sep parts ++ sep = parts.flatMap (· ++ sep) := by
  induction parts with
  | nil => exact absurd rfl h
  | cons part rest ih =>
    cases rest with
    | nil => simp [Text.join]
    | cons next more =>
      rw [Text.join, List.intercalate_cons_cons, List.flatMap_cons, ← ih (by simp)]
      simp [Text.join]

theorem endsOutside_join {p : Char → Bool} (sep : Text) {parts : List Text}
    (h : ∀ part ∈ parts, part ≠ [] ∧ Text.EndsOutside p part) :
    Text.EndsOutside p (Text.join sep parts) := by
  induction parts with
  | nil => nofun
  | cons part rest ih =>
    have hpart := h part List.mem_cons_self
    cases rest with
    | nil => simpa [Text.join] using hpart.2
    | cons next more =>
      have hnext := h next (List.mem_cons_of_mem _ List.mem_cons_self)
      have hne : Text.join sep (next :: more) ≠ [] := by
        cases more <;> simp [Text.join, hnext.1]
      rw [Text.join, List.intercalate_cons_cons]
      exact (ih fun other hother => h other (List.mem_cons_of_mem _ hother)).append hne

theorem Task.print_append_blank (task : Task) :
    task.print ++ [' '] = task.keyword.word ++ ' ' :: task.bodyText := by
  rw [print, join_append_sep _ (by simp)]
  by_cases hd : task.description = []
  · simp [hd, bodyText, endText, tagText, List.flatMap_map]
  · simp [hd, bodyText, endText, tagText, List.flatMap_map]

theorem Keyword.word_ne_nil (keyword : Keyword) : keyword.word ≠ [] := by
  cases keyword <;> decide

theorem Keyword.word_not_blank (keyword : Keyword) : ∀ c ∈ keyword.word, isBlank c = false := by
  have hall : keyword.word.all (fun c => !isBlank c) = true := by cases keyword <;> decide
  simpa using hall

theorem Task.WellFormed.endsOutside_print {task : Task} (h : task.WellFormed) :
    Text.EndsOutside isBlank task.print := by
  refine endsOutside_join _ fun part hpart => ?_
  simp only [List.mem_append, List.mem_cons, List.mem_map] at hpart
  rcases hpart with (rfl | ⟨tag, htag, rfl⟩) | hpart
  · exact ⟨task.keyword.word_ne_nil, Text.endsOutside_of_forall task.keyword.word_not_blank⟩
  · exact ⟨by simp, (h.tags tag htag).endsOutside⟩
  · split at hpart
    · cases hpart
    · next hd =>
      obtain rfl := List.mem_singleton.mp hpart
      exact ⟨hd, (Text.trim_eq_self_iff.mp h.trimmed).2⟩

theorem readKeyword?_word (keyword : Keyword) (rest : Text) :
    readKeyword? (keyword.word ++ ' ' :: rest) = some (keyword, rest.dropWhile isBlank) := by
  cases keyword <;> rfl

/-- A keyword is no bullet. -/
theorem dropBullet_word (keyword : Keyword) (rest : Text) :
    dropBullet (keyword.word ++ rest) = keyword.word ++ rest := by
  cases keyword <;> rfl

theorem readTag?_of_untagged {s : Text} (h : ¬ StartsWithTag s) : readTag? (s ++ [' ']) = none := by
  cases hread : readTag? (s ++ [' ']) with
  | none => rfl
  | some found =>
    obtain ⟨hform, c, tail, hc, hs, -⟩ := readTag?_eq_some_iff.mp hread
    refine absurd ⟨found.1, (c :: tail).dropLast, hform, ?_, fun d hd => ?_⟩ h
    · rw [← List.dropLast_append_of_ne_nil (by simp), ← hs, List.dropLast_concat]
    · cases tail with
      | nil => cases hd
      | cons next more =>
        obtain rfl := Option.some.inj hd
        exact hc

namespace Task.WellFormed

variable {task : Task}

theorem startsOutside_endText (h : task.WellFormed) : Text.StartsOutside isBlank task.endText := by
  unfold endText
  split
  · exact Text.startsOutside_nil
  · next hd => exact (Text.trim_eq_self_iff.mp h.trimmed).1.append hd

theorem readTag?_endText (h : task.WellFormed) : readTag? task.endText = none := by
  unfold endText
  split
  · rfl
  · exact readTag?_of_untagged h.untagged

theorem trim_endText (h : task.WellFormed) : Text.trim isBlank task.endText = task.description := by
  unfold endText
  split
  · next hd => rw [hd]; rfl
  · next hd =>
    obtain ⟨hstart, hend⟩ := Text.trim_eq_self_iff.mp h.trimmed
    rw [Text.trim, Text.dropWhile_eq_self (hstart.append hd), Text.trimEnd_concat (by decide),
      Text.trimEnd_eq_self hend]

theorem newline_notMem_endText (h : task.WellFormed) : '\n' ∉ task.endText := by
  unfold endText
  split
  · exact List.not_mem_nil
  · simpa using h.oneLine

theorem readTags_bodyText (h : task.WellFormed) :
    readTags task.bodyText = (task.tags, task.endText) :=
  readTags_append h.tags h.startsOutside_endText h.readTag?_endText

theorem startsOutside_bodyText (h : task.WellFormed) :
    Text.StartsOutside isBlank task.bodyText := by
  unfold bodyText
  cases htags : task.tags with
  | nil => exact h.startsOutside_endText
  | cons tag more =>
    have hform := h.tags tag (htags ▸ List.mem_cons_self)
    simpa [List.append_assoc] using hform.startsOutside _

end Task.WellFormed

/-- A well-formed task is read back from the line it is printed as, without its origin. -/
theorem parse?_print {task : Task} (h : task.WellFormed) :
    Task.parse? task.print = some { task with origin := none } := by
  have hcut : Text.trimEnd isLineCut task.print = task.print :=
    Text.trimEnd_eq_self (h.endsOutside_print.mono fun _ => isBlank_of_isLineCut)
  have hword : Text.StartsOutside isBlank (task.keyword.word ++ ' ' :: task.bodyText) :=
    (Text.startsOutside_of_forall task.keyword.word_not_blank).append task.keyword.word_ne_nil
  refine Task.parse?_eq_some_iff.mpr ⟨task.keyword, task.bodyText, ?_, ?_, ?_⟩
  · rw [hcut, task.print_append_blank, Text.dropWhile_eq_self hword, dropBullet_word,
      readKeyword?_word, Text.dropWhile_eq_self h.startsOutside_bodyText]
  · rw [h.readTags_bodyText]
    exact h.newline_notMem_endText
  · rw [h.readTags_bodyText, h.trim_endText]

theorem Task.print_one_tag (keyword : Keyword) (tag : Text × Text) :
    Task.print { keyword, tags := [tag] } = keyword.word ++ ' ' :: tagText tag := by
  simp [print, Text.join, tagText]

theorem Task.print_without_tags (keyword : Keyword) {description : Text} (h : description ≠ []) :
    Task.print { keyword, description } = keyword.word ++ ' ' :: description := by
  simp [print, Text.join, h]

/-- A keyword and one tag, and nothing else, are read as just that. -/
theorem parse?_one_tag (keyword : Keyword) {tag : Text × Text} (h : TagForm tag) :
    Task.parse? (keyword.word ++ ' ' :: tagText tag) = some { keyword, tags := [tag] } := by
  have hform : Task.WellFormed { keyword, tags := [tag] } :=
    { tags := by
        intro other hother
        rwa [List.mem_singleton.mp hother]
      trimmed := rfl
      oneLine := List.not_mem_nil
      untagged := by
        rintro ⟨other, rest, hother, hempty, -⟩
        exact hother.key_ne_nil (List.append_eq_nil_iff.mp
          (List.append_eq_nil_iff.mp hempty.symm).1).1 }
  rw [← Task.print_one_tag keyword tag, parse?_print hform]

end Taskbook
