/-
  Lines replaced by lines.

  A replacement puts some lines, with an empty one behind them, in the place of a line. Joining the
  lines and reading them again loses one empty line at the end and nothing else (`lines_join`). So
  what comes of replacements is said by lists of lines: of one (`lines_apply`), of two behind each
  other, each of which leaves alone what the other puts (`lines_apply_apply`), and of one more on
  lines that are replaced by neither (`lines_apply_of_settled`). The empty line that a replacement
  loses is its only effect on the lines that it leaves alone (`kept_sublist`).
-/
import Mathlib.Data.List.Basic
import Taskbook.Proofs.Text.Lines

namespace Taskbook.Text

variable {line part : Text} {parts lines₀ : List Text}

/-! ## Joined lines -/

/-- Lines without an empty one at the end. -/
def dropEmptyEnd (lines : List Text) : List Text :=
  if lines.getLast? = some [] then lines.dropLast else lines

theorem dropEmptyEnd_concat_nil (lines : List Text) : dropEmptyEnd (lines ++ [[]]) = lines := by
  unfold dropEmptyEnd
  rw [List.getLast?_concat, if_pos rfl, List.dropLast_concat]

theorem dropEmptyEnd_concat (lines : List Text) (h : line ≠ []) :
    dropEmptyEnd (lines ++ [line]) = lines ++ [line] := by
  unfold dropEmptyEnd
  rw [List.getLast?_concat, if_neg (by simpa using h)]

theorem dropEmptyEnd_cons_cons (first second : Text) (rest : List Text) :
    dropEmptyEnd (first :: second :: rest) = first :: dropEmptyEnd (second :: rest) := by
  unfold dropEmptyEnd
  rw [List.getLast?_cons_cons, List.dropLast_cons_cons]
  split <;> rfl

theorem dropEmptyEnd_sublist (lines : List Text) : (dropEmptyEnd lines).Sublist lines := by
  unfold dropEmptyEnd
  split
  · exact List.dropLast_sublist lines
  · exact List.Sublist.refl lines

/-- Lines that are joined are read again, but for an empty one at the end. -/
theorem lines_join (h : ∀ part ∈ parts, OneLine part) :
    lines (join ['\n'] parts) = dropEmptyEnd parts := by
  induction parts with
  | nil => rfl
  | cons part rest ih =>
    obtain ⟨hpart, hrest⟩ := List.forall_mem_cons.mp h
    cases rest with
    | nil =>
      rw [join_singleton, lines_of_oneLine hpart]
      by_cases hnil : part = []
      · subst hnil
        rfl
      · rw [if_neg hnil]
        exact (dropEmptyEnd_concat [] hnil).symm
    | cons next rest =>
      rw [join_cons_cons, List.append_assoc, List.singleton_append, lines_append_newline hpart,
        ih hrest, dropEmptyEnd_cons_cons]

theorem join_append {sep : Text} {more : List Text} (hparts : parts ≠ []) (hmore : more ≠ []) :
    join sep (parts ++ more) = join sep parts ++ sep ++ join sep more := by
  induction parts with
  | nil => exact absurd rfl hparts
  | cons part rest ih =>
    cases rest with
    | nil =>
      obtain ⟨next, others, rfl⟩ := List.exists_cons_of_ne_nil hmore
      rw [List.singleton_append, join_cons_cons, join_singleton]
    | cons next rest =>
      rw [List.cons_append, List.cons_append, join_cons_cons, join_cons_cons, ← List.cons_append,
        ih (List.cons_ne_nil _ _)]
      simp only [List.append_assoc]

/-- Texts that are joined from lines are joined to the same as all their lines. -/
theorem join_flatMap {α : Type} {sep : Text} {f : α → List Text} (hf : ∀ a, f a ≠ [])
    (l : List α) : join sep (l.map fun a => join sep (f a)) = join sep (l.flatMap f) := by
  induction l with
  | nil => rfl
  | cons a rest ih =>
    cases rest with
    | nil => rw [List.map_singleton, join_singleton, List.flatMap_singleton]
    | cons b rest =>
      have hmore : (b :: rest).flatMap f ≠ [] := by
        rw [List.flatMap_cons]
        exact List.append_ne_nil_of_left_ne_nil (hf b) _
      rw [List.flatMap_cons, join_append (hf a) hmore, ← ih]
      exact join_cons_cons _ _ _ _

theorem join_concat_nil (parts : List Text) :
    join ['\n'] (parts ++ [[]]) = parts.flatMap (· ++ ['\n']) := by
  induction parts with
  | nil => rfl
  | cons part rest ih =>
    rw [List.flatMap_cons, ← ih]
    cases rest with
    | nil => exact join_cons_cons _ _ _ _
    | cons next rest => exact join_cons_cons _ _ _ _

/-! ## Replacements -/

/-- The lines that are put in the place of a line, if it is replaced. -/
abbrev Replacement := Text → Option (List Text)

namespace Replacement

variable {r t : Replacement}

/-- What becomes of a line. -/
def expand (r : Replacement) (line : Text) : List Text :=
  match r line with
  | none => [line]
  | some parts => parts ++ [[]]

/-- A text with its lines replaced. -/
def apply (r : Replacement) (text : Text) : Text :=
  join ['\n'] ((lines text).map fun line => join ['\n'] (r.expand line))

/-- Two replacements as one. -/
def merge (r t : Replacement) : Replacement := fun line => (r line).or (t line)

theorem expand_of_none (h : r line = none) : r.expand line = [line] := by
  unfold expand
  rw [h]

theorem expand_of_some (h : r line = some parts) : r.expand line = parts ++ [[]] := by
  unfold expand
  rw [h]

theorem expand_ne_nil (r : Replacement) (line : Text) : r.expand line ≠ [] := by
  unfold expand
  split
  · exact List.cons_ne_nil _ _
  · exact List.append_ne_nil_of_right_ne_nil _ (List.cons_ne_nil _ _)

theorem flatMap_expand_of_none (h : ∀ line ∈ lines₀, r line = none) :
    lines₀.flatMap r.expand = lines₀ :=
  (List.flatMap_congr fun line hline => expand_of_none (h line hline)).trans
    (List.flatMap_singleton' lines₀)

/-- Empty lines stay, and lines are replaced by lines, none of which is empty or replaced again. -/
structure Proper (r : Replacement) : Prop where
  empty : r [] = none
  ne_nil : ∀ line parts, r line = some parts → parts ≠ []
  filled : ∀ line parts, r line = some parts → ∀ part ∈ parts, part ≠ []
  oneLine : ∀ line parts, OneLine line → r line = some parts → ∀ part ∈ parts, OneLine part
  stable : ∀ line parts, OneLine line → r line = some parts → ∀ part ∈ parts, r part = none

/-- No line is replaced by both, nor what the first puts by the second. -/
structure Apart (r t : Replacement) : Prop where
  once : ∀ line, OneLine line → r line = none ∨ t line = none
  spared : ∀ line parts, OneLine line → r line = some parts → ∀ part ∈ parts, t part = none

/-! ## Lines after a replacement -/

theorem oneLine_flatMap_expand (hr : r.Proper) (h : ∀ line ∈ lines₀, OneLine line) :
    ∀ line ∈ lines₀.flatMap r.expand, OneLine line := by
  intro part hpart
  obtain ⟨line, hline, hmem⟩ := List.mem_flatMap.mp hpart
  cases hput : r line with
  | none =>
    rw [expand_of_none hput] at hmem
    rw [List.mem_singleton.mp hmem]
    exact h line hline
  | some parts =>
    rw [expand_of_some hput] at hmem
    rcases List.mem_append.mp hmem with hmem | hmem
    · exact hr.oneLine line parts (h line hline) hput part hmem
    · rw [List.mem_singleton.mp hmem]
      exact oneLine_nil

theorem lines_apply (hr : r.Proper) (text : Text) :
    lines (r.apply text) = dropEmptyEnd ((lines text).flatMap r.expand) := by
  unfold apply
  rw [join_flatMap r.expand_ne_nil]
  exact lines_join (oneLine_flatMap_expand hr fun _ => oneLine_of_mem_lines)

theorem lines_apply_of_settled (hr : r.Proper) {text : Text}
    (h : ∀ line ∈ lines text, r line = none) :
    lines (r.apply text) = dropEmptyEnd (lines text) := by
  rw [lines_apply hr, flatMap_expand_of_none h]

/-- A replacement brings no more than one empty line at the end. -/
theorem flatMap_expand_concat (hr : r.Proper) (before : List Text) (h : line ≠ []) :
    ∃ front last, last ≠ [] ∧
      dropEmptyEnd ((before ++ [line]).flatMap r.expand) = front ++ [last] := by
  rw [List.flatMap_append, List.flatMap_singleton]
  cases hput : r line with
  | none =>
    rw [expand_of_none hput, dropEmptyEnd_concat _ h]
    exact ⟨_, line, h, rfl⟩
  | some parts =>
    obtain hnil | ⟨front, last, rfl⟩ := List.eq_nil_or_concat' parts
    · exact absurd hnil (hr.ne_nil line parts hput)
    · have hlast : last ≠ [] := hr.filled line _ hput last (by simp)
      rw [expand_of_some hput, ← List.append_assoc, dropEmptyEnd_concat_nil, ← List.append_assoc]
      exact ⟨_, last, hlast, rfl⟩

/-- The empty line at the end may be dropped before lines are replaced or behind that. -/
theorem dropEmptyEnd_flatMap (hr : r.Proper) (lines₀ : List Text) :
    dropEmptyEnd ((dropEmptyEnd lines₀).flatMap r.expand) =
      dropEmptyEnd (dropEmptyEnd (lines₀.flatMap r.expand)) := by
  obtain rfl | ⟨before, line, rfl⟩ := List.eq_nil_or_concat' lines₀
  · rfl
  · by_cases hline : line = []
    · subst hline
      rw [dropEmptyEnd_concat_nil, List.flatMap_append, List.flatMap_singleton,
        expand_of_none hr.empty, dropEmptyEnd_concat_nil]
    · obtain ⟨front, last, hlast, hend⟩ := flatMap_expand_concat hr before hline
      rw [dropEmptyEnd_concat _ hline, hend, dropEmptyEnd_concat _ hlast]

/-- The lines that are not replaced are all there, but for an empty one at the end. -/
theorem kept_sublist (hr : r.Proper) (lines₀ : List Text) :
    ((dropEmptyEnd lines₀).filter fun line => r line = none).Sublist
      (dropEmptyEnd (lines₀.flatMap r.expand)) := by
  have hkept : ∀ before : List Text,
      (before.filter fun line => r line = none).Sublist (before.flatMap r.expand) := by
    intro before
    induction before with
    | nil => exact List.Sublist.refl []
    | cons line rest ih =>
      rw [List.flatMap_cons]
      cases hput : r line with
      | none =>
        rw [List.filter_cons_of_pos (by simpa using hput), expand_of_none hput]
        exact ih.cons_cons line
      | some parts =>
        rw [List.filter_cons_of_neg (by simp [hput])]
        exact ih.trans (List.sublist_append_right _ _)
  obtain rfl | ⟨before, line, rfl⟩ := List.eq_nil_or_concat' lines₀
  · exact List.Sublist.refl []
  · by_cases hline : line = []
    · subst hline
      rw [dropEmptyEnd_concat_nil, List.flatMap_append, List.flatMap_singleton,
        expand_of_none hr.empty, dropEmptyEnd_concat_nil]
      exact hkept before
    · rw [dropEmptyEnd_concat _ hline]
      cases hput : r line with
      | none =>
        have hend : (before ++ [line]).flatMap r.expand = before.flatMap r.expand ++ [line] := by
          rw [List.flatMap_append, List.flatMap_singleton, expand_of_none hput]
        rw [hend, dropEmptyEnd_concat _ hline, ← hend]
        exact hkept (before ++ [line])
      | some parts =>
        have hend : (before ++ [line]).flatMap r.expand =
            before.flatMap r.expand ++ parts ++ [[]] := by
          rw [List.flatMap_append, List.flatMap_singleton, expand_of_some hput, List.append_assoc]
        rw [hend, dropEmptyEnd_concat_nil, List.filter_append,
          List.filter_cons_of_neg (by simp [hput]), List.filter_nil, List.append_nil]
        exact (hkept before).trans (List.sublist_append_left _ _)

/-! ## Two replacements -/

namespace Apart

theorem merge_comm (h : Apart r t) (hline : OneLine line) : r.merge t line = t.merge r line := by
  unfold merge
  rcases h.once line hline with hnone | hnone
  · rw [hnone, Option.none_or, Option.or_none]
  · rw [hnone, Option.none_or, Option.or_none]

theorem expand_merge (h : Apart r t) (ht : t.Proper) (hline : OneLine line) :
    (r.expand line).flatMap t.expand = (r.merge t).expand line := by
  have hmerge : r.merge t line = (r line).or (t line) := rfl
  cases hput : r line with
  | none =>
    rw [hput, Option.none_or] at hmerge
    rw [expand_of_none hput, List.flatMap_singleton]
    unfold expand
    rw [hmerge]
  | some parts =>
    rw [hput, Option.some_or] at hmerge
    rw [expand_of_some hput, expand_of_some hmerge]
    refine flatMap_expand_of_none fun part hpart => ?_
    rcases List.mem_append.mp hpart with hpart | hpart
    · exact h.spared line parts hline hput part hpart
    · rw [List.mem_singleton.mp hpart]
      exact ht.empty

theorem proper_merge (h : Apart r t) (h' : Apart t r) (hr : r.Proper) (ht : t.Proper) :
    (r.merge t).Proper := by
  have hcases : ∀ line parts, r.merge t line = some parts →
      r line = some parts ∨ t line = some parts :=
    fun line parts hput => (Option.or_eq_some_iff.mp hput).imp_right And.right
  refine ⟨?_, fun line parts hput => ?_, fun line parts hput => ?_, fun line parts hline hput => ?_,
    fun line parts hline hput => ?_⟩
  · unfold merge
    rw [hr.empty, ht.empty]
    rfl
  · exact (hcases line parts hput).elim (hr.ne_nil line parts) (ht.ne_nil line parts)
  · exact (hcases line parts hput).elim (hr.filled line parts) (ht.filled line parts)
  · exact (hcases line parts hput).elim (hr.oneLine line parts hline) (ht.oneLine line parts hline)
  · intro part hpart
    unfold merge
    rcases hcases line parts hput with hput | hput
    · rw [hr.stable line parts hline hput part hpart, h.spared line parts hline hput part hpart]
      rfl
    · rw [h'.spared line parts hline hput part hpart, ht.stable line parts hline hput part hpart]
      rfl

end Apart

/-- What two replacements make of a text that leave alone what the other puts. -/
theorem lines_apply_apply (hr : r.Proper) (ht : t.Proper) (h : Apart r t) (text : Text) :
    lines (t.apply (r.apply text)) =
      dropEmptyEnd (dropEmptyEnd ((lines text).flatMap (r.merge t).expand)) := by
  have hmerged : ((lines text).flatMap r.expand).flatMap t.expand =
      (lines text).flatMap (r.merge t).expand :=
    List.flatMap_assoc.trans
      (List.flatMap_congr fun line hline => h.expand_merge ht (oneLine_of_mem_lines hline))
  rw [lines_apply ht, lines_apply hr, dropEmptyEnd_flatMap ht, hmerged]

/-- The lines that neither of two replacements puts anything for are all there, but for the empty
    ones that both lose at the end. -/
theorem kept_sublist_apply_apply (hr : r.Proper) (ht : t.Proper) (h : Apart r t) (h' : Apart t r)
    (text : Text) :
    ((dropEmptyEnd (dropEmptyEnd (lines text))).filter fun line => r.merge t line = none).Sublist
      (lines (t.apply (r.apply text))) := by
  have hproper := h.proper_merge h' hr ht
  rw [lines_apply_apply hr ht h, ← dropEmptyEnd_flatMap hproper]
  exact kept_sublist hproper _

/-- The order of two replacements does not matter. -/
theorem lines_apply_comm (hr : r.Proper) (ht : t.Proper) (h : Apart r t) (h' : Apart t r)
    (text : Text) : lines (t.apply (r.apply text)) = lines (r.apply (t.apply text)) := by
  have hsame : (lines text).flatMap (r.merge t).expand =
      (lines text).flatMap (t.merge r).expand := by
    refine List.flatMap_congr fun line hline => ?_
    unfold expand
    rw [h.merge_comm (oneLine_of_mem_lines hline)]
  rw [lines_apply_apply hr ht h, lines_apply_apply ht hr h', hsame]

/-- Behind two replacements neither has anything left to do. -/
theorem settled_of_mem (hr : r.Proper) (ht : t.Proper) (h : Apart r t) (h' : Apart t r)
    {text : Text} (hline : line ∈ lines (t.apply (r.apply text))) :
    r line = none ∧ t line = none := by
  rw [lines_apply_apply hr ht h] at hline
  have hmem := ((dropEmptyEnd_sublist _).trans (dropEmptyEnd_sublist _)).subset hline
  obtain ⟨before, hbefore, hmem⟩ := List.mem_flatMap.mp hmem
  have hnone : r.merge t line = none := by
    have hproper := h.proper_merge h' hr ht
    cases hput : r.merge t before with
    | none =>
      rw [expand_of_none hput] at hmem
      rwa [List.mem_singleton.mp hmem]
    | some parts =>
      rw [expand_of_some hput] at hmem
      rcases List.mem_append.mp hmem with hmem | hmem
      · exact hproper.stable before parts (oneLine_of_mem_lines hbefore) hput line hmem
      · rw [List.mem_singleton.mp hmem]
        exact hproper.empty
  exact Option.or_eq_none_iff.mp hnone

end Replacement

end Taskbook.Text
