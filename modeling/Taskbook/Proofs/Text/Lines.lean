/-
  Lines of a text. Each line is without line ends (`oneLine_of_mem_lines`), and lines without line
  ends, put together with line feeds, are read again as the same lines (`lines_flatMap`).
-/
import Taskbook.Text.Lines

namespace Taskbook

theorem isBlank_of_isLineEnd {c : Char} (h : isLineEnd c = true) : isBlank c = true := by
  have hall : ∀ code ∈ lineEndCodes, blankCodes.contains code = true := by decide
  exact hall _ (List.contains_iff_mem.mp h)

namespace Text

/-- A text on one line. -/
def OneLine (s : Text) : Prop := ∀ c ∈ s, isLineEnd c = false

instance (s : Text) : Decidable (OneLine s) := List.decidableBAll (fun c => isLineEnd c = false) s

theorem oneLine_nil : OneLine [] := List.forall_mem_nil _

theorem OneLine.append {s t : Text} (hs : OneLine s) (ht : OneLine t) : OneLine (s ++ t) :=
  List.forall_mem_append.mpr ⟨hs, ht⟩

variable {line : Text}

theorem join_singleton (sep part : Text) : join sep [part] = part := List.intercalate_singleton

theorem join_cons_cons (sep part next : Text) (rest : List Text) :
    join sep (part :: next :: rest) = part ++ sep ++ join sep (next :: rest) :=
  List.intercalate_cons_cons

theorem lines_cons {c : Char} (hc : isLineEnd c = false) (rest : Text) :
    lines (c :: rest) = match lines rest with
      | [] => [[c]]
      | line :: more => (c :: line) :: more := by
  have hnot : ¬ isLineEnd c = true := by rw [hc]; exact Bool.false_ne_true
  have hreturn : ∀ after, c = '\r' → rest = '\n' :: after → False := by
    rintro after rfl
    exact absurd hc (by decide)
  exact (lines.eq_3 c rest hreturn).trans (if_neg hnot)

/-- A line with a line feed behind it is read as a line. -/
theorem lines_append_newline (h : OneLine line) (rest : Text) :
    lines (line ++ '\n' :: rest) = line :: lines rest := by
  induction line with
  | nil => exact (lines.eq_3 '\n' rest nofun).trans (if_pos (by decide))
  | cons c line ih =>
    obtain ⟨hc, hline⟩ := List.forall_mem_cons.mp h
    rw [List.cons_append, lines_cons hc, ih hline]

theorem lines_flatMap {parts : List Text} (h : ∀ part ∈ parts, OneLine part) (rest : Text) :
    lines (parts.flatMap (· ++ ['\n']) ++ rest) = parts ++ lines rest := by
  induction parts with
  | nil => rfl
  | cons part parts ih =>
    obtain ⟨hpart, hparts⟩ := List.forall_mem_cons.mp h
    rw [List.flatMap_cons, List.append_assoc, List.append_assoc, List.singleton_append,
      lines_append_newline hpart, ih hparts]
    rfl

theorem lines_of_oneLine (h : OneLine line) : lines line = if line = [] then [] else [line] := by
  induction line with
  | nil => rw [lines, if_pos rfl]
  | cons c line ih =>
    obtain ⟨hc, hline⟩ := List.forall_mem_cons.mp h
    rw [lines_cons hc, ih hline, if_neg (List.cons_ne_nil c line)]
    by_cases hnil : line = []
    · rw [if_pos hnil, hnil]
    · rw [if_neg hnil]

theorem oneLine_of_mem_lines {s : Text} (h : line ∈ lines s) : OneLine line := by
  induction s using lines.induct generalizing line with
  | case1 => cases h
  | case2 rest ih =>
    rw [lines] at h
    rcases List.mem_cons.mp h with rfl | h
    · nofun
    · exact ih h
  | case3 c rest hnot hend ih =>
    rw [lines.eq_3 c rest hnot, if_pos hend] at h
    rcases List.mem_cons.mp h with rfl | h
    · nofun
    · exact ih h
  | case4 c rest hnot hend hrest ih =>
    rw [lines_cons (Bool.eq_false_iff.mpr hend), hrest] at h
    obtain rfl := List.mem_singleton.mp h
    exact List.forall_mem_singleton.mpr (Bool.eq_false_iff.mpr hend)
  | case5 c rest hnot hend first more hrest ih =>
    rw [lines_cons (Bool.eq_false_iff.mpr hend), hrest] at h
    rcases List.mem_cons.mp h with rfl | h
    · have hfirst : OneLine first := ih (hrest ▸ List.mem_cons_self)
      exact List.forall_mem_cons.mpr ⟨Bool.eq_false_iff.mpr hend, hfirst⟩
    · exact ih (hrest ▸ List.mem_cons_of_mem _ h)

end Text

end Taskbook
