/-
  Frame lines and task lines. Neither a frame line nor the frame in its place is a task line
  (`parse?_frameLine`, `parse?_frame`), so a page has the same task lines after its frame lines are
  replaced (`parseAll_placeFrames`). Of the scope the replaced lines show the task lists of their
  collecting lines and nothing else (`replaceTasks_congr`).
-/
import Taskbook.Page.Line
import Taskbook.Proofs.Html.Lines
import Taskbook.Proofs.Text.Trim

namespace Taskbook

theorem not_isLineCut {c : Char} (hc : isLineEnd c = false) : isLineCut c = false := by
  unfold isLineCut
  rw [Bool.or_eq_false_iff, decide_eq_false_iff_not, decide_eq_false_iff_not]
  constructor
  · rintro rfl
    exact absurd hc (by decide)
  · rintro rfl
    exact absurd hc (by decide)

/-- Whether a line is a task line is decided where its first word starts. -/
theorem Task.parse?_eq_none {line : Text} (h : Text.OneLine line)
    (hnone : readKeyword? (dropBullet ((line ++ [' ']).dropWhile isBlank)) = none) :
    Task.parse? line = none := by
  have hends : Text.EndsOutside isLineCut line :=
    Text.endsOutside_of_forall fun c hc => not_isLineCut (h c hc)
  unfold parse?
  dsimp only
  rw [Text.trimEnd_eq_self hends, hnone]

theorem Task.parse?_nil : Task.parse? [] = none := Task.parse?_eq_none Text.oneLine_nil rfl

namespace Page

theorem frame_eq (url : Text) :
    frame url = "<div class=\"subtopic\"><iframe src=\"" ++ Html.escape url ++
      "\"></iframe></div>" := by
  have hclass : Html.escape "subtopic" = ("subtopic" : Text) := rfl
  simp only [frame, Html.Node.render, Html.Node.renderAll, Html.openTag, Html.closeTag,
    Html.renderAttribute, List.flatMap_cons, List.flatMap_nil, List.append_nil, List.append_assoc,
    hclass]
  rfl

theorem oneLine_frame {url : Text} (h : Text.OneLine url) : Text.OneLine (frame url) := by
  have hopen : Text.OneLine "<div class=\"subtopic\"><iframe src=\"" := by decide
  have hclose : Text.OneLine "\"></iframe></div>" := by decide
  rw [frame_eq]
  exact (hopen.append (Html.oneLine_escape h)).append hclose

theorem parse?_frame {url : Text} (h : Text.OneLine url) : Task.parse? (frame url) = none := by
  have hframe := oneLine_frame h
  rw [frame_eq] at hframe ⊢
  exact Task.parse?_eq_none hframe rfl

theorem oneLine_of_frameAddress? {line url : Text} (h : frameAddress? line = some url) :
    Text.OneLine url ∧ ∃ rest, line = "INCLUDE_HEAD" ++ rest := by
  unfold frameAddress? at h
  split at h
  · cases h
  · next rest hrest =>
    dsimp only at h
    split at h
    · obtain rfl := Option.some.inj h
      refine ⟨fun c hc => ?_, rest, Text.dropPrefix?_eq_some_iff.mp hrest⟩
      have hblank : isBlank c = false := by simpa using List.mem_takeWhile_imp hc
      refine Bool.eq_false_iff.mpr fun hend => ?_
      rw [isBlank_of_isLineEnd hend] at hblank
      cases hblank
    · cases h

theorem parse?_frameLine {line url : Text} (hline : Text.OneLine line)
    (h : frameAddress? line = some url) : Task.parse? line = none := by
  obtain ⟨-, rest, rfl⟩ := oneLine_of_frameAddress? h
  exact Task.parse?_eq_none hline rfl

/-- A line with its frame in its place, if it is a frame line. -/
def placed (line : Text) : Text :=
  match frameAddress? line with
  | some url => frame url ++ ['\n']
  | none => line

theorem placeFrames_eq (content : Text) :
    placeFrames content = Text.join ['\n'] ((Text.lines content).map placed) := rfl

theorem placed_cases {line : Text} (h : Text.OneLine line) :
    placed line = line ∨
      Task.parse? line = none ∧
        ∃ url, Text.OneLine (frame url) ∧ Task.parse? (frame url) = none ∧
          placed line = frame url ++ ['\n'] := by
  unfold placed
  cases haddress : frameAddress? line with
  | none => exact Or.inl rfl
  | some url =>
    have hurl := (oneLine_of_frameAddress? haddress).1
    exact Or.inr ⟨parse?_frameLine h haddress, url, oneLine_frame hurl, parse?_frame hurl, rfl⟩

theorem parseAll_placed {line : Text} (h : Text.OneLine line) :
    Task.parseAll (placed line) = [line].filterMap Task.parse? := by
  unfold Task.parseAll
  rcases placed_cases h with hsame | ⟨hnone, url, hframe, hparse, hplaced⟩
  · rw [hsame, Text.lines_of_oneLine h]
    by_cases hnil : line = []
    · rw [if_pos hnil, hnil, List.filterMap_cons_none Task.parse?_nil]
    · rw [if_neg hnil]
  · rw [hplaced, Text.lines_append_newline hframe, Text.lines, List.filterMap_cons_none hparse,
      List.filterMap_cons_none hnone]

theorem parseAll_placed_append {line : Text} (h : Text.OneLine line) (rest : Text) :
    Task.parseAll (placed line ++ '\n' :: rest) =
      [line].filterMap Task.parse? ++ Task.parseAll rest := by
  unfold Task.parseAll
  rcases placed_cases h with hsame | ⟨hnone, url, hframe, hparse, hplaced⟩
  · rw [hsame, Text.lines_append_newline h, ← List.filterMap_append]
    rfl
  · have hempty : Text.lines ('\n' :: rest) = [] :: Text.lines rest :=
      Text.lines_append_newline Text.oneLine_nil rest
    rw [hplaced, List.append_assoc, List.singleton_append, Text.lines_append_newline hframe, hempty,
      List.filterMap_cons_none hparse, List.filterMap_cons_none Task.parse?_nil,
      List.filterMap_cons_none hnone]
    rfl

/-- A page has the same task lines after its frame lines are replaced. -/
theorem parseAll_placeFrames (content : Text) :
    Task.parseAll (placeFrames content) = Task.parseAll content := by
  have hlines : ∀ line ∈ Text.lines content, Text.OneLine line := fun _ => Text.oneLine_of_mem_lines
  rw [placeFrames_eq]
  change _ = (Text.lines content).filterMap Task.parse?
  generalize Text.lines content = lines at hlines ⊢
  induction lines with
  | nil => rfl
  | cons line rest ih =>
    obtain ⟨hline, hrest⟩ := List.forall_mem_cons.mp hlines
    cases rest with
    | nil => rw [List.map_singleton, Text.join_singleton, parseAll_placed hline]
    | cons next rest =>
      have hjoin : Text.join ['\n'] ((line :: next :: rest).map placed) =
          placed line ++ '\n' :: Text.join ['\n'] ((next :: rest).map placed) :=
        (Text.join_cons_cons _ _ _ _).trans (List.append_assoc _ _ _)
      rw [hjoin, parseAll_placed_append hline, ih hrest, ← List.filterMap_append]
      rfl

/-- Lines are replaced alike where the collecting ones among them have the same task lists. -/
theorem replaceTasks_congr {scope scope' : Scope} {name : Text} {lines : List Text}
    (h : ∀ task ∈ lines.filterMap Task.parse?, task.collects = true →
      scope'.resolve task
          (if task.tags.get? "recursive" = some "true" then some [pageOrigin name] else none) =
        scope.resolve task
          (if task.tags.get? "recursive" = some "true" then some [pageOrigin name] else none)) :
    replaceTasks scope' name lines = replaceTasks scope name lines := by
  induction lines with
  | nil => rfl
  | cons line rest ih =>
    unfold replaceTasks
    cases hparse : Task.parse? line with
    | none =>
      rw [List.filterMap_cons_none hparse] at h
      rw [ih h]
    | some task =>
      rw [List.filterMap_cons_some hparse, List.forall_mem_cons] at h
      obtain ⟨htask, hrest⟩ := h
      dsimp only
      by_cases hcollects : task.collects = true
      · rw [if_pos hcollects, if_pos hcollects, htask hcollects, ih hrest]
      · rw [if_neg hcollects, if_neg hcollects, ih hrest]

end Page

end Taskbook
