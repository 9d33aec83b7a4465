/-
  The two passes over a page.

  Each pass replaces some lines, one the frame lines and one the task lines. What it puts in their
  place are lines that begin with a tag (`frameLines`, `taskLines`), and a line that begins with a
  tag is neither a frame line nor a task line. So neither pass sees what the other put, and
  `passes_are_apart` follows for every page: their order does not matter, there is nothing left for
  a third one, and no other line is touched. Each pass loses one empty line at the end of a page,
  though: lines are joined without an end of the last one.

  The task lists are read line by line, so that no line end may be in the names of the pages and in
  the base of the links.
-/
import Taskbook.Proofs.Include.Lines
import Taskbook.Proofs.Include.Refusal
import Taskbook.Proofs.Page.Frame
import Taskbook.Proofs.Text.Replacement

namespace Taskbook.Page

open Text (OneLine Replacement dropEmptyEnd)

variable {scope : Scope} {name content line : Text} {parts : List Text}

/-! ## Lines that begin with a tag -/

theorem ne_nil_of_tag (h : line.head? = some '<') : line ≠ [] := by
  rintro rfl
  cases h

theorem parse?_of_tag (hline : OneLine line) (h : line.head? = some '<') :
    Task.parse? line = none := by
  obtain ⟨rest, rfl⟩ := List.head?_eq_some_iff.mp h
  exact Task.parse?_eq_none hline rfl

theorem frameAddress?_of_tag (h : line.head? = some '<') : frameAddress? line = none := by
  obtain ⟨rest, rfl⟩ := List.head?_eq_some_iff.mp h
  rfl

/-- Lines are replaced by one or more lines that begin with a tag and have no line ends. -/
structure PutsTags (r : Replacement) : Prop where
  ne_nil : ∀ line parts, r line = some parts → parts ≠ []
  tag : ∀ line parts, r line = some parts → ∀ part ∈ parts, part.head? = some '<'
  oneLine : ∀ line parts, OneLine line → r line = some parts → ∀ part ∈ parts, OneLine part

/-- Lines that begin with a tag are not replaced, nor empty ones. -/
structure SparesTags (r : Replacement) : Prop where
  empty : r [] = none
  tag : ∀ line, OneLine line → line.head? = some '<' → r line = none

variable {r t : Replacement}

theorem PutsTags.proper (h : PutsTags r) (hr : SparesTags r) : r.Proper where
  empty := hr.empty
  ne_nil := h.ne_nil
  filled line parts hput part hpart := ne_nil_of_tag (h.tag line parts hput part hpart)
  oneLine := h.oneLine
  stable line parts hline hput part hpart :=
    hr.tag part (h.oneLine line parts hline hput part hpart) (h.tag line parts hput part hpart)

theorem PutsTags.apart (h : PutsTags r) (ht : SparesTags t)
    (honce : ∀ line, OneLine line → r line = none ∨ t line = none) : r.Apart t where
  once := honce
  spared line parts hline hput part hpart :=
    ht.tag part (h.oneLine line parts hline hput part hpart) (h.tag line parts hput part hpart)

/-! ## The passes as replacements -/

/-- The frame that is put in the place of a frame line. -/
def frameLines : Replacement := fun line => (frameAddress? line).map fun url => [frame url]

/-- The origins that a collecting line takes as visited: the page itself, if the line is tagged
    `recursive:true`. -/
def visitedFrom (name : Text) (task : Task) : Option (List Text) :=
  if task.tags.get? "recursive" = some "true" then some [pageOrigin name] else none

/-- The lines that are put in the place of a task line: its block, or the parts of its task list. -/
def taskLines (scope : Scope) (name : Text) : Replacement := fun line =>
  (Task.parse? line).map fun task =>
    if task.collects then (scope.resolve task (visitedFrom name task)).listing.lines
    else [task.html]

theorem placeFrames_eq_apply (content : Text) : placeFrames content = frameLines.apply content := by
  have hplaced : ∀ line, placed line = Text.join ['\n'] (frameLines.expand line) := by
    intro line
    unfold placed Replacement.expand frameLines
    cases frameAddress? line with
    | none => exact (Text.join_singleton _ _).symm
    | some url => exact ((Text.join_concat_nil _).trans (List.flatMap_singleton _ _)).symm
  rw [placeFrames_eq]
  exact congrArg (Text.join ['\n']) (List.map_congr_left fun line _ => hplaced line)

theorem taskLines_of_none (h : Task.parse? line = none) : taskLines scope name line = none := by
  unfold taskLines
  rw [h, Option.map_none]

theorem taskLines_of_some (scope : Scope) (name : Text) {task : Task}
    (h : Task.parse? line = some task) :
    taskLines scope name line = some
      (if task.collects then (scope.resolve task (visitedFrom name task)).listing.lines
        else [task.html]) := by
  unfold taskLines
  rw [h, Option.map_some]

/-- What is put in the place of a line, as it is written. -/
theorem join_expand_of_some (h : r line = some parts) :
    Text.join ['\n'] (r.expand line) = parts.flatMap (· ++ ['\n']) := by
  rw [Replacement.expand_of_some h, Text.join_concat_nil]

theorem replaceTasks_of_collects {task : Task} (hparse : Task.parse? line = some task)
    (hcollects : task.collects = true) (rest : List Text) :
    replaceTasks scope name (line :: rest) =
      let found := scope.resolve task (visitedFrom name task)
      match found.stopped with
      | some fault => { lines := [], requested := found.requested, stopped := some fault }
      | none =>
        let after := replaceTasks scope name rest
        { after with
          lines := (found.listing.html ++ ['\n']) :: after.lines
          requested := found.requested ++ after.requested } := by
  rw [replaceTasks, hparse]
  exact if_pos hcollects

theorem replaceTasks_of_not_collects {task : Task} (hparse : Task.parse? line = some task)
    (hcollects : ¬ task.collects = true) (rest : List Text) :
    replaceTasks scope name (line :: rest) =
      let after := replaceTasks scope name rest
      { after with lines := (task.html ++ ['\n']) :: after.lines } := by
  rw [replaceTasks, hparse]
  exact if_neg hcollects

theorem replaceTasks_of_none (hparse : Task.parse? line = none) (rest : List Text) :
    replaceTasks scope name (line :: rest) =
      let after := replaceTasks scope name rest
      { after with lines := line :: after.lines } := by
  rw [replaceTasks, hparse]

theorem lines_replaceTasks {lines : List Text}
    (h : (replaceTasks scope name lines).stopped = none) :
    (replaceTasks scope name lines).lines =
      lines.map fun line => Text.join ['\n'] ((taskLines scope name).expand line) := by
  induction lines with
  | nil => rfl
  | cons line rest ih =>
    rw [List.map_cons]
    cases hparse : Task.parse? line with
    | none =>
      rw [replaceTasks_of_none hparse] at h ⊢
      rw [Replacement.expand_of_none (taskLines_of_none hparse), Text.join_singleton]
      exact congrArg (line :: ·) (ih h)
    | some task =>
      have hput := taskLines_of_some scope name hparse
      by_cases hcollects : task.collects = true
      · rw [if_pos hcollects] at hput
        rw [replaceTasks_of_collects hparse hcollects] at h ⊢
        rw [join_expand_of_some hput, ← Listing.html_append_newline]
        dsimp only at h ⊢
        cases hstopped : (scope.resolve task (visitedFrom name task)).stopped with
        | some fault =>
          rw [hstopped] at h
          cases h
        | none =>
          rw [hstopped] at h
          exact congrArg (_ :: ·) (ih h)
      · rw [if_neg hcollects] at hput
        rw [replaceTasks_of_not_collects hparse hcollects] at h ⊢
        rw [join_expand_of_some hput, List.flatMap_singleton]
        exact congrArg (_ :: ·) (ih h)

theorem placeTasks_text (h : (placeTasks scope name content).stopped = none) :
    (placeTasks scope name content).text = (taskLines scope name).apply content :=
  congrArg (Text.join ['\n']) (lines_replaceTasks h)

/-! ## What the passes put, and what they spare -/

theorem putsTags_frameLines : PutsTags frameLines := by
  have hput : ∀ line parts, frameLines line = some parts →
      ∃ url, OneLine url ∧ parts = [frame url] := by
    intro line parts h
    obtain ⟨url, hurl, rfl⟩ := Option.map_eq_some_iff.mp h
    exact ⟨url, (oneLine_of_frameAddress? hurl).1, rfl⟩
  refine ⟨fun line parts h => ?_, fun line parts h => ?_, fun line parts _ h => ?_⟩
  · obtain ⟨url, -, rfl⟩ := hput line parts h
    exact List.cons_ne_nil _ _
  · obtain ⟨url, -, rfl⟩ := hput line parts h
    exact List.forall_mem_singleton.mpr (Html.head?_render_element _ _ _)
  · obtain ⟨url, hurl, rfl⟩ := hput line parts h
    exact List.forall_mem_singleton.mpr (oneLine_frame hurl)

theorem sparesTags_frameLines : SparesTags frameLines where
  empty := rfl
  tag line _ h := by
    unfold frameLines
    rw [frameAddress?_of_tag h, Option.map_none]

/-- The block of a task line is written on one line. -/
theorem oneLine_html_of_parse? {task : Task} (hline : OneLine line)
    (h : Task.parse? line = some task) : OneLine task.html := by
  refine Task.oneLine_html (wellFormed_of_parse? h).tags (Task.oneLine_description hline h) ?_
  obtain ⟨keyword, rest, -, -, rfl⟩ := Task.parse?_eq_some_iff.mp h
  intro url hurl
  cases hurl

theorem putsTags_taskLines (hnames : ∀ name ∈ scope.notebook.names, OneLine name)
    (hbase : OneLine scope.base) (name : Text) : PutsTags (taskLines scope name) := by
  have hput : ∀ line parts, taskLines scope name line = some parts →
      ∃ task, Task.parse? line = some task ∧
        (parts = (scope.resolve task (visitedFrom name task)).listing.lines ∨
          parts = [task.html]) := by
    intro line parts h
    obtain ⟨task, htask, rfl⟩ := Option.map_eq_some_iff.mp h
    refine ⟨task, htask, ?_⟩
    split
    · exact Or.inl rfl
    · exact Or.inr rfl
  refine ⟨fun line parts h => ?_, fun line parts h => ?_, fun line parts hline h => ?_⟩
  · obtain ⟨task, -, rfl | rfl⟩ := hput line parts h
    · exact List.append_ne_nil_of_right_ne_nil _ (List.cons_ne_nil _ _)
    · exact List.cons_ne_nil _ _
  · obtain ⟨task, -, rfl | rfl⟩ := hput line parts h
    · exact Listing.head?_lines _
    · exact List.forall_mem_singleton.mpr (Html.head?_render_element _ _ _)
  · obtain ⟨task, htask, rfl | rfl⟩ := hput line parts h
    · exact World.oneLine_lines_of_resolveWithin hnames hbase hline htask
        (scope.resolveWithin_depth task _)
    · exact List.forall_mem_singleton.mpr (oneLine_html_of_parse? hline htask)

theorem sparesTags_taskLines (scope : Scope) (name : Text) :
    SparesTags (taskLines scope name) where
  empty := taskLines_of_none Task.parse?_nil
  tag _ hline h := taskLines_of_none (parse?_of_tag hline h)

/-- No line is a frame line and a task line. -/
theorem frameLines_or_taskLines (scope : Scope) (name : Text) (line : Text) (hline : OneLine line) :
    frameLines line = none ∨ taskLines scope name line = none := by
  unfold frameLines
  cases haddress : frameAddress? line with
  | none => exact Or.inl rfl
  | some url => exact Or.inr (taskLines_of_none (parse?_frameLine hline haddress))

theorem proper_frameLines : frameLines.Proper := putsTags_frameLines.proper sparesTags_frameLines

theorem apart_frameLines (scope : Scope) (name : Text) : frameLines.Apart (taskLines scope name) :=
  putsTags_frameLines.apart (sparesTags_taskLines scope name) (frameLines_or_taskLines scope name)

theorem proper_taskLines (hnames : ∀ name ∈ scope.notebook.names, OneLine name)
    (hbase : OneLine scope.base) (name : Text) : (taskLines scope name).Proper :=
  (putsTags_taskLines hnames hbase name).proper (sparesTags_taskLines scope name)

theorem apart_taskLines (hnames : ∀ name ∈ scope.notebook.names, OneLine name)
    (hbase : OneLine scope.base) (name : Text) : (taskLines scope name).Apart frameLines :=
  (putsTags_taskLines hnames hbase name).apart sparesTags_frameLines
    fun line hline => (frameLines_or_taskLines scope name line hline).symm

/-! ## The requests of a pass -/

/-- The addresses that are requested for task lines, and why a request could not be sent, if there
    was such a request. -/
def asked (scope : Scope) (name : Text) : List Task → List Text × Option Http.AddressFault
  | [] => ([], none)
  | task :: rest =>
    if task.collects then
      let found := scope.resolve task (visitedFrom name task)
      match found.stopped with
      | some fault => (found.requested, some fault)
      | none => (found.requested ++ (asked scope name rest).1, (asked scope name rest).2)
    else asked scope name rest

/-- What a pass requests depends on the task lines only. -/
theorem asked_eq (scope : Scope) (name : Text) (lines : List Text) :
    ((replaceTasks scope name lines).requested, (replaceTasks scope name lines).stopped) =
      asked scope name (lines.filterMap Task.parse?) := by
  induction lines with
  | nil => rfl
  | cons line rest ih =>
    cases hparse : Task.parse? line with
    | none => rw [List.filterMap_cons_none hparse, ← ih, replaceTasks_of_none hparse]
    | some task =>
      rw [List.filterMap_cons_some hparse, asked, ← ih]
      by_cases hcollects : task.collects = true
      · rw [if_pos hcollects, replaceTasks_of_collects hparse hcollects]
        dsimp only
        cases (scope.resolve task (visitedFrom name task)).stopped with
        | some fault => rfl
        | none => rfl
      · rw [if_neg hcollects, replaceTasks_of_not_collects hparse hcollects]

/-- The frames that are placed before change nothing of what is requested. -/
theorem asked_placeFrames (scope : Scope) (name content : Text) :
    (placeTasks scope name (placeFrames content)).requested =
        (placeTasks scope name content).requested ∧
      (placeTasks scope name (placeFrames content)).stopped =
        (placeTasks scope name content).stopped := by
  have htasks : (Text.lines (placeFrames content)).filterMap Task.parse? =
      (Text.lines content).filterMap Task.parse? := parseAll_placeFrames content
  have hasked := asked_eq scope name (Text.lines (placeFrames content))
  rw [htasks, ← asked_eq scope name] at hasked
  exact Prod.mk.inj hasked

/-- Nothing is requested where there are no task lines. -/
theorem asked_of_settled (h : ∀ line ∈ Text.lines content, taskLines scope name line = none) :
    (placeTasks scope name content).requested = [] ∧
      (placeTasks scope name content).stopped = none := by
  have hnone : (Text.lines content).filterMap Task.parse? = [] :=
    List.filterMap_eq_nil_iff.mpr fun line hline => Option.map_eq_none_iff.mp (h line hline)
  have hasked := asked_eq scope name (Text.lines content)
  rw [hnone] at hasked
  exact Prod.mk.inj hasked

/-! ## Both passes -/

/-- A line that neither pass replaces. -/
def plain (line : Text) : Bool := (frameAddress? line).isNone && (Task.parse? line).isNone

theorem plain_eq (scope : Scope) (name : Text) :
    plain = fun line => decide (frameLines.merge (taskLines scope name) line = none) := by
  funext line
  unfold plain Replacement.merge frameLines taskLines
  cases frameAddress? line <;> cases Task.parse? line <;> simp

/-- Where no line end is in the names of the pages and in the base of all links, the pass that
    places frames and the pass that places tasks and task lists give the same lines in either order,
    with the same requests. Either of them once more requests nothing and changes no line. Each line
    that is neither a frame line nor a task line is there as it was, in its place among the others.
    Left out is an empty line at the end, of which each pass drops one. -/
theorem passes_are_apart (scope : Scope) (hnames : ∀ name ∈ scope.notebook.names, OneLine name)
    (hbase : OneLine scope.base) (name content : Text) :
    let framesFirst := placeTasks scope name (placeFrames content)
    let tasksFirst := placeTasks scope name content
    framesFirst.requested = tasksFirst.requested ∧ framesFirst.stopped = tasksFirst.stopped ∧
    (tasksFirst.stopped = none →
      Text.lines framesFirst.text = Text.lines (placeFrames tasksFirst.text) ∧
      (∀ result, Text.lines result = Text.lines framesFirst.text →
        Text.lines (placeFrames result) = dropEmptyEnd (Text.lines result) ∧
        (placeTasks scope name result).requested = [] ∧
        (placeTasks scope name result).stopped = none ∧
        Text.lines (placeTasks scope name result).text = dropEmptyEnd (Text.lines result)) ∧
      ((dropEmptyEnd (dropEmptyEnd (Text.lines content))).filter plain).Sublist
        (Text.lines framesFirst.text)) := by
  intro framesFirst tasksFirst
  have hframes := proper_frameLines
  have htasks := proper_taskLines hnames hbase name
  have hapart := apart_frameLines scope name
  have hapart' := apart_taskLines hnames hbase name
  obtain ⟨hrequested, hstopped⟩ := asked_placeFrames scope name content
  refine ⟨hrequested, hstopped, fun hnone => ?_⟩
  have hboth : framesFirst.text = (taskLines scope name).apply (frameLines.apply content) := by
    rw [← placeFrames_eq_apply]
    exact placeTasks_text (hstopped.trans hnone)
  refine ⟨?order, fun result hresult => ?again, ?kept⟩
  case order =>
    rw [hboth, placeFrames_eq_apply, placeTasks_text hnone]
    exact Replacement.lines_apply_comm hframes htasks hapart hapart' content
  case again =>
    have hsettled : ∀ line ∈ Text.lines result,
        frameLines line = none ∧ taskLines scope name line = none := by
      intro line hline
      rw [hresult, hboth] at hline
      exact Replacement.settled_of_mem hframes htasks hapart hapart' hline
    obtain ⟨hquiet, hends⟩ := asked_of_settled fun line hline => (hsettled line hline).2
    rw [placeFrames_eq_apply, placeTasks_text hends]
    exact ⟨Replacement.lines_apply_of_settled hframes fun line hline => (hsettled line hline).1,
      hquiet, hends,
      Replacement.lines_apply_of_settled htasks fun line hline => (hsettled line hline).2⟩
  case kept =>
    rw [hboth, plain_eq scope name]
    exact Replacement.kept_sublist_apply_apply hframes htasks hapart hapart' content

/-- A page to be collected, and no other text. -/
def oneTaskScope : Scope where
  notebook := ⟨[("A", "TODO a")], by decide⟩
  web := .silent

/-- Lines of all kinds. -/
def pageOfAllKinds : Text := "INCLUDE_HEAD http://h\nTODO x\nnote\nINCLUDE wiki:A\n\n\nend\n"

theorem passes_are_apart_mixed :
    (∀ name ∈ oneTaskScope.notebook.names, OneLine name) ∧ OneLine oneTaskScope.base ∧
      (placeTasks oneTaskScope "Home" pageOfAllKinds).stopped = none ∧
      Text.lines (placeTasks oneTaskScope "Home" (placeFrames pageOfAllKinds)).text =
        Text.lines (placeFrames (placeTasks oneTaskScope "Home" pageOfAllKinds).text) ∧
      [("note" : Text), "", "", "end"].Sublist
        (Text.lines (placeTasks oneTaskScope "Home" (placeFrames pageOfAllKinds)).text) := by
  have hnames : ∀ name ∈ oneTaskScope.notebook.names, OneLine name := by decide
  have hbase : OneLine oneTaskScope.base := by decide
  have hstopped : (placeTasks oneTaskScope "Home" pageOfAllKinds).stopped = none := by
    decide +kernel
  have hplain : (dropEmptyEnd (dropEmptyEnd (Text.lines pageOfAllKinds))).filter plain =
      [("note" : Text), "", "", "end"] := by decide +kernel
  obtain ⟨-, -, hpasses⟩ := passes_are_apart oneTaskScope hnames hbase "Home" pageOfAllKinds
  obtain ⟨horder, -, hkept⟩ := hpasses hstopped
  rw [hplain] at hkept
  exact ⟨hnames, hbase, hstopped, horder, hkept⟩

/-- Of two empty lines at the end of a page none is left. Of four two are left, one of which is gone
    when a pass goes over the page once more. -/
theorem empty_lines_are_lost :
    ((Text.lines "a\n\n\n").filter plain = [("a" : Text), "", ""] ∧
      Text.lines (placeTasks oneTaskScope "Home" (placeFrames "a\n\n\n")).text =
        [("a" : Text)]) ∧
    Text.lines (placeTasks oneTaskScope "Home" (placeFrames "a\n\n\n\n\n")).text =
        [("a" : Text), "", ""] ∧
      Text.lines (placeFrames
        (placeTasks oneTaskScope "Home" (placeFrames "a\n\n\n\n\n")).text) =
          [("a" : Text), ""] := by
  decide +kernel

end Taskbook.Page
