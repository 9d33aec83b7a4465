/-
  The form of a task list as HTML: the pieces of its head and those of one block for each task
  (`Listing.Shape`), with the texts of the tasks in their slots (`Listing.html_eq_fill`). So no text
  brings a tag, each text is read back, and the number in the head is the number of blocks:
  `texts_bring_no_markup`.
-/
import Taskbook.Include.Listing
import Taskbook.Proofs.Task.Block

namespace Taskbook

open Html

namespace Listing

/-! ## Pieces -/

/-- What the form of a list depends on. -/
structure Shape where
  head : Task.Shape
  failed : Bool
  tasks : List Task.Shape
  deriving DecidableEq

namespace Shape

/-- The reason why there are no tasks, else their number. -/
def statusPieces (shape : Shape) : List Piece :=
  if shape.failed then [.fixed " <span class=\"task-error\">", .slot, .fixed "</span></h4>\n"]
  else [.fixed " <span class=\"tasklist-count\">(", .slot, .fixed ")</span></h4>\n"]

/-- A block for each task, on a line of its own. -/
def taskPieces (shapes : List Task.Shape) : List Piece :=
  shapes.flatMap fun shape => shape.pieces ++ [.fixed "\n"]

def pieces (shape : Shape) : List Piece :=
  .fixed "<div class=\"tasklist\">\n<h4 class=\"tasklist-head\">" ::
    (shape.head.inlinePieces ++
      (shape.statusPieces ++ (taskPieces shape.tasks ++ [.fixed "</div>"])))

end Shape

/-- The reason why there are no tasks; an empty one is none. -/
def reason (listing : Listing) : Text := listing.error.getD []

def shape (listing : Listing) : Shape :=
  { head := listing.head.shape
    failed := listing.reason ≠ []
    tasks := listing.tasks.map Task.shape }

/-- What is said of the list in its head. -/
def status (listing : Listing) : Text :=
  if listing.reason = [] then Text.ofNat listing.tasks.length else listing.reason

/-- The texts of the collecting line, of the status and of the tasks. -/
def texts (listing : Listing) : List Text :=
  listing.head.inlineTexts ++ listing.status :: listing.tasks.flatMap Task.texts

/-! ## The slots are sealed -/

theorem sealed_taskPieces (shapes : List Task.Shape) : Sealed (Shape.taskPieces shapes) := by
  induction shapes with
  | nil => exact trivial
  | cons shape shapes ih =>
    have hblock : Sealed (shape.pieces ++ [.fixed "\n"]) :=
      sealed_append shape.sealed_pieces trivial
    unfold Shape.taskPieces
    rw [List.flatMap_cons]
    exact sealed_append hblock ih

theorem sealed_pieces (shape : Shape) : Sealed shape.pieces := by
  have hblocks : Sealed (Shape.taskPieces shape.tasks ++ [.fixed "</div>"]) :=
    sealed_append (sealed_taskPieces shape.tasks) trivial
  have hstatus : Sealed (.slot :: (shape.statusPieces ++
      (Shape.taskPieces shape.tasks ++ [.fixed "</div>"]))) := by
    unfold Shape.statusPieces
    split
    · exact ⟨by decide, by decide, hblocks⟩
    · exact ⟨by decide, by decide, hblocks⟩
  exact shape.head.sealed_inlinePieces hstatus

/-! ## The list is its pieces, filled -/

variable (listing : Listing)

theorem fill_taskPieces (tasks : List Task) (more : List Piece) (others : List Text) :
    fill (Shape.taskPieces (tasks.map Task.shape) ++ more) (tasks.flatMap Task.texts ++ others) =
      tasks.flatMap (fun task => task.html ++ ['\n']) ++ fill more others := by
  induction tasks with
  | nil => rfl
  | cons task tasks ih =>
    have hblock := fill_append task.length_texts
      (.fixed "\n" :: (Shape.taskPieces (tasks.map Task.shape) ++ more))
      (tasks.flatMap Task.texts ++ others)
    have hnewline : ("\n" : Text) = ['\n'] := rfl
    rw [fill, ih, ← Task.html_eq_fill, hnewline] at hblock
    unfold Shape.taskPieces at hblock ⊢
    rw [List.map_cons, List.flatMap_cons, List.flatMap_cons, List.flatMap_cons]
    simp only [List.append_assoc, List.cons_append, List.nil_append] at hblock ⊢
    exact hblock

theorem render_errorNode (reason : Text) :
    (Node.element "span" [("class", "task-error")] [.text reason]).render =
      "<span class=\"task-error\">" ++ escape reason ++ "</span>" := by
  rw [Node.render, Node.renderAll, Node.renderAll, Node.render, List.append_nil]
  rfl

theorem render_countNode (n : Nat) :
    (Node.element "span" [("class", "tasklist-count")]
      [.text ('(' :: Text.ofNat n ++ [')'])]).render =
        "<span class=\"tasklist-count\">(" ++ escape (Text.ofNat n) ++ ")</span>" := by
  have hopen : ("<span class=\"tasklist-count\">(" : Text) =
      openTag "span" [("class", "tasklist-count")] ++ escapeChar '(' := rfl
  have hclose : (")</span>" : Text) = escape [')'] ++ closeTag "span" := rfl
  rw [Node.render, Node.renderAll, Node.renderAll, Node.render, List.append_nil, escape_append,
    escape_cons, hopen, hclose]
  simp only [List.append_assoc]

theorem render_statusNode : listing.statusNode.render =
    if listing.reason = [] then
      "<span class=\"tasklist-count\">(" ++ escape (Text.ofNat listing.tasks.length) ++ ")</span>"
    else "<span class=\"task-error\">" ++ escape listing.reason ++ "</span>" := by
  unfold statusNode reason
  match listing.error with
  | none => exact render_countNode _
  | some [] => exact render_countNode _
  | some (c :: reason) => exact render_errorNode _

theorem fill_statusPieces (more : List Piece) (others : List Text) :
    fill (listing.shape.statusPieces ++ more) (listing.status :: others) =
      ' ' :: (listing.statusNode.render ++ ("</h4>\n" ++ fill more others)) := by
  rw [render_statusNode]
  unfold Shape.statusPieces shape status
  by_cases h : listing.reason = []
  · have hopen : (" <span class=\"tasklist-count\">(" : Text) =
        ' ' :: "<span class=\"tasklist-count\">(" := rfl
    have hclose : (")</span></h4>\n" : Text) = ")</span>" ++ "</h4>\n" := rfl
    simp only [h, ne_eq, not_true_eq_false, decide_false, Bool.false_eq_true, if_false, if_true,
      List.cons_append, List.nil_append, fill, hopen, hclose, List.append_assoc]
  · have hopen : (" <span class=\"task-error\">" : Text) =
        ' ' :: "<span class=\"task-error\">" := rfl
    have hclose : ("</span></h4>\n" : Text) = "</span>" ++ "</h4>\n" := rfl
    simp only [h, ne_eq, not_false_eq_true, decide_true, if_false, if_true, List.cons_append,
      List.nil_append, fill, hopen, hclose, List.append_assoc]

theorem renderAll_blocks (tasks : List Task) :
    Node.renderAll ((tasks.map Task.node).flatMap fun part => [part, .text ['\n']]) =
      tasks.flatMap fun task => task.html ++ ['\n'] := by
  have hnewline : escape ['\n'] = ['\n'] := rfl
  rw [renderAll_flatMap, List.flatMap_map]
  simp only [Node.renderAll, Node.render, hnewline, List.append_nil]
  rfl

theorem html_eq_fill : listing.html = fill listing.shape.pieces listing.texts := by
  have hhead : listing.headNode.render = "<h4 class=\"tasklist-head\">" ++
      (Node.renderAll listing.head.inlineNodes ++
        ' ' :: (listing.statusNode.render ++ "</h4>")) := by
    have hspace : escape [' '] = [' '] := rfl
    unfold headNode
    rw [Node.render, renderAll_append, Node.renderAll, Node.renderAll, Node.renderAll, Node.render,
      hspace]
    simp only [List.append_assoc, List.cons_append, List.nil_append, List.append_nil]
    rfl
  have hopen : ("<div class=\"tasklist\">\n<h4 class=\"tasklist-head\">" : Text) =
      openTag "div" [("class", "tasklist")] ++
        (escape ['\n'] ++ "<h4 class=\"tasklist-head\">") := rfl
  have hnewline : ("</h4>\n" : Text) = "</h4>" ++ escape ['\n'] := rfl
  have hend : fill [.fixed "</div>"] [] = closeTag "div" := by
    rw [fill, fill, List.append_nil]
    rfl
  have htasks : listing.shape.tasks = listing.tasks.map Task.shape := rfl
  have hshape : listing.shape.head = listing.head.shape := rfl
  have hblocks := fill_taskPieces listing.tasks [.fixed "</div>"] []
  rw [List.append_nil, hend] at hblocks
  unfold html node Shape.pieces texts
  rw [Node.render, Node.renderAll, Node.render, List.flatMap_cons, renderAll_append,
    renderAll_blocks, Node.renderAll, Node.renderAll, Node.renderAll, Node.render, hhead, fill,
    hshape, Task.fill_inlinePieces, fill_statusPieces, htasks, hblocks, hopen, hnewline]
  simp only [List.append_assoc, List.cons_append, List.append_nil]

theorem length_texts : listing.texts.length = slots listing.shape.pieces := by
  have hstatus : slots listing.shape.statusPieces = 1 := by
    unfold Shape.statusPieces
    split <;> rfl
  have hblocks : ∀ tasks : List Task,
      slots (Shape.taskPieces (tasks.map Task.shape)) = (tasks.flatMap Task.texts).length := by
    intro tasks
    induction tasks with
    | nil => rfl
    | cons task tasks ih =>
      unfold Shape.taskPieces at ih ⊢
      rw [List.map_cons, List.flatMap_cons, List.flatMap_cons, slots_append, ih, List.length_append,
        Task.length_texts, slots_append]
      rfl
  unfold texts Shape.pieces
  rw [List.length_append, List.length_cons, Task.length_inlineTexts, slots_fixed, slots_append,
    slots_append, slots_append, hstatus]
  have htasks : listing.shape.tasks = listing.tasks.map Task.shape := rfl
  have hend : slots [.fixed "</div>"] = 0 := rfl
  rw [htasks, hblocks, hend]
  have hhead : listing.shape.head = listing.head.shape := rfl
  rw [hhead]
  omega

/-! ## The number of blocks -/

theorem named_statusNode : listing.statusNode.Named := by
  unfold statusNode
  split
  · exact ⟨by decide, by decide, trivial, trivial⟩
  · exact ⟨by decide, by decide, trivial, trivial⟩

theorem named_node : listing.node.Named := by
  have hhead : listing.headNode.Named :=
    ⟨by decide, by decide, allNamed_append.mpr
      ⟨listing.head.named_inlineNodes, trivial, listing.named_statusNode, trivial⟩⟩
  refine ⟨by decide, by decide, trivial, allNamed_iff.mpr fun node hnode => ?_⟩
  obtain ⟨part, hpart, hnode⟩ := List.mem_flatMap.mp hnode
  simp only [List.mem_cons, List.not_mem_nil, or_false] at hnode
  rcases hnode with rfl | rfl
  · rcases List.mem_cons.mp hpart with rfl | hpart
    · exact hhead
    · obtain ⟨task, -, rfl⟩ := List.mem_map.mp hpart
      exact task.named_node
  · trivial

theorem tagsOf_lines (parts : List Node) :
    Node.tagsOf (parts.flatMap fun part => [part, .text ['\n']]) = Node.tagsOf parts := by
  induction parts with
  | nil => rfl
  | cons part parts ih =>
    rw [List.flatMap_cons, tagsOf_append, ih]
    simp [Node.tagsOf, Node.tags]

theorem countP_taskNodes (tasks : List Task) :
    (Node.tagsOf (tasks.map Task.node)).countP Task.startsBlock = tasks.length := by
  induction tasks with
  | nil => rfl
  | cons task tasks ih =>
    rw [List.map_cons, Node.tagsOf, List.countP_append, task.countP_node, ih, List.length_cons]
    omega

theorem startsBlock_head : ∀ inside ∈ listing.headNode.tags, Task.startsBlock inside = false := by
  have hends : Task.startsBlock "h4 class=\"tasklist-head\"" = false ∧
      Task.startsBlock "/h4" = false := by decide
  have hstatus : ∀ inside ∈ listing.statusNode.tags, Task.startsBlock inside = false := by
    have herror : ∀ inside ∈ ([("span class=\"task-error\"" : Text), "/span"] : List Text),
        Task.startsBlock inside = false := by decide
    have hcount : ∀ inside ∈ ([("span class=\"tasklist-count\"" : Text), "/span"] : List Text),
        Task.startsBlock inside = false := by decide
    unfold statusNode
    split
    · exact herror
    · exact hcount
  have htags : listing.headNode.tags = ("h4 class=\"tasklist-head\"" : Text) ::
      (Node.tagsOf listing.head.inlineNodes ++ listing.statusNode.tags ++ [("/h4" : Text)]) := by
    unfold headNode
    rw [Node.tags, tagsOf_append]
    simp only [Node.tagsOf, Node.tags, List.nil_append, List.append_nil]
    rfl
  rw [htags]
  simp only [List.forall_mem_cons, List.forall_mem_append]
  exact ⟨hends.1, ⟨listing.head.startsBlock_inline, hstatus⟩, hends.2, nofun⟩

/-- A block starts for each task, and nowhere else. -/
theorem countP_html :
    (insides listing.html).countP Task.startsBlock = listing.tasks.length := by
  have hinsides : insides listing.html = listing.node.tags := by
    have hread := insides_render listing.node listing.named_node []
    have hnil : insides [] = [] := rfl
    rwa [List.append_nil, hnil, List.append_nil] at hread
  have hends : Task.startsBlock "div class=\"tasklist\"" = false ∧
      Task.startsBlock "/div" = false := by decide
  have htags : listing.node.tags = ("div class=\"tasklist\"" : Text) ::
      ((listing.headNode.tags ++ Node.tagsOf (listing.tasks.map Task.node)) ++
        [("/div" : Text)]) := by
    unfold node
    rw [Node.tags, Node.tagsOf, tagsOf_lines]
    rfl
  have hhead : listing.headNode.tags.countP Task.startsBlock = 0 :=
    List.countP_eq_zero.mpr (by simpa using listing.startsBlock_head)
  rw [hinsides, htags, List.countP_cons_of_neg (Bool.eq_false_iff.mp hends.1), List.countP_append,
    List.countP_append, hhead, countP_taskNodes, List.countP_singleton, hends.2]
  simp

end Listing

/-- The angle brackets of a task and of a list are those of their fixed pieces, each text is read
    back from its slot, and a list without an error shows the number of its blocks. -/
theorem texts_bring_no_markup :
    (∀ task : Task, brackets task.html = brackets (fill task.shape.pieces []) ∧
      read? task.shape.pieces task.html = some task.texts) ∧
    ∀ listing : Listing, brackets listing.html = brackets (fill listing.shape.pieces []) ∧
      read? listing.shape.pieces listing.html = some listing.texts ∧
      (insides listing.html).countP Task.startsBlock = listing.tasks.length ∧
      (listing.reason = [] →
        listing.status = Text.ofNat ((insides listing.html).countP Task.startsBlock)) := by
  refine ⟨fun task => ⟨?_, ?_⟩, fun listing => ⟨?_, ?_, listing.countP_html, fun hreason => ?_⟩⟩
  · rw [task.html_eq_fill, brackets_fill]
  · rw [task.html_eq_fill]
    exact read?_fill task.shape.sealed_pieces task.length_texts
  · rw [listing.html_eq_fill, brackets_fill]
  · rw [listing.html_eq_fill]
    exact read?_fill (Listing.sealed_pieces listing.shape) listing.length_texts
  · rw [listing.countP_html]
    exact if_pos hreason

/-- A list with a task that tries to end its block and start a heading. -/
def hostileListing : Listing :=
  { head := { keyword := .collect, description := "wiki:all" }
    tasks := [{ keyword := .todo, description := "</div><h1>&lt;</h1>" }] }

theorem texts_bring_no_markup_hostile :
    hostileListing.reason = [] ∧ hostileListing.status =
      Text.ofNat ((insides hostileListing.html).countP Task.startsBlock) :=
  ⟨rfl, (texts_bring_no_markup.2 hostileListing).2.2.2 rfl⟩

end Taskbook
