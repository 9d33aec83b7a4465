/-
  The form of a task as HTML. Its pieces depend on the keyword, the number of tags, and on whether
  there is a description and a link (`Task.Shape`); the texts of the task fill the slots
  (`Task.html_eq_fill`), each of which is sealed (`Task.Shape.sealed_pieces`).
-/
import Taskbook.Task.Block
import Taskbook.Proofs.Html.Element

namespace Taskbook

open Html

namespace Task

/-! ## Pieces -/

/-- What the form of a task depends on. -/
structure Shape where
  keyword : Keyword
  /-- The number of tags. -/
  tags : Nat
  described : Bool
  linked : Bool
  deriving DecidableEq

namespace Shape

def tagPieces : List Piece := [.fixed " <span class=\"task-attr\">", .slot, .fixed "</span>"]

def descriptionPieces (shape : Shape) : List Piece :=
  if shape.described then [.fixed " ", .slot] else []

/-- Keyword, tags and description. -/
def bodyPieces (shape : Shape) : List Piece :=
  .fixed ("<b>" ++ shape.keyword.word ++ "</b>") ::
    ((List.replicate shape.tags tagPieces).flatten ++ shape.descriptionPieces)

/-- The body, struck through when the task is over. -/
def inlinePieces (shape : Shape) : List Piece :=
  if shape.keyword.closed then .fixed "<del>" :: (shape.bodyPieces ++ [.fixed "</del>"])
  else shape.bodyPieces

def linkPieces (shape : Shape) : List Piece :=
  if shape.linked then [.fixed " <a class=\"task-origin\" href=\"", .slot, .fixed "\">edit</a>"]
  else []

/-- The task as a block. -/
def pieces (shape : Shape) : List Piece :=
  .fixed ("<div class=\"task task-" ++ shape.keyword.className ++ "\">") ::
    (shape.inlinePieces ++ (shape.linkPieces ++ [.fixed "</div>"]))

end Shape

/-- The address of the link, if there is one. -/
def linkUrl (task : Task) : Text := task.originUrl?.getD []

def shape (task : Task) : Shape :=
  { keyword := task.keyword
    tags := task.tags.length
    described := task.description ≠ []
    linked := task.linkUrl ≠ [] }

/-- A text, if it is not empty. -/
def filledText (s : Text) : List Text := if s = [] then [] else [s]

/-- The texts of the body: each tag with a colon between key and value, and the description. -/
def inlineTexts (task : Task) : List Text :=
  task.tags.map (fun tag => tag.1 ++ ':' :: tag.2) ++ filledText task.description

/-- The texts of the block: those of the body, and the address of the link. -/
def texts (task : Task) : List Text := task.inlineTexts ++ filledText task.linkUrl

/-! ## The slots are sealed -/

namespace Shape

variable {rest : List Piece}

theorem sealed_tagPieces (n : Nat) : Sealed (List.replicate n tagPieces).flatten := by
  induction n with
  | zero => exact trivial
  | succ n ih =>
    have hone : Sealed tagPieces := ⟨by decide, trivial⟩
    rw [List.replicate_succ, List.flatten_cons]
    exact sealed_append hone ih

theorem sealed_bodyPieces (shape : Shape) (h : Sealed (.slot :: rest)) :
    Sealed (shape.bodyPieces ++ rest) := by
  have hdescription : Sealed (shape.descriptionPieces ++ rest) := by
    unfold descriptionPieces
    split
    · exact h
    · exact sealed_tail h
  have hrest := sealed_append (sealed_tagPieces shape.tags) hdescription
  rw [← List.append_assoc] at hrest
  exact hrest

theorem sealed_inlinePieces (shape : Shape) (h : Sealed (.slot :: rest)) :
    Sealed (shape.inlinePieces ++ rest) := by
  unfold inlinePieces
  split
  · have hend : Sealed (.slot :: .fixed "</del>" :: rest) := ⟨by decide, sealed_tail h⟩
    have hbody := shape.sealed_bodyPieces hend
    rw [List.cons_append, List.append_assoc]
    exact hbody
  · exact shape.sealed_bodyPieces h

theorem sealed_pieces (shape : Shape) : Sealed shape.pieces := by
  have hend : Sealed (.slot :: (shape.linkPieces ++ [.fixed "</div>"])) := by
    unfold linkPieces
    split
    · exact ⟨by decide, by decide, trivial⟩
    · exact ⟨by decide, trivial⟩
  exact shape.sealed_inlinePieces hend

end Shape

/-! ## The block is its pieces, filled -/

variable (task : Task) (more : List Piece) (others : List Text)

theorem render_tagNode (tag : Text × Text) : (tagNode tag).render =
    "<span class=\"task-attr\">" ++ escape (tag.1 ++ ':' :: tag.2) ++ "</span>" := by
  unfold tagNode
  rw [Node.render, Node.renderAll, Node.renderAll, Node.render, List.append_nil]
  rfl

theorem fill_tagPieces (tags : Tags) :
    fill ((List.replicate tags.length Shape.tagPieces).flatten ++ more)
        (tags.map (fun tag => tag.1 ++ ':' :: tag.2) ++ others) =
      Node.renderAll (tags.flatMap fun tag => [.text [' '], tagNode tag]) ++ fill more others := by
  induction tags with
  | nil => rfl
  | cons tag tags ih =>
    have hspace : (" <span class=\"task-attr\">" : Text) =
        escape [' '] ++ "<span class=\"task-attr\">" := rfl
    rw [List.flatMap_cons, renderAll_append, Node.renderAll, Node.renderAll, Node.renderAll,
      Node.render, render_tagNode, List.length_cons, List.replicate_succ, List.flatten_cons,
      List.map_cons]
    simp only [Shape.tagPieces, List.cons_append, List.nil_append, fill] at ih ⊢
    rw [ih, hspace]
    simp only [List.append_assoc, List.nil_append]

theorem fill_descriptionPieces :
    fill (task.shape.descriptionPieces ++ more) (filledText task.description ++ others) =
      Node.renderAll (if task.description = [] then [] else [.text (' ' :: task.description)]) ++
        fill more others := by
  unfold Shape.descriptionPieces filledText shape
  by_cases h : task.description = []
  · simp [h, Node.renderAll]
  · have hspace : escape (' ' :: task.description) = ' ' :: escape task.description := rfl
    simp [h, Node.renderAll, Node.render, fill, hspace]

theorem render_keyword (keyword : Keyword) :
    (Node.element "b" [] [.text keyword.word]).render = "<b>" ++ keyword.word ++ "</b>" := by
  cases keyword with
  | act => rfl
  | todo => rfl
  | done => rfl
  | cancel => rfl
  | collect => rfl

theorem fill_bodyPieces :
    fill (task.shape.bodyPieces ++ more) (task.inlineTexts ++ others) =
      Node.renderAll task.bodyNodes ++ fill more others := by
  have hkeyword : task.shape.keyword = task.keyword := rfl
  have htags : task.shape.tags = task.tags.length := rfl
  unfold Shape.bodyPieces inlineTexts bodyNodes
  rw [renderAll_append, Node.renderAll, render_keyword, List.cons_append, fill, hkeyword, htags]
  simp only [List.append_assoc]
  rw [fill_tagPieces, fill_descriptionPieces]

theorem fill_inlinePieces :
    fill (task.shape.inlinePieces ++ more) (task.inlineTexts ++ others) =
      Node.renderAll task.inlineNodes ++ fill more others := by
  have hkeyword : task.shape.keyword = task.keyword := rfl
  unfold Shape.inlinePieces inlineNodes
  rw [hkeyword]
  split
  · have hdel : ∀ nodes : List Node, Node.renderAll [.element "del" [] nodes] =
        "<del>" ++ (Node.renderAll nodes ++ "</del>") := by
      intro nodes
      rw [Node.renderAll, Node.renderAll, Node.render, List.append_nil, List.append_assoc]
      rfl
    rw [hdel, List.cons_append, fill, List.append_assoc, fill_bodyPieces]
    simp only [List.cons_append, List.nil_append, fill, List.append_assoc]
  · exact fill_bodyPieces task more others

theorem openTag_link (url : Text) :
    openTag "a" [("class", "task-origin"), ("href", url)] =
      "<a class=\"task-origin\" href=\"" ++ (escape url ++ "\">") := by
  have hclass : renderAttribute ("class", "task-origin") = " class=\"task-origin\"" := rfl
  have hfront : ("<a class=\"task-origin\" href=\"" : Text) =
      "<" ++ "a" ++ " class=\"task-origin\"" ++ " href=\"" := rfl
  have hback : ("\">" : Text) = "\"" ++ ">" := rfl
  have hhref : renderAttribute ("href", url) = " href=\"" ++ (escape url ++ "\"") := by
    have hname : (" href=\"" : Text) = " " ++ "href" ++ "=\"" := rfl
    unfold renderAttribute
    rw [hname]
    simp only [List.append_assoc]
  unfold openTag
  rw [List.flatMap_cons, List.flatMap_cons, List.flatMap_nil, hclass, hhref, hfront, hback]
  simp only [List.append_assoc, List.append_nil]

theorem fill_linkPieces :
    fill (task.shape.linkPieces ++ more) (filledText task.linkUrl ++ others) =
      Node.renderAll task.linkNodes ++ fill more others := by
  unfold Shape.linkPieces filledText shape linkNodes linkUrl
  cases hurl : task.originUrl? with
  | none => simp [Node.renderAll]
  | some url =>
    by_cases h : url = []
    · simp [h, Node.renderAll]
    · have hedit : ("\">edit</a>" : Text) = "\">" ++ (escape "edit" ++ closeTag "a") := rfl
      have hspace : (" <a class=\"task-origin\" href=\"" : Text) =
          escape [' '] ++ "<a class=\"task-origin\" href=\"" := rfl
      simp only [Option.getD_some, h, if_false, decide_true, ne_eq, not_false_eq_true, if_true,
        List.cons_append, List.nil_append, fill, Node.renderAll, Node.render, openTag_link, hedit,
        hspace, List.append_assoc]

theorem html_eq_fill : task.html = fill task.shape.pieces task.texts := by
  have hend : fill [.fixed "</div>"] [] = closeTag "div" := by
    rw [fill, fill, List.append_nil]
    rfl
  have hopen : openTag "div" [("class", "task task-" ++ task.keyword.className)] =
      "<div class=\"task task-" ++ task.keyword.className ++ "\">" := by
    cases task.keyword with
    | act => rfl
    | todo => rfl
    | done => rfl
    | cancel => rfl
    | collect => rfl
  have hlink := fill_linkPieces task [.fixed "</div>"] []
  rw [List.append_nil] at hlink
  unfold html node Shape.pieces texts
  rw [fill, fill_inlinePieces, hlink, hend, Node.render, renderAll_append, hopen]
  simp only [List.append_assoc]
  rfl

/-! ## The number of slots -/

theorem slots_tagPieces (n : Nat) : slots (List.replicate n Shape.tagPieces).flatten = n := by
  induction n with
  | zero => rfl
  | succ n ih =>
    have hone : slots Shape.tagPieces = 1 := rfl
    rw [List.replicate_succ, List.flatten_cons, slots_append, ih, hone]
    omega

theorem length_inlineTexts : task.inlineTexts.length = slots task.shape.inlinePieces := by
  have hdescription :
      slots task.shape.descriptionPieces = (filledText task.description).length := by
    unfold Shape.descriptionPieces filledText shape
    by_cases h : task.description = [] <;> simp [h]
  have hbody : slots task.shape.bodyPieces =
      task.tags.length + (filledText task.description).length := by
    have htags : task.shape.tags = task.tags.length := rfl
    unfold Shape.bodyPieces
    rw [slots_fixed, slots_append, slots_tagPieces, hdescription, htags]
  have hinline : slots task.shape.inlinePieces = slots task.shape.bodyPieces := by
    unfold Shape.inlinePieces
    split <;> simp
  unfold inlineTexts
  rw [hinline, hbody, List.length_append, List.length_map]

theorem length_texts : task.texts.length = slots task.shape.pieces := by
  have hlink : slots task.shape.linkPieces = (filledText task.linkUrl).length := by
    unfold Shape.linkPieces filledText shape
    by_cases h : task.linkUrl = [] <;> simp [h]
  unfold texts Shape.pieces
  rw [List.length_append, length_inlineTexts, slots_fixed, slots_append, slots_append, hlink]
  rfl

/-! ## The tags of a block -/

/-- Whether a tag starts the block of a task. -/
def startsBlock (inside : Text) : Bool := inside.startsWith "div class=\"task task-"

variable {task}

theorem mem_bodyNodes {node : Node} (h : node ∈ task.bodyNodes) :
    node = .element "b" [] [.text task.keyword.word] ∨ (∃ tag, node = tagNode tag) ∨
      ∃ content, node = .text content := by
  unfold bodyNodes at h
  simp only [List.mem_append, List.mem_cons, List.mem_flatMap, List.not_mem_nil, or_false] at h
  rcases h with (rfl | ⟨tag, -, rfl | rfl⟩) | h
  · exact Or.inl rfl
  · exact Or.inr (Or.inr ⟨_, rfl⟩)
  · exact Or.inr (Or.inl ⟨tag, rfl⟩)
  · split at h
    · cases h
    · exact Or.inr (Or.inr ⟨_, List.mem_singleton.mp h⟩)

variable (task)

theorem named_inlineNodes : Node.AllNamed task.inlineNodes := by
  have hbody : Node.AllNamed task.bodyNodes := by
    refine allNamed_iff.mpr fun node hnode => ?_
    rcases mem_bodyNodes hnode with rfl | ⟨tag, rfl⟩ | ⟨content, rfl⟩
    · exact ⟨by decide, nofun, trivial, trivial⟩
    · exact ⟨by decide, by decide, trivial, trivial⟩
    · trivial
  unfold inlineNodes
  split
  · exact ⟨⟨by decide, nofun, hbody⟩, trivial⟩
  · exact hbody

theorem named_node : task.node.Named := by
  have hclass : IsName "class" ∧ IsName "href" := by decide
  have hlink : Node.AllNamed task.linkNodes := by
    unfold linkNodes
    split
    · trivial
    · split
      · trivial
      · have hnames := List.forall_mem_cons.mpr ⟨hclass.1, List.forall_mem_singleton.mpr hclass.2⟩
        exact ⟨trivial, ⟨by decide, by simpa using hnames, trivial, trivial⟩, trivial⟩
  refine ⟨by decide, List.forall_mem_singleton.mpr hclass.1, ?_⟩
  exact allNamed_append.mpr ⟨task.named_inlineNodes, hlink⟩

/-- No block starts in the body of a task. -/
theorem startsBlock_inline :
    ∀ inside ∈ Node.tagsOf task.inlineNodes, startsBlock inside = false := by
  have hbold : ∀ inside ∈ ([("b" : Text), "/b"] : List Text), startsBlock inside = false := by
    decide
  have hspan : ∀ inside ∈ ([("span class=\"task-attr\"" : Text), "/span"] : List Text),
      startsBlock inside = false := by decide
  have hdel : startsBlock "del" = false ∧ startsBlock "/del" = false := by decide
  have hbody : ∀ inside ∈ Node.tagsOf task.bodyNodes, startsBlock inside = false := by
    intro inside hinside
    obtain ⟨node, hnode, hinside⟩ := mem_tagsOf.mp hinside
    rcases mem_bodyNodes hnode with rfl | ⟨tag, rfl⟩ | ⟨content, rfl⟩
    · exact hbold inside hinside
    · exact hspan inside hinside
    · rw [Node.tags] at hinside
      cases hinside
  unfold inlineNodes
  split
  · have htags : Node.tagsOf [.element "del" [] task.bodyNodes] =
        ("del" : Text) :: (Node.tagsOf task.bodyNodes ++ [("/del" : Text)]) := by
      rw [Node.tagsOf, Node.tagsOf, Node.tags, List.append_nil]
      rfl
    rw [htags]
    simp only [List.forall_mem_cons, List.forall_mem_append]
    exact ⟨hdel.1, hbody, hdel.2, nofun⟩
  · exact hbody

/-- A block starts with a task and nowhere else. -/
theorem countP_node : task.node.tags.countP startsBlock = 1 := by
  have hlink : ∀ inside ∈ Node.tagsOf task.linkNodes, startsBlock inside = false := by
    unfold linkNodes
    split
    · nofun
    · split
      · nofun
      · intro inside hinside
        simp only [Node.tagsOf, Node.tags, List.nil_append, List.append_nil, List.mem_cons,
          List.not_mem_nil, or_false] at hinside
        rcases hinside with rfl | rfl
        · rfl
        · rfl
  have hopen : startsBlock ("div class=\"task task-" ++ (task.keyword.className ++ "\"")) = true :=
    List.isPrefixOf_iff_prefix.mpr (List.prefix_append _ _)
  have hclose : startsBlock "/div" = false := by decide
  have htags : task.node.tags = ("div class=\"task task-" ++ (task.keyword.className ++ "\"")) ::
      (Node.tagsOf task.inlineNodes ++ Node.tagsOf task.linkNodes ++ [("/div" : Text)]) := by
    unfold node
    rw [Node.tags, tagsOf_append]
    cases task.keyword with
    | act => rfl
    | todo => rfl
    | done => rfl
    | cancel => rfl
    | collect => rfl
  have hnone : (Node.tagsOf task.inlineNodes ++ Node.tagsOf task.linkNodes ++
      [("/div" : Text)]).countP startsBlock = 0 := by
    refine List.countP_eq_zero.mpr ?_
    simp only [List.forall_mem_append, Bool.not_eq_true]
    exact ⟨⟨task.startsBlock_inline, hlink⟩, List.forall_mem_singleton.mpr hclose⟩
  rw [htags, List.countP_cons_of_pos hopen, hnone]

end Task

end Taskbook
