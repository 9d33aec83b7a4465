/-
  The tags of a tree that is written. Texts and values of attributes are escaped, so the tags of the
  text are those of the elements, each with its two (`insides_render`).
-/
import Taskbook.Html.Node
import Taskbook.Proofs.Html.Skeleton
import Taskbook.Proofs.Html.Tag

namespace Taskbook.Html

theorem renderAll_append (nodes more : List Node) :
    Node.renderAll (nodes ++ more) = Node.renderAll nodes ++ Node.renderAll more := by
  induction nodes with
  | nil => rw [List.nil_append, Node.renderAll, List.nil_append]
  | cons node nodes ih =>
    rw [List.cons_append, Node.renderAll, Node.renderAll, ih, List.append_assoc]

theorem renderAll_flatMap {α : Type} (items : List α) (f : α → List Node) :
    Node.renderAll (items.flatMap f) = items.flatMap fun item => Node.renderAll (f item) := by
  induction items with
  | nil => rw [List.flatMap_nil, List.flatMap_nil, Node.renderAll]
  | cons item items ih => rw [List.flatMap_cons, List.flatMap_cons, renderAll_append, ih]

/-! ## Tags of a text -/

/-- What is inside the tags of a text. -/
def insides (html : Text) : List Text := (Markup.read html).tags.map Tag.inside

theorem insides_append {s : Text} (hs : '<' ∉ s) (rest : Text) :
    insides (s ++ rest) = insides rest := by
  unfold insides
  rw [Markup.read_append hs]

theorem insides_tag {inside : Text} (hopening : '<' ∉ inside) (hclosing : '>' ∉ inside)
    (rest : Text) : insides ('<' :: (inside ++ '>' :: rest)) = inside :: insides rest := by
  unfold insides
  rw [Markup.read_tag hopening hclosing]
  rfl

/-! ## Tags of a tree -/

/-- No angle bracket is in a name. -/
def IsName (name : Text) : Prop := '<' ∉ name ∧ '>' ∉ name

instance (name : Text) : Decidable (IsName name) := inferInstanceAs (Decidable (_ ∧ _))

mutual

/-- The names of elements and attributes have no angle brackets in them. -/
def Node.Named : Node → Prop
  | .text _ => True
  | .element name attributes children =>
    IsName name ∧ (∀ pair ∈ attributes, IsName pair.1) ∧ Node.AllNamed children

def Node.AllNamed : List Node → Prop
  | [] => True
  | node :: rest => node.Named ∧ Node.AllNamed rest

end

mutual

/-- What is inside the tags of a tree. -/
def Node.tags : Node → List Text
  | .text _ => []
  | .element name attributes children =>
    (name ++ attributes.flatMap renderAttribute) :: (Node.tagsOf children ++ ['/' :: name])

def Node.tagsOf : List Node → List Text
  | [] => []
  | node :: rest => node.tags ++ Node.tagsOf rest

end

theorem tagsOf_append (nodes more : List Node) :
    Node.tagsOf (nodes ++ more) = Node.tagsOf nodes ++ Node.tagsOf more := by
  induction nodes with
  | nil => rw [List.nil_append, Node.tagsOf, List.nil_append]
  | cons node nodes ih =>
    rw [List.cons_append, Node.tagsOf, Node.tagsOf, ih, List.append_assoc]

theorem allNamed_append {nodes more : List Node} :
    Node.AllNamed (nodes ++ more) ↔ Node.AllNamed nodes ∧ Node.AllNamed more := by
  induction nodes with
  | nil => simp [Node.AllNamed]
  | cons node nodes ih => simp [Node.AllNamed, ih, and_assoc]

theorem allNamed_iff {nodes : List Node} : Node.AllNamed nodes ↔ ∀ node ∈ nodes, node.Named := by
  induction nodes with
  | nil => simp [Node.AllNamed]
  | cons node nodes ih => simp [Node.AllNamed, ih]

theorem mem_tagsOf {nodes : List Node} {inside : Text} :
    inside ∈ Node.tagsOf nodes ↔ ∃ node ∈ nodes, inside ∈ node.tags := by
  induction nodes with
  | nil => simp [Node.tagsOf]
  | cons node nodes ih => simp [Node.tagsOf, ih]

/-- The value of an attribute brings no angle bracket in. -/
theorem isName_renderAttribute {pair : Text × Text} (h : IsName pair.1) :
    IsName (renderAttribute pair) := by
  have hopening : '<' ∉ escape pair.2 := notMem_escape rfl pair.2
  have hclosing : '>' ∉ escape pair.2 := notMem_escape rfl pair.2
  have hfixed : IsName " " ∧ IsName "=\"" ∧ IsName "\"" := by decide
  obtain ⟨hspace, hequals, hquote⟩ := hfixed
  unfold renderAttribute
  refine ⟨?_, ?_⟩
  · simp only [List.mem_append, not_or]
    exact ⟨⟨⟨⟨hspace.1, h.1⟩, hequals.1⟩, hopening⟩, hquote.1⟩
  · simp only [List.mem_append, not_or]
    exact ⟨⟨⟨⟨hspace.2, h.2⟩, hequals.2⟩, hclosing⟩, hquote.2⟩

theorem isName_openTag {name : Text} {attributes : List (Text × Text)} (hname : IsName name)
    (hattributes : ∀ pair ∈ attributes, IsName pair.1) :
    IsName (name ++ attributes.flatMap renderAttribute) := by
  refine ⟨?_, ?_⟩
  · simp only [List.mem_append, List.mem_flatMap, not_or, not_exists, not_and]
    exact ⟨hname.1, fun pair hpair => (isName_renderAttribute (hattributes pair hpair)).1⟩
  · simp only [List.mem_append, List.mem_flatMap, not_or, not_exists, not_and]
    exact ⟨hname.2, fun pair hpair => (isName_renderAttribute (hattributes pair hpair)).2⟩

mutual

/-- The tags of a tree that is written are those of the tree. -/
theorem insides_render : ∀ node : Node, node.Named → ∀ rest : Text,
    insides (node.render ++ rest) = node.tags ++ insides rest
  | .text content, _, rest => by
    rw [Node.render, Node.tags, insides_append (notMem_escape rfl content)]
    rfl
  | .element name attributes children, hnamed, rest => by
    obtain ⟨hname, hattributes, hchildren⟩ := hnamed
    obtain ⟨hopening, hclosing⟩ := isName_openTag hname hattributes
    have hclose : '<' ∉ '/' :: name ∧ '>' ∉ '/' :: name := by simp [hname.1, hname.2]
    have htext : (Node.element name attributes children).render ++ rest =
        '<' :: ((name ++ attributes.flatMap renderAttribute) ++ '>' ::
          (Node.renderAll children ++ '<' :: (('/' :: name) ++ '>' :: rest))) := by
      have hlt : ("<" : Text) = ['<'] := rfl
      have hgt : (">" : Text) = ['>'] := rfl
      have hslash : ("</" : Text) = ['<', '/'] := rfl
      rw [Node.render, openTag, closeTag, hlt, hgt, hslash]
      simp only [List.append_assoc, List.cons_append, List.nil_append]
    rw [htext, insides_tag hopening hclosing, insides_renderAll children hchildren,
      insides_tag hclose.1 hclose.2, Node.tags]
    simp

theorem insides_renderAll : ∀ nodes : List Node, Node.AllNamed nodes → ∀ rest : Text,
    insides (Node.renderAll nodes ++ rest) = Node.tagsOf nodes ++ insides rest
  | [], _, rest => by
    rw [Node.renderAll, Node.tagsOf]
    rfl
  | node :: nodes, hnamed, rest => by
    obtain ⟨hnode, hnodes⟩ := hnamed
    rw [Node.renderAll, Node.tagsOf, List.append_assoc, List.append_assoc,
      insides_render node hnode, insides_renderAll nodes hnodes]

end

end Taskbook.Html
