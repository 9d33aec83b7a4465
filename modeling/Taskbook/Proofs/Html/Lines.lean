/-
  Trees on one line. Escaping brings no line end in, so a tree is written on one line if there is
  none in its names, values and texts (`oneLine_render`).
-/
import Taskbook.Html.Node
import Taskbook.Proofs.Text.Lines

namespace Taskbook.Html

theorem oneLine_escapeChar {c : Char} (hc : isLineEnd c = false) :
    Text.OneLine (escapeChar c) := by
  unfold escapeChar
  split
  case h_6 => exact List.forall_mem_singleton.mpr hc
  all_goals decide

theorem oneLine_escape {s : Text} (h : Text.OneLine s) : Text.OneLine (escape s) := by
  intro c hc
  obtain ⟨d, hd, hmem⟩ := List.mem_flatMap.mp hc
  exact oneLine_escapeChar (h d hd) c hmem

mutual

/-- The names, values and texts of a tree have no line ends in them. -/
def Node.OneLine : Node → Prop
  | .text content => Text.OneLine content
  | .element name attributes children =>
    Text.OneLine name ∧ (∀ pair ∈ attributes, Text.OneLine pair.1 ∧ Text.OneLine pair.2) ∧
      Node.AllOneLine children

def Node.AllOneLine : List Node → Prop
  | [] => True
  | node :: rest => node.OneLine ∧ Node.AllOneLine rest

end

theorem allOneLine_append {nodes more : List Node} :
    Node.AllOneLine (nodes ++ more) ↔ Node.AllOneLine nodes ∧ Node.AllOneLine more := by
  induction nodes with
  | nil => simp [Node.AllOneLine]
  | cons node nodes ih => simp [Node.AllOneLine, ih, and_assoc]

theorem allOneLine_iff {nodes : List Node} :
    Node.AllOneLine nodes ↔ ∀ node ∈ nodes, node.OneLine := by
  induction nodes with
  | nil => simp [Node.AllOneLine]
  | cons node nodes ih => simp [Node.AllOneLine, ih]

theorem oneLine_renderAttribute {pair : Text × Text} (hname : Text.OneLine pair.1)
    (hvalue : Text.OneLine pair.2) : Text.OneLine (renderAttribute pair) := by
  have hequals : Text.OneLine "=\"" := by decide
  have hquote : Text.OneLine "\"" := by decide
  have hspace : Text.OneLine " " := by decide
  exact (((hspace.append hname).append hequals).append (oneLine_escape hvalue)).append hquote

theorem oneLine_openTag {name : Text} {attributes : List (Text × Text)} (hname : Text.OneLine name)
    (h : ∀ pair ∈ attributes, Text.OneLine pair.1 ∧ Text.OneLine pair.2) :
    Text.OneLine (openTag name attributes) := by
  have hopening : Text.OneLine "<" := by decide
  have hclosing : Text.OneLine ">" := by decide
  have hattributes : Text.OneLine (attributes.flatMap renderAttribute) := by
    intro c hc
    obtain ⟨pair, hpair, hc⟩ := List.mem_flatMap.mp hc
    exact oneLine_renderAttribute (h pair hpair).1 (h pair hpair).2 c hc
  exact ((hopening.append hname).append hattributes).append hclosing

theorem oneLine_closeTag {name : Text} (hname : Text.OneLine name) :
    Text.OneLine (closeTag name) := by
  have hopening : Text.OneLine "</" := by decide
  have hclosing : Text.OneLine ">" := by decide
  exact (hopening.append hname).append hclosing

mutual

/-- A tree without line ends is written on one line. -/
theorem oneLine_render : ∀ node : Node, node.OneLine → Text.OneLine node.render
  | .text content, h => by
    rw [Node.render]
    exact oneLine_escape h
  | .element name attributes children, h => by
    obtain ⟨hname, hattributes, hchildren⟩ := h
    rw [Node.render]
    exact ((oneLine_openTag hname hattributes).append (oneLine_renderAll children hchildren)).append
      (oneLine_closeTag hname)

theorem oneLine_renderAll : ∀ nodes : List Node, Node.AllOneLine nodes →
    Text.OneLine (Node.renderAll nodes)
  | [], _ => by
    rw [Node.renderAll]
    nofun
  | node :: nodes, h => by
    rw [Node.renderAll]
    exact (oneLine_render node h.1).append (oneLine_renderAll nodes h.2)

end

theorem head?_render_element (name : Text) (attributes : List (Text × Text))
    (children : List Node) : (Node.element name attributes children).render.head? = some '<' := by
  rw [Node.render]
  rfl

end Taskbook.Html
