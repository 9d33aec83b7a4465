/-
  Tasks as HTML. A task is a block of its own with the keyword in bold, the tags and the
  description, struck through when the task is over, and a link to the text it comes from.
-/
import Taskbook.Task.Basic
import Taskbook.Html.Node

namespace Taskbook.Task

open Html

/-- A tag as it is shown. -/
def tagNode (tag : Text × Text) : Node :=
  .element "span" [("class", "task-attr")] [.text (tag.1 ++ ':' :: tag.2)]

/-- Keyword, tags and description with a space between them. -/
def bodyNodes (task : Task) : List Node :=
  .element "b" [] [.text task.keyword.word] ::
    task.tags.flatMap (fun tag => [.text [' '], tagNode tag]) ++
      if task.description = [] then [] else [.text (' ' :: task.description)]

/-- The body, struck through when the task is over. -/
def inlineNodes (task : Task) : List Node :=
  if task.keyword.closed then [.element "del" [] task.bodyNodes] else task.bodyNodes

/-- The link to the task's origin. -/
def linkNodes (task : Task) : List Node :=
  match task.originUrl? with
  | none => []
  | some url =>
    if url = [] then []
    else [.text [' '], .element "a" [("class", "task-origin"), ("href", url)] [.text "edit"]]

/-- The task as a block. -/
def node (task : Task) : Node :=
  .element "div" [("class", "task task-" ++ task.keyword.className)]
    (task.inlineNodes ++ task.linkNodes)

/-- The body of the task as HTML. -/
def inlineHtml (task : Task) : Text := Node.renderAll task.inlineNodes

/-- The task as HTML. -/
def html (task : Task) : Text := task.node.render

end Taskbook.Task
