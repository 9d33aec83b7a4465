/-
  Names that carry a tag: `ProjectWidgets` is the page of `project:Widgets` and `ContextHome` that
  of `context:Home`. `impliedTags` reads the tag off a name and `target?` finds the name for a task.
-/
import Taskbook.Task.Basic
import Taskbook.Text.Class

namespace Taskbook

/-- The value of a tag in a name: a capital and word characters. -/
def PageName.tagValue? (rest : Text) : Option Text :=
  match rest with
  | c :: tail => if isCapital c && tail.all isWord then some rest else none
  | [] => none

/-- The tag that a page's name implies; a final line feed of the name does not count. -/
def PageName.impliedTags (name : Text) : Tags :=
  let stem := Text.dropFinalNewline name
  match (Text.dropPrefix? "Project" stem).bind tagValue? with
  | some value => [("project", value)]
  | none =>
    match (Text.dropPrefix? "Context" stem).bind tagValue? with
    | some value => [("context", value)]
    | none => []

/-- The page a task names: by a `wiki` tag, else by its context, else by its project. -/
def Task.target? (task : Task) : Option Text :=
  task.tags.filled? "wiki" <|>
    (task.tags.filled? "context").map (("Context" : Text) ++ ·) <|>
    (task.tags.filled? "project").map (("Project" : Text) ++ ·)

end Taskbook
