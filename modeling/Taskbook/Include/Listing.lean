/-
  Task lists. A collecting line is shown as a list: its own line as the head, with the number of
  tasks or the reason why there are none, and a block for each task. Collecting lines within the
  sources are expanded only if a list of visited origins is given; without one they stay as they
  are. In a scope the calls that expand them always come to an end, so there every collecting line
  has its list.
-/
import Taskbook.Include.Expansion
import Taskbook.Task.Block

namespace Taskbook

open Html

/-- The tasks that a collecting line stands for. -/
structure Listing where
  /-- The collecting line. -/
  head : Task
  tasks : List Task := []
  error : Option Text := none
  deriving DecidableEq, Repr

namespace Listing

/-- The reason why there are no tasks, else their number in parentheses. -/
def statusNode (listing : Listing) : Node :=
  match listing.error with
  | some (c :: reason) => .element "span" [("class", "task-error")] [.text (c :: reason)]
  | _ =>
    .element "span" [("class", "tasklist-count")]
      [.text ('(' :: Text.ofNat listing.tasks.length ++ [')'])]

/-- The head of the list. -/
def headNode (listing : Listing) : Node :=
  .element "h4" [("class", "tasklist-head")]
    (listing.head.inlineNodes ++ [.text [' '], listing.statusNode])

/-- The list as a block with each of its parts on a line of its own. -/
def node (listing : Listing) : Node :=
  .element "div" [("class", "tasklist")]
    (.text ['\n'] :: (listing.headNode :: listing.tasks.map Task.node).flatMap
      fun part => [part, .text ['\n']])

/-- The list as HTML. -/
def html (listing : Listing) : Text := listing.node.render

end Listing

/-- A task list with what was met on the way to it. -/
structure Resolution where
  listing : Listing
  /-- The origins met so far, if they are kept. -/
  visited : Option (List Text)
  /-- The addresses requested, oldest first. -/
  requested : List Text
  /-- Why a request could not be sent, if there was such a request. -/
  stopped : Option Http.AddressFault
  deriving DecidableEq, Repr

/-- The task list of a task; there is none if calls would nest deeper than `limit`. What calls below
    the first find wrong is not told. -/
def World.resolveWithin (world : World) (limit : Nat) (task : Task)
    (visited : Option (List Text)) : Option Resolution :=
  (world.expandWithin limit task visited).map fun found =>
    { listing :=
        { head := task, tasks := found.tasks
          error := (world.find task).error?.map IncludeError.message }
      visited := found.visited, requested := found.requested, stopped := found.stopped }

namespace Scope

/-- The names of all origins that collecting lines can lead to. -/
def origins (scope : Scope) : List Text := scope.world.origins scope.web.answering

/-- How deep calls nest at most. -/
def depth (scope : Scope) (visited : Option (List Text)) : Nat :=
  unvisited scope.origins visited + 1

theorem returns_call (scope : Scope) {visited later : Option (List Text)} (h : Grew visited later)
    (task : Task) : Returns later (scope.world.expandWithin (scope.depth visited) task later) :=
  returns_expandWithin (World.bounded_of_answering scope.web.mem_answering) trivial
    (Nat.lt_succ_of_le (unvisited_le_of_grew scope.origins h))

theorem isSome_resolveWithin (scope : Scope) (task : Task) (visited : Option (List Text)) :
    (scope.world.resolveWithin (scope.depth visited) task visited).isSome = true := by
  obtain ⟨found, hfound, _⟩ := scope.returns_call (.refl visited) task
  simp [World.resolveWithin, hfound]

/-- The task list of a task. -/
def resolve (scope : Scope) (task : Task) (visited : Option (List Text)) : Resolution :=
  (scope.world.resolveWithin (scope.depth visited) task visited).get
    (scope.isSome_resolveWithin task visited)

theorem isSome_sourceExpand (scope : Scope) (source : Source) (visited : Option (List Text)) :
    (source.expand (scope.world.expandWithin (scope.depth visited)) visited).isSome = true := by
  obtain ⟨found, hfound, _⟩ : Returns visited
      (source.expand (scope.world.expandWithin (scope.depth visited)) visited) := by
    refine returns_sourceExpand ?_
    rintro met rfl _ line _ _ later ⟨new, rfl⟩
    exact scope.returns_call ⟨source.origin.name :: new, by simp⟩ line
  simp [hfound]

/-- A task list with the tasks of one more text put behind its own. -/
def fold (scope : Scope) (listing : Listing) (text : Text) (origin : Origin)
    (visited : Option (List Text)) : Resolution :=
  let source : Source := { origin, text }
  let found := (source.expand (scope.world.expandWithin (scope.depth visited)) visited).get
    (scope.isSome_sourceExpand source visited)
  { listing := { listing with tasks := listing.tasks ++ found.tasks }
    visited := found.visited, requested := found.requested, stopped := found.stopped }

end Scope

end Taskbook
