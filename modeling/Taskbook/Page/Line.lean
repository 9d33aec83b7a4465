/-
  Lines of a page that stand for something else. A line `INCLUDE_HEAD address` becomes an embedded
  frame, a task line its block, and a collecting line its task list. Each is followed by a blank
  line, so that the HTML block ends there.
-/
import Taskbook.Include.Listing

namespace Taskbook.Page

open Html

/-- The address in a frame line: one word behind the marker, with blanks before and after it. -/
def frameAddress? (line : Text) : Option Text :=
  match Text.dropPrefix? "INCLUDE_HEAD" line with
  | none => none
  | some rest =>
    let word := rest.dropWhile isBlank
    let address := word.takeWhile fun c => !isBlank c
    if rest.head?.any isBlank && address ≠ [] && (word.dropWhile fun c => !isBlank c).all isBlank
    then some address else none

/-- The embedded frame of an address. -/
def frame (url : Text) : Text :=
  (Node.element "div" [("class", "subtopic")] [.element "iframe" [("src", url)] []]).render

/-- A page with its frame lines replaced. -/
def placeFrames (content : Text) : Text :=
  Text.join ['\n'] <| (Text.lines content).map fun line =>
    match frameAddress? line with
    | some url => frame url ++ ['\n']
    | none => line

/-- Lines that were replaced, and the requests made for them. -/
structure Substitution where
  lines : List Text
  requested : List Text
  /-- Why a request could not be sent, if there was such a request. -/
  stopped : Option Http.AddressFault
  deriving DecidableEq, Repr

/-- The lines of a page with its task lines replaced. A collecting line tagged `recursive:true`
    expands the collecting lines it leads to, and takes the page itself as visited. -/
def replaceTasks (scope : Scope) (name : Text) : List Text → Substitution
  | [] => { lines := [], requested := [], stopped := none }
  | line :: rest =>
    match Task.parse? line with
    | none =>
      let after := replaceTasks scope name rest
      { after with lines := line :: after.lines }
    | some task =>
      if task.collects then
        let visited :=
          if task.tags.get? "recursive" = some "true" then some [pageOrigin name] else none
        let found := scope.resolve task visited
        match found.stopped with
        | some fault => { lines := [], requested := found.requested, stopped := some fault }
        | none =>
          let after := replaceTasks scope name rest
          { after with
            lines := (found.listing.html ++ ['\n']) :: after.lines
            requested := found.requested ++ after.requested }
      else
        let after := replaceTasks scope name rest
        { after with lines := (task.html ++ ['\n']) :: after.lines }

/-- A page with its task lines replaced. -/
def placeTasks (scope : Scope) (name content : Text) : Substitution :=
  replaceTasks scope name (Text.lines content)

/-- The text of the lines. -/
def Substitution.text (substitution : Substitution) : Text :=
  Text.join ['\n'] substitution.lines

end Taskbook.Page
