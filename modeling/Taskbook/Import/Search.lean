/-
  The search for files in a tree. What is searched for is written as a way: between slashes stand
  patterns of names, two stars for a directory and all directories below it, and two dots for the
  directory above.
-/
import Taskbook.Import.FileTree
import Taskbook.Import.Pattern

namespace Taskbook.Import

/-- A step of a way. -/
inductive Step where
  /-- To the entries whose names fit a pattern. -/
  | into (pattern : List Piece)
  /-- To the directory itself and to all directories below it. -/
  | below
  /-- To the directory above. -/
  | back
  deriving DecidableEq, Repr

/-- A step read from its text. Two stars within a longer text have no meaning. -/
def Step.read? (s : Text) : Option Step :=
  if s = ['*', '*'] then some .below
  else if s = ['.', '.'] then some .back
  else if (Text.cut? ['*', '*'] s).isSome then none
  else some (.into (readPattern s))

/-- The steps of a way. -/
def readWay? (s : Text) : Option (List Step) :=
  ((Text.splitOn ['/'] s).filter fun part => part ≠ [] && part ≠ ['.']).mapM Step.read?

/-- What a search has come to. -/
structure Found where
  /-- The names gone through from the root, each step back among them. -/
  way : List Text
  /-- The place reached by them. -/
  place : List Text
  tree : FileTree

namespace Found

/-- What has the given names behind it. -/
def extend (found : Found) (names : List Text) (tree : FileTree) : Found :=
  { way := found.way ++ names, place := found.place ++ names, tree }

/-- What one step leads to. -/
def next (whole : FileTree) (found : Found) : Step → List Found
  | .into pattern =>
    (found.tree.entries.filter fun entry => fits pattern entry.1).map fun entry =>
      found.extend [entry.1] entry.2
  | .below =>
    (FileTree.directoriesFrom [] found.tree).map fun directory =>
      found.extend directory.1 directory.2
  | .back =>
    let place := found.place.dropLast
    [{ way := found.way ++ [['.', '.']], place, tree := (whole.find? place).getD (.directory []) }]

/-- What a way leads to. Only directories can be left. -/
def follow (whole : FileTree) : List Step → Found → List Found
  | [], found => [found]
  | step :: rest, found =>
    if found.tree.isDirectory then (found.next whole step).flatMap (follow whole rest) else []

/-- The same things found without those that were gone to before in the same way. Only a way that
    goes below more than once comes to a thing again. -/
def distinct (steps : List Step) (all : List Found) : List Found :=
  if 1 < steps.count .below then all.eraseDupsBy fun a b => a.way = b.way else all

end Found

/-- What is found anywhere below a place by a way, unless the way has no meaning. Behind a slash at
    the end of the way directories alone are found. -/
def FileTree.search? (whole : FileTree) (place : List Text) (way : Text) : Option (List Found) :=
  (readWay? way).map fun steps =>
    let start : Found := { way := place, place, tree := (whole.find? place).getD (.directory []) }
    let found := Found.distinct (.below :: steps) (start.follow whole (.below :: steps))
    if way.getLast? = some '/' then found.filter fun one => one.tree.isDirectory else found

end Taskbook.Import
