/-
  Trees of files. A path is the list of the names on the way from the root. A manifest is a tree
  written as JSON: an array of pairs, each of a path and the text of the file there, or null for a
  directory.
-/
import Taskbook.Json.Basic

namespace Taskbook.Import

/-- A file with its bytes, or a directory with its entries. -/
inductive FileTree where
  | file (bytes : Text.Bytes)
  | directory (entries : List (Text × FileTree))

namespace FileTree

/-- The entries of a directory. -/
def entries : FileTree → List (Text × FileTree)
  | .file _ => []
  | .directory entries => entries

/-- Whether there is a directory. -/
def isDirectory : FileTree → Bool
  | .file _ => false
  | .directory _ => true

/-- What is found at a path. -/
def find? (tree : FileTree) : List Text → Option FileTree
  | [] => some tree
  | name :: rest => (tree.entries.lookup name).bind fun entry => entry.find? rest

/-- An entry put in its place, or behind the others. -/
def putEntry (name : Text) (entry : FileTree) (entries : List (Text × FileTree)) :
    List (Text × FileTree) :=
  if entries.any (·.1 = name) then
    entries.map fun other => if other.1 = name then (name, entry) else other
  else entries ++ [(name, entry)]

/-- What is found at a path changed; directories on the way are made. -/
def change (make : Option FileTree → FileTree) : List Text → Option FileTree → FileTree
  | [], found => make found
  | name :: rest, found =>
    let entries := (found.map FileTree.entries).getD []
    .directory (putEntry name (change make rest (entries.lookup name)) entries)

/-- The names on the way to a place from another, whose names are given the last one first; a step
    back takes the last name off, and there is none behind the root. -/
def resolve (before : List Text) : List Text → List Text
  | [] => before.reverse
  | part :: rest =>
    if part = [] || part = ['.'] then resolve before rest
    else if part = ['.', '.'] then resolve (before.drop 1) rest
    else resolve (part :: before) rest

/-- A file written. -/
def write (tree : FileTree) (path : List Text) (bytes : Text.Bytes) : FileTree :=
  change (fun _ => .file bytes) path (some tree)

/-- A directory made, unless it is there. -/
def makeDirectory (tree : FileTree) (path : List Text) : FileTree :=
  change (fun found => .directory ((found.map FileTree.entries).getD [])) path (some tree)

/-- A file, or a directory where there are no bytes, put at a path written with slashes. -/
def put (tree : FileTree) (path : Text) (bytes : Option Text.Bytes) : FileTree :=
  let names := (Text.splitOn ['/'] path).filter (· ≠ [])
  match bytes with
  | some bytes => tree.write names bytes
  | none => tree.makeDirectory names

/-- An entry of a manifest put into a tree; an entry of another form is passed over. -/
def addEntry (tree : FileTree) : Json → FileTree
  | .array [.string path, .string content] => tree.put path (some (Text.encode content))
  | .array [.string path, .null] => tree.put path none
  | _ => tree

/-- The tree that a manifest lists. -/
def ofManifest : Json → FileTree
  | .array items => items.foldl addEntry (.directory [])
  | _ => .directory []

mutual

/-- A directory and all directories below it, each before those within it, with the ways to them
    behind the way to the first. -/
def directoriesFrom (way : List Text) : FileTree → List (List Text × FileTree)
  | .file _ => []
  | .directory entries => (way, .directory entries) :: directoriesAmong way entries

/-- The directories among entries and all directories below them. -/
def directoriesAmong (way : List Text) : List (Text × FileTree) → List (List Text × FileTree)
  | [] => []
  | (name, entry) :: rest => directoriesFrom (way ++ [name]) entry ++ directoriesAmong way rest

end

end FileTree

end Taskbook.Import
