/-
  Tasks, the tags they carry and the origins they come from.
-/
import Taskbook.Text.Quoted

namespace Taskbook

/-- Keys with their values, in the order in which they were written. A key may stand more than once;
    the first of its values counts. -/
abbrev Tags := List (Text × Text)

namespace Tags

/-- The value that counts for a key. -/
def get? (tags : Tags) (key : Text) : Option Text := tags.lookup key

/-- Whether a key stands among the tags. -/
def has (tags : Tags) (key : Text) : Bool := tags.any (·.1 = key)

/-- The value that counts for a key, unless it is empty. -/
def filled? (tags : Tags) (key : Text) : Option Text := (tags.get? key).filter (· ≠ [])

/-- The tags with every tag of `handed` put behind them whose key is not there yet. -/
def inherit (tags handed : Tags) : Tags :=
  handed.foldl (fun own tag => if own.has tag.1 then own else own ++ [tag]) tags

/-- One more tag; a key that is there keeps its place and takes the new value. -/
def put (tags : Tags) (key value : Text) : Tags :=
  if tags.has key then tags.map fun tag => if tag.1 = key then (key, value) else tag
  else tags ++ [(key, value)]

/-- The pairs read from left to right, each put to those before it. -/
def ofPairs (pairs : List (Text × Text)) : Tags :=
  pairs.foldl (fun tags pair => tags.put pair.1 pair.2) []

end Tags

/-- The word a task line starts with. -/
inductive Keyword where
  | act
  | todo
  | done
  | cancel
  | collect
  deriving DecidableEq, Repr

namespace Keyword

/-- All keywords; where one is the head of another the longer one comes first. -/
def all : List Keyword := [.todo, .done, .act, .cancel, .collect]

/-- The keyword as it is written on a line. -/
def word : Keyword → Text
  | .act => "DO"
  | .todo => "TODO"
  | .done => "DONE"
  | .cancel => "CANCEL"
  | .collect => "INCLUDE"

/-- The keyword as it is written in a class name. -/
def className : Keyword → Text
  | .act => "do"
  | .todo => "todo"
  | .done => "done"
  | .cancel => "cancel"
  | .collect => "include"

/-- The keyword that is written as a given word. -/
def ofWord? (s : Text) : Option Keyword := all.find? (·.word = s)

/-- What is said of a word that is no keyword. -/
def unknownMessage (s : Text) : Text := Text.quoted s ++ " is not a valid TaskKind"

/-- Whether the task is over. -/
def closed : Keyword → Bool
  | .done | .cancel => true
  | _ => false

end Keyword

/-- Where tasks come from: a page of the wiki or a remote text. -/
structure Origin where
  /-- A slash and the page's name, or the address itself. -/
  name : Text
  viewUrl : Text
  /-- Only pages of the wiki can be edited. -/
  editUrl : Option Text := none
  /-- Tags handed down by the lines that led here. -/
  tags : Tags := []
  /-- Tags that the page's name implies; collecting lines do not take them over. -/
  implied : Tags := []
  deriving DecidableEq, Repr

/-- The address to follow: where the text can be edited, else where it can be seen. -/
def Origin.url (origin : Origin) : Text :=
  match origin.editUrl with
  | some url => if url = [] then origin.viewUrl else url
  | none => origin.viewUrl

/-- One task. -/
structure Task where
  keyword : Keyword
  tags : Tags := []
  description : Text := []
  origin : Option Origin := none
  deriving DecidableEq, Repr

namespace Task

/-- Whether the task stands for the tasks of other texts. -/
def collects (task : Task) : Bool := task.keyword = .collect

/-- The task with tags handed to it. -/
def inherit (task : Task) (handed : Tags) : Task := { task with tags := task.tags.inherit handed }

/-- The address of the task's origin. -/
def originUrl? (task : Task) : Option Text := task.origin.map Origin.url

end Task

end Taskbook
