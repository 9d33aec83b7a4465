/-
  The store of pages. A session works on its own state of the pages, which becomes the committed one
  or is thrown away. Times are seconds on one clock; entries are numbered as they are created, and a
  number that was thrown away is not given again.
-/
import Taskbook.Include.Notebook
import Taskbook.Text.Quoted

namespace Taskbook

/-- A page in the store. -/
structure Entry where
  number : Nat
  name : Text
  content : Text
  created : Nat
  updated : Nat
  deriving DecidableEq, Repr

namespace Entry

/-- The identifier of the entry: its number in the last of the five groups of digits of base 16. -/
def id (entry : Entry) : Text := "00000000-0000-0000-0000-" ++ Text.hexPadded 12 entry.number

/-- The entry in messages. -/
def label (entry : Entry) : Text := "<Page " ++ Text.quoted entry.name ++ ">"

end Entry

/-- What is said of a name under which there is no page. -/
def unknownPage (name : Text) : Text := "Page '" ++ name ++ "' not found"

/-- The pages of a wiki. -/
structure Store where
  /-- The pages as the session sees them, oldest first. -/
  entries : List Entry := []
  /-- The pages as they were committed. -/
  committed : List Entry := []
  /-- The number of entries ever created. -/
  issued : Nat := 0
  deriving DecidableEq, Repr

namespace Store

/-- The page of a name. -/
def find? (store : Store) (name : Text) : Option Entry := store.entries.find? (·.name = name)

/-- A page that is not there yet. -/
def create (store : Store) (now : Nat) (name content : Text) : Store × Entry :=
  let entry : Entry :=
    { number := store.issued + 1, name, content, created := now, updated := now }
  ({ store with entries := store.entries ++ [entry], issued := store.issued + 1 }, entry)

/-- A page whose content is replaced. -/
def replace (store : Store) (now : Nat) (entry : Entry) (content : Text) : Store × Entry :=
  let changed : Entry := { entry with content, updated := now }
  ({ store with
      entries := store.entries.map fun other => if other.name = entry.name then changed else other },
    changed)

/-- The store with a page of that name and content, and the page. A page that has the content
    already is left alone. -/
def save (store : Store) (now : Nat) (name content : Text) : Store × Entry :=
  match store.find? name with
  | none => store.create now name content
  | some entry =>
    if entry.content = content then (store, entry) else store.replace now entry content

/-- The store without a page, if there is one of that name. -/
def remove? (store : Store) (name : Text) : Option Store :=
  (store.find? name).map fun _ =>
    { store with entries := store.entries.filter fun entry => entry.name ≠ name }

/-- The pages in ascending order of their names, the case of ASCII letters aside. -/
def listing (store : Store) : List Entry :=
  store.entries.mergeSort fun a b => Text.le (Text.asciiLower a.name) (Text.asciiLower b.name)

/-- The pages as they are at this moment. -/
def notebook (store : Store) : Notebook :=
  .ofPages (store.entries.map fun entry => (entry.name, entry.content))

/-- What the session did stays. -/
def commit (store : Store) : Store := { store with committed := store.entries }

/-- What the session did is thrown away. -/
def rollback (store : Store) : Store := { store with entries := store.committed }

end Store

end Taskbook
