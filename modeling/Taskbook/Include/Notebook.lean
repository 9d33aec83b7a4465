/-
  A notebook: pages by name, read at one moment. Names are pairwise different and keep the order in
  which they were put in; `listing` has them in the order of their lower-case names.
-/
import Taskbook.Text.Case

namespace Taskbook

/-- Pages by name. -/
structure Notebook where
  pages : List (Text × Text)
  distinct : (pages.map Prod.fst).Nodup

namespace Notebook

/-- The notebook without pages. -/
def empty : Notebook := ⟨[], List.nodup_nil⟩

/-- The names in the order in which they were put in. -/
def names (book : Notebook) : List Text := book.pages.map Prod.fst

/-- The content of a page. -/
def find? (book : Notebook) (name : Text) : Option Text := book.pages.lookup name

/-- Whether there is a page of that name. -/
def contains (book : Notebook) (name : Text) : Bool := book.names.contains name

theorem map_fst_replace (pages : List (Text × Text)) (name content : Text) :
    (pages.map fun page => if page.1 = name then (name, content) else page).map Prod.fst =
      pages.map Prod.fst := by
  induction pages with
  | nil => rfl
  | cons page rest ih =>
    simp only [List.map_cons, ih]
    by_cases h : page.1 = name <;> simp [h]

/-- The notebook with one page set; a page that is there keeps its place. -/
def put (book : Notebook) (name content : Text) : Notebook :=
  if h : name ∈ book.pages.map Prod.fst then
    { pages := book.pages.map fun page => if page.1 = name then (name, content) else page
      distinct := by rw [map_fst_replace]; exact book.distinct }
  else
    { pages := book.pages ++ [(name, content)]
      distinct := by
        rw [List.map_append, List.nodup_append]
        refine ⟨book.distinct, by simp, ?_⟩
        intro a ha b hb hab
        simp only [List.map_cons, List.map_nil, List.mem_singleton] at hb
        exact h (hb ▸ hab ▸ ha) }

/-- The pages put in one after another. -/
def ofPages (pages : List (Text × Text)) : Notebook :=
  pages.foldl (fun book page => book.put page.1 page.2) empty

/-- Pages in ascending order of the lower case of their names. -/
def listing (book : Notebook) : List (Text × Text) :=
  book.pages.mergeSort fun a b => Text.le a.1.lower b.1.lower

theorem mem_listing {book : Notebook} {page : Text × Text} :
    page ∈ book.listing ↔ page ∈ book.pages :=
  (List.mergeSort_perm _ _).mem_iff

theorem mem_pages_of_find? {book : Notebook} {name content : Text}
    (h : book.find? name = some content) : (name, content) ∈ book.pages := by
  obtain ⟨before, after, hpages, -⟩ := List.lookup_eq_some_iff.mp h
  rw [hpages]
  exact List.mem_append_right _ List.mem_cons_self

end Notebook

end Taskbook
