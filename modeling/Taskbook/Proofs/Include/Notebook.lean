/-
  Notebooks as maps. A page that is put in is found, and every other page is found as before
  (`find?_put`). In the listing, what is read off the pages changes at most where the new page
  stands (`filterMap_listing_put`). Pages whose names are pairwise different make a notebook of just
  these pages (`pages_ofPages`).
-/
import Taskbook.Proofs.Include.Origin
import Taskbook.Proofs.Include.Find
import Taskbook.Proofs.Text.Order

namespace Taskbook.Notebook

variable {book book' : Notebook} {name content : Text}

theorem eq_of_pages (h : book.pages = book'.pages) : book = book' := by
  cases book
  cases book'
  congr

theorem pages_put_of_mem (h : name ∈ book.names) :
    (book.put name content).pages =
      book.pages.map fun page => if page.1 = name then (name, content) else page := by
  unfold put
  exact congrArg Notebook.pages (dif_pos h)

theorem pages_put_of_not_mem (h : name ∉ book.names) :
    (book.put name content).pages = book.pages ++ [(name, content)] := by
  unfold put
  exact congrArg Notebook.pages (dif_neg h)

theorem lookup_replace (pages : List (Text × Text)) (other : Text) :
    (pages.map fun page => if page.1 = name then (name, content) else page).lookup other =
      if other = name then (pages.lookup name).map fun _ => content else pages.lookup other := by
  induction pages with
  | nil => simp
  | cons page rest ih =>
    obtain ⟨key, value⟩ := page
    rw [List.map_cons]
    by_cases hkey : key = name
    · subst hkey
      rw [if_pos rfl, List.lookup_cons, ih]
      by_cases hother : other = key
      · simp [hother]
      · have hne : (other == key) = false := beq_eq_false_iff_ne.mpr hother
        simp [List.lookup_cons, hne, hother]
    · have hne : (name == key) = false := beq_eq_false_iff_ne.mpr (Ne.symm hkey)
      rw [if_neg hkey, List.lookup_cons, ih]
      by_cases hother : other = name
      · simp [List.lookup_cons, hother, hne]
      · simp [List.lookup_cons, hother]

/-- A page that is put in is found, and every other page is found as before. -/
theorem find?_put (book : Notebook) (name content other : Text) :
    (book.put name content).find? other =
      if other = name then some content else book.find? other := by
  by_cases hname : name ∈ book.names
  · have hfound : book.find? name ≠ none := fun hnone => find?_eq_none_iff.mp hnone hname
    obtain ⟨value, hvalue⟩ := Option.ne_none_iff_exists'.mp hfound
    unfold find? at hvalue ⊢
    rw [pages_put_of_mem hname, lookup_replace, hvalue, Option.map_some]
  · have hnone : book.find? name = none := find?_eq_none_iff.mpr hname
    unfold find? at hnone ⊢
    rw [pages_put_of_not_mem hname, List.lookup_append, List.lookup_cons]
    by_cases hother : other = name
    · simp [hother, hnone]
    · have hne : (other == name) = false := beq_eq_false_iff_ne.mpr hother
      simp [hne, hother]

/-! ## The listing -/

/-- The order in which pages are listed. -/
def listedBefore (page page' : Text × Text) : Bool := Text.le page.1.lower page'.1.lower

theorem filterMap_filter_isSome {α β : Type} (g : α → Option β) (items : List α) :
    (items.filter fun item => (g item).isSome).filterMap g = items.filterMap g := by
  rw [List.filterMap_filter]
  congr 1
  funext item
  cases g item <;> simp

theorem filterMap_listing {β : Type} (g : Text × Text → Option β) (book : Notebook) :
    book.listing.filterMap g =
      ((book.pages.filter fun page => (g page).isSome).mergeSort listedBefore).filterMap g := by
  have hfilter := Text.filter_mergeSort (fun a b c => Text.le_trans a.1.lower b.1.lower c.1.lower)
    (fun a b => Text.le_total a.1.lower b.1.lower) (fun page => (g page).isSome) book.pages
  rw [← filterMap_filter_isSome]
  unfold listing
  rw [hfilter]
  rfl

/-- A page that is put in the place of another keeps its name, so all pages keep their places. -/
theorem listing_put_of_mem (hname : name ∈ book.names) : (book.put name content).listing =
    book.listing.map fun page => if page.1 = name then (name, content) else page := by
  unfold listing
  rw [pages_put_of_mem hname, List.map_mergeSort]
  intro page _ page' _
  by_cases hpage : page.1 = name <;> by_cases hpage' : page'.1 = name <;> simp [hpage, hpage']

/-- What is read off the pages in the order of the listing is the same where nothing is read off the
    new page, or just what was read off the one in its place. -/
theorem filterMap_listing_put {β : Type} {g : Text × Text → Option β}
    (hstored : ∀ old, book.find? name = some old → g (name, content) = g (name, old))
    (hnew : book.find? name = none → g (name, content) = none) :
    (book.put name content).listing.filterMap g = book.listing.filterMap g := by
  by_cases hname : name ∈ book.names
  · rw [listing_put_of_mem hname, List.filterMap_map]
    refine List.filterMap_congr fun page hpage => ?_
    by_cases hsame : page.1 = name
    · obtain ⟨key, old⟩ := page
      subst hsame
      rw [Function.comp_apply, if_pos rfl]
      exact hstored old (find?_of_mem_pages (mem_listing.mp hpage))
    · rw [Function.comp_apply, if_neg hsame]
  · have hnone : g (name, content) = none := hnew (find?_eq_none_iff.mpr hname)
    rw [filterMap_listing, filterMap_listing, pages_put_of_not_mem hname, List.filter_append]
    simp [hnone]

theorem pages_foldl_put (pages : List (Text × Text)) (book : Notebook)
    (h : ((book.pages ++ pages).map Prod.fst).Nodup) :
    (pages.foldl (fun book page => book.put page.1 page.2) book).pages = book.pages ++ pages := by
  induction pages generalizing book with
  | nil => simp
  | cons page rest ih =>
    have hnew : page.1 ∉ book.names := by
      rw [List.map_append, List.nodup_append] at h
      exact fun hmem => h.2.2 _ hmem _ List.mem_cons_self rfl
    have hpages : (book.put page.1 page.2).pages = book.pages ++ [page] := pages_put_of_not_mem hnew
    rw [List.foldl_cons, ih, hpages, List.append_assoc]
    · rfl
    · rw [hpages, List.append_assoc]
      exact h

/-- Pages whose names are pairwise different make a notebook of just these pages. -/
theorem pages_ofPages {pages : List (Text × Text)} (h : (pages.map Prod.fst).Nodup) :
    (ofPages pages).pages = pages :=
  pages_foldl_put pages empty h

end Taskbook.Notebook
