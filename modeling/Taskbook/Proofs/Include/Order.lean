/-
  The order in which pages were put in.

  A page is found by its name, and the listing is sorted by the lower case of the names. So where no
  two names have the same lower case, notebooks of the same pages find the same (`find?_eq_of_perm`)
  and list the same (`listing_eq_of_perm`), whatever the order they hold them in. No task tells them
  apart (`find_holding_of_perm`), and then neither does a call at any depth
  (`expandWithin_of_find_eq`, by induction on the limit).
-/
import Mathlib.Data.List.Nodup
import Taskbook.Proofs.Include.Put
import Taskbook.Proofs.Page.Frame
import Taskbook.Page.Render

namespace Taskbook

namespace Notebook

variable {book book' : Notebook}

theorem find?_eq_of_perm (h : book.pages.Perm book'.pages) (name : Text) :
    book'.find? name = book.find? name := by
  refine Option.ext fun content => ⟨fun hfound => ?_, fun hfound => ?_⟩
  · exact find?_of_mem_pages (h.mem_iff.mpr (mem_pages_of_find? hfound))
  · exact find?_of_mem_pages (h.mem_iff.mp (mem_pages_of_find? hfound))

theorem pairwise_listing (book : Notebook) :
    book.listing.Pairwise fun page page' => listedBefore page page' = true :=
  List.pairwise_mergeSort (fun a b c => Text.le_trans a.1.lower b.1.lower c.1.lower)
    (fun a b => Text.le_total a.1.lower b.1.lower) book.pages

theorem listing_eq_of_perm (h : book.pages.Perm book'.pages)
    (hlower : (book.names.map Text.lower).Nodup) : book'.listing = book.listing := by
  have hperm : book'.listing.Perm book.listing :=
    (List.mergeSort_perm _ _).trans (h.symm.trans (List.mergeSort_perm _ _).symm)
  have hkeys : (book.pages.map fun page => page.1.lower).Nodup := by
    rwa [names, List.map_map] at hlower
  refine hperm.eq_of_pairwise (fun page page' hpage hpage' hle hge => ?_) book'.pairwise_listing
    book.pairwise_listing
  -- Neither of the two is listed before the other, so their names have the same lower case.
  have hpages : page ∈ book.pages := mem_listing.mp (hperm.mem_iff.mp hpage)
  have hsame : page.1.lower = page'.1.lower := Text.le_antisymm hle hge
  exact List.inj_on_of_nodup_map hkeys hpages (mem_listing.mp hpage') hsame

end Notebook

namespace World

variable {world world' : World} {book book' : Notebook}

theorem allPages_holding_of_perm (h : book.pages.Perm book'.pages)
    (hlower : (book.names.map Text.lower).Nodup) (world : World) (handed : Tags) :
    (world.holding book').allPages handed = (world.holding book).allPages handed := by
  have hlisting : (world.holding book').notebook.listing = (world.holding book).notebook.listing :=
    Notebook.listing_eq_of_perm h hlower
  unfold allPages
  rw [hlisting]
  rfl

theorem page_holding_of_perm (h : book.pages.Perm book'.pages) (world : World) (handed : Tags)
    (name : Text) : (world.holding book').page handed name =
      (world.holding book).page handed name := by
  have hfind : (world.holding book').notebook.find? name =
      (world.holding book).notebook.find? name := Notebook.find?_eq_of_perm h name
  cases hpage : (world.holding book).notebook.find? name with
  | none => rw [page_of_none hpage, page_of_none (hfind.trans hpage)]
  | some content =>
    rw [page_of_some hpage, page_of_some (hfind.trans hpage)]
    rfl

theorem find_holding_of_perm (h : book.pages.Perm book'.pages)
    (hlower : (book.names.map Text.lower).Nodup) (world : World) (task : Task) :
    (world.holding book').find task = (world.holding book).find task := by
  rcases find_cases task with hall | ⟨url, -, hremote⟩ | ⟨name, hpage⟩ | hnothing
  · rw [hall, hall, allPages_holding_of_perm h hlower]
  · rw [hremote, hremote]
    rfl
  · rw [hpage, hpage, page_holding_of_perm h]
  · rw [hnothing, hnothing]

/-- Worlds in which every task points at the same expand every task alike. -/
theorem expandWithin_of_find_eq (h : ∀ task, world'.find task = world.find task) (limit : Nat) :
    world'.expandWithin limit = world.expandWithin limit := by
  induction limit with
  | zero => rfl
  | succ limit ih =>
    funext task visited
    unfold expandWithin
    rw [ih, h]

end World

/-- The scope with other pages. -/
def Scope.holding (scope : Scope) (book : Notebook) : Scope := { scope with notebook := book }

theorem Scope.resolve_of_find_eq {scope scope' : Scope}
    (h : ∀ task, scope'.world.find task = scope.world.find task) (task : Task)
    (visited : Option (List Text)) : scope'.resolve task visited = scope.resolve task visited := by
  refine resolve_eq_of_transfer (fun found hfound => ?_) (by rw [h])
  exact hfound.transfer (covers_nothing visited) (fun other _ => by rw [h]) rfl

/-- Where no two names have the same lower case, the order of the pages in a notebook has no effect:
    every task has the same list, with the same tasks in the same order, the same error, the same
    visited origins and the same requests one after another, and every page is rendered the same. -/
theorem page_order_has_no_effect {book book' : Notebook} (h : book.pages.Perm book'.pages)
    (hlower : (book.names.map Text.lower).Nodup) :
    (∀ (world : World) (limit : Nat) (task : Task) (visited : Option (List Text)),
      (world.holding book').resolveWithin limit task visited =
        (world.holding book).resolveWithin limit task visited) ∧
    ∀ (scope : Scope),
      (∀ task visited,
        (scope.holding book').resolve task visited = (scope.holding book).resolve task visited) ∧
      ∀ name content,
        Page.placeTasks (scope.holding book') name content =
          Page.placeTasks (scope.holding book) name content ∧
        Page.render (scope.holding book') name content =
          Page.render (scope.holding book) name content := by
  refine ⟨fun world limit task visited => ?_, fun scope => ?_⟩
  · have hfind := World.find_holding_of_perm h hlower world
    unfold World.resolveWithin
    rw [World.expandWithin_of_find_eq hfind, hfind]
  · have hfind : ∀ task, (scope.holding book').world.find task =
        (scope.holding book).world.find task := World.find_holding_of_perm h hlower scope.world
    have hresolve := Scope.resolve_of_find_eq hfind
    have hplace (name content : Text) : Page.placeTasks (scope.holding book') name content =
        Page.placeTasks (scope.holding book) name content :=
      Page.replaceTasks_congr fun task _ _ => hresolve task _
    refine ⟨hresolve, fun name content => ⟨hplace name content, ?_⟩⟩
    unfold Page.render
    rw [hplace]

/-- The pages of `circle` in the other order. -/
def circleReversed : Notebook where
  pages := circle.notebook.pages.reverse
  distinct := by decide

theorem page_order_has_no_effect_circle :
    circle.notebook.pages.Perm circleReversed.pages ∧
      (circle.notebook.names.map Text.lower).Nodup ∧
      (circle.holding circleReversed).resolveWithin 3
          { keyword := .collect, tags := [("wiki", "all")] } (some []) =
        (circle.holding circle.notebook).resolveWithin 3
          { keyword := .collect, tags := [("wiki", "all")] } (some []) := by
  have hperm : circle.notebook.pages.Perm circleReversed.pages :=
    (List.reverse_perm _).symm
  have hlower : (circle.notebook.names.map Text.lower).Nodup := by decide +kernel
  exact ⟨hperm, hlower, (page_order_has_no_effect hperm hlower).1 circle 3 _ _⟩

end Taskbook
