/-
  Lists without visited origins.

  Where no origins are kept, nothing is passed over and no collecting line is expanded: a task lists
  the lines of all sources that it points at, source after source, collecting lines as they are
  (`resolveWithin_none`). No call stands below the first, so any limit from 1 on gives the list. A
  task that asks for all pages lists the lines of a page as the source of that page has them
  (`filter_allPages`).
-/
import Taskbook.Include.Listing
import Taskbook.Proofs.Include.Find
import Taskbook.Proofs.Include.Origin

namespace Taskbook

section

variable (call : Task → Option (List Text) → Option Expansion)

theorem expandTasks_none (tasks : List Task) :
    expandTasks call tasks none = some { tasks, visited := none } := by
  induction tasks with
  | nil => rfl
  | cons task rest ih =>
    have hkept : ¬ (task.collects && (none : Option (List Text)).isSome) = true := by
      rw [Option.isSome_none, Bool.and_false]
      exact Bool.false_ne_true
    rw [expandTasks, if_neg hkept, ih]
    rfl

theorem expandSources_none (sources : List Source) :
    expandSources call sources none =
      some { tasks := sources.flatMap Source.tasks, visited := none } := by
  induction sources with
  | nil => rfl
  | cons source rest ih =>
    have hsource : source.expand call none = some { tasks := source.tasks, visited := none } :=
      expandTasks_none call source.tasks
    rw [expandSources, hsource]
    change (expandSources call rest none).map _ = _
    rw [ih]
    rfl

end

/-- The list of a task that points at the given sources, with collecting lines as they are. -/
def Resolution.literal (task : Task) (sources : List Source) : Resolution where
  listing := { head := task, tasks := sources.flatMap Source.tasks }
  visited := none
  requested := task.address?.toList
  stopped := none

namespace World

variable {world : World} {task : Task} {name content : Text}

theorem resolveWithin_none {sources : List Source} (h : world.find task = .sources sources)
    {limit : Nat} (hlimit : 1 ≤ limit) :
    world.resolveWithin limit task none = some (.literal task sources) := by
  obtain ⟨below, rfl⟩ := Nat.exists_eq_add_of_le' hlimit
  have hfound : world.expandWithin (below + 1) task none =
      some { tasks := sources.flatMap Source.tasks, visited := none
             requested := task.address?.toList } := by
    rw [expandWithin]
    simp only [h, expandSources_none, Option.map_some, List.append_nil]
  rw [resolveWithin, hfound, h]
  rfl

/-! ## Of all pages one -/

theorem filter_pageSource (handed : Tags) (page : Text × Text) (name : Text) :
    (world.pageSource handed page.1 page.2).tasks.filter (·.comesFrom (pageOrigin name)) =
      if page.1 = name then (world.pageSource handed page.1 page.2).tasks else [] := by
  have hname (task : Task) (htask : task ∈ (world.pageSource handed page.1 page.2).tasks) :
      task.comesFrom (pageOrigin name) = decide (page.1 = name) := by
    rw [Source.comesFrom_of_mem_tasks htask]
    exact decide_eq_decide.mpr ⟨List.tail_eq_of_cons_eq, congrArg pageOrigin⟩
  split
  · next heq => exact List.filter_eq_self.mpr fun task htask => by rw [hname task htask, heq]; simp
  · next hne => exact List.filter_eq_nil_iff.mpr fun task htask => by simp [hname task htask, hne]

theorem filter_allPages (handed : Tags) (h : world.notebook.find? name = some content) :
    ((world.allPages handed).flatMap Source.tasks).filter (·.comesFrom (pageOrigin name)) =
      (world.pageSource handed name content).tasks := by
  have hnodup : (world.notebook.listing.map Prod.fst).Nodup :=
    ((List.mergeSort_perm _ _).map Prod.fst).nodup_iff.mpr world.notebook.distinct
  obtain ⟨before, after, hlisting⟩ :=
    List.append_of_mem (Notebook.mem_listing.mpr (Notebook.mem_pages_of_find? h))
  -- No other page has the name, so all other pages fall away.
  have hother (pages : List (Text × Text)) (hpages : ∀ page ∈ pages, page.1 ≠ name) :
      (pages.flatMap fun page => (world.pageSource handed page.1 page.2).tasks.filter
        (·.comesFrom (pageOrigin name))) = [] := by
    refine List.flatMap_eq_nil_iff.mpr fun page hpage => ?_
    rw [filter_pageSource, if_neg (hpages page hpage)]
  rw [hlisting, List.map_append, List.map_cons, List.nodup_append, List.nodup_cons] at hnodup
  obtain ⟨-, ⟨hafter, -⟩, hbefore⟩ := hnodup
  unfold allPages
  rw [List.flatMap_map, List.filter_flatMap, hlisting, List.flatMap_append, List.flatMap_cons,
    hother before, hother after, filter_pageSource, if_pos rfl, List.nil_append, List.append_nil]
  · exact fun page hpage heq => hafter (List.mem_map.mpr ⟨page, hpage, heq⟩)
  · exact fun page hpage heq =>
      hbefore _ (List.mem_map_of_mem hpage) _ List.mem_cons_self heq

end World

end Taskbook
