/-
  What a page that is put in changes of a task list.

  A collecting line on a page can lead to the page itself. Its task list is the same before and
  after a new content is put in (`Scope.resolve_withPage`) if the new content has the task lines of
  the old one, or if the line takes the page as met, or if it leads to other pages only; but a line
  that names the page itself says so if there is none (`World.error?_find_withPage`).
-/
import Taskbook.Proofs.Include.Notebook
import Taskbook.Proofs.Include.View

namespace Taskbook

/-- The task names a page. -/
structure Task.Names (task : Task) (name : Text) : Prop where
  wantsAll : task.wantsAll = false
  address : task.address? = none
  target : task.target? = some name

/-- A task is left alone by a content that is put in under a name. -/
inductive Task.Spared (book : Notebook) (name content : Text) (task : Task) : Prop where
  /-- The page has the same task lines as before. -/
  | sameLines {old : Text} (hold : book.find? name = some old)
      (hlines : Task.parseAll old = Task.parseAll content)
  /-- The task takes the page as met, and if it names it, there is such a page already. -/
  | recursive (htag : task.tags.get? "recursive" = some "true")
      (hstored : task.Names name → name ∈ book.names)
  /-- The task leads to other pages or to none. -/
  | elsewhere (hall : task.wantsAll = false) (hother : ¬ task.Names name)

namespace World

variable {world : World} {name content : Text} {hidden : Text → Bool} {task : Task}

/-- The world with a page put in. -/
def withPage (world : World) (name content : Text) : World :=
  world.holding (world.notebook.put name content)

/-- Of the page that is put in the same can be seen as of the page in its place. -/
structure Keeps (hidden : Text → Bool) (world : World) (name content : Text) : Prop where
  stored : ∀ old, world.notebook.find? name = some old → ∀ handed,
    (Item.source (world.pageSource handed name content)).view? hidden =
      (Item.source (world.pageSource handed name old)).view? hidden
  new : world.notebook.find? name = none → ∀ handed,
    (Item.source (world.pageSource handed name content)).view? hidden = none

theorem views_allPages (world : World) (handed : Tags) :
    views hidden ((world.allPages handed).map .source) =
      world.notebook.listing.filterMap fun page =>
        (Item.source (world.pageSource handed page.1 page.2)).view? hidden := by
  unfold views allPages
  rw [List.map_map, List.filterMap_map]
  rfl

theorem views_page (handed : Tags) (other : Text) :
    (world.page handed other).views hidden =
      .ok ((world.notebook.find? other).toList.filterMap fun text =>
        (Item.source (world.pageSource handed other text)).view? hidden) := by
  unfold page
  cases world.notebook.find? other <;> rfl

theorem views_find_withPage (h : world.Keeps hidden name content) (task : Task) :
    ((world.withPage name content).find task).views hidden = (world.find task).views hidden := by
  rcases find_cases task with hall | ⟨url, -, hremote⟩ | ⟨other, hpage⟩ | hnothing
  · rw [hall, hall]
    change Except.ok
        (views hidden (((world.withPage name content).allPages task.handed).map .source)) =
      .ok (views hidden ((world.allPages task.handed).map .source))
    rw [views_allPages, views_allPages]
    refine congrArg Except.ok (Notebook.filterMap_listing_put (fun old hold => ?_) fun hnone => ?_)
    · exact h.stored old hold task.handed
    · exact h.new hnone task.handed
  · rw [hremote, hremote]
    rfl
  · have hfind : (world.withPage name content).notebook.find? other =
        if other = name then some content else world.notebook.find? other :=
      Notebook.find?_put world.notebook name content other
    rw [hpage, hpage, views_page, views_page, hfind]
    by_cases hother : other = name
    · subst hother
      rw [if_pos rfl]
      refine congrArg Except.ok ?_
      cases hold : world.notebook.find? other with
      | none => exact List.filterMap_cons_none (h.new hold task.handed)
      | some old => exact congrArg Option.toList (h.stored old hold task.handed)
    · rw [if_neg hother]
      rfl
  · rw [hnothing, hnothing]

theorem keeps_of_sameLines {old : Text} (hold : world.notebook.find? name = some old)
    (hlines : Task.parseAll old = Task.parseAll content) :
    world.Keeps (fun _ => false) name content where
  stored other hother handed := by
    obtain rfl := Option.some.inj (hold.symm.trans hother)
    unfold Item.view? Source.tasks
    dsimp only [pageSource]
    rw [hlines]
  new hnone := by
    rw [hold] at hnone
    cases hnone

theorem keeps_of_hidden (world : World) (name content : Text) :
    world.Keeps (fun origin => origin = pageOrigin name) name content where
  stored _ _ handed := by
    have hhidden (text : Text) : (Item.source (world.pageSource handed name text)).view?
        (fun origin => origin = pageOrigin name) = none :=
      if_pos (decide_eq_true rfl)
    rw [hhidden, hhidden]
  new _ _ := if_pos (decide_eq_true rfl)

/-- A task that leads elsewhere finds there what it found before. -/
theorem find_withPage_of_elsewhere (hall : task.wantsAll = false) (hother : ¬ task.Names name) :
    (world.withPage name content).find task = world.find task := by
  have hnotAll : ¬ task.wantsAll = true := by rw [hall]; exact Bool.false_ne_true
  cases haddress : task.address? with
  | some url =>
    rw [find_of_address? haddress, find_of_address? haddress]
    rfl
  | none =>
    cases htarget : task.target? with
    | none =>
      rw [find_of_target?_eq_none hnotAll haddress htarget,
        find_of_target?_eq_none hnotAll haddress htarget]
    | some other =>
      have hne : other ≠ name := by
        rintro rfl
        exact hother ⟨hall, haddress, htarget⟩
      have hfind : (world.withPage name content).notebook.find? other =
          world.notebook.find? other :=
        (Notebook.find?_put world.notebook name content other).trans (if_neg hne)
      rw [find_of_target? hnotAll haddress htarget, find_of_target? hnotAll haddress htarget]
      unfold page
      rw [hfind]
      rfl

theorem error?_page (handed : Tags) (other : Text) :
    (world.page handed other).error? =
      if world.notebook.find? other = none then some (.noPage other) else none := by
  unfold page
  cases world.notebook.find? other <;> rfl

/-- The error of a task is the same unless it names the page and there was none. -/
theorem error?_find_withPage (hstored : task.Names name → name ∈ world.notebook.names) :
    ((world.withPage name content).find task).error? = (world.find task).error? := by
  by_cases hall : task.wantsAll = true
  · rw [find_of_wantsAll hall, find_of_wantsAll hall]
    rfl
  · by_cases hnames : task.Names name
    · have hold : world.notebook.find? name ≠ none := fun hnone =>
        Notebook.find?_eq_none_iff.mp hnone (hstored hnames)
      have hnew : (world.withPage name content).notebook.find? name ≠ none := by
        have hfind : (world.withPage name content).notebook.find? name = some content :=
          (Notebook.find?_put world.notebook name content name).trans (if_pos rfl)
        rw [hfind]
        nofun
      rw [find_of_target? hall hnames.address hnames.target,
        find_of_target? hall hnames.address hnames.target, error?_page, error?_page, if_neg hold,
        if_neg hnew]
    · rw [find_withPage_of_elsewhere (Bool.eq_false_iff.mpr hall) hnames]

end World

/-! ## Task lists -/

namespace Scope

variable {scope : Scope} {name content : Text} {task : Task} {visited : Option (List Text)}

/-- The scope with a page put in. -/
def withPage (scope : Scope) (name content : Text) : Scope :=
  { scope with notebook := scope.notebook.put name content }

theorem world_withPage (scope : Scope) (name content : Text) :
    (scope.withPage name content).world = scope.world.withPage name content := rfl

theorem resolve_withPage_of_keeps {hidden : Text → Bool}
    (hkeeps : scope.world.Keeps hidden name content) (hcovers : World.Covers hidden visited)
    (hstored : task.Names name → name ∈ scope.notebook.names) :
    (scope.withPage name content).resolve task visited = scope.resolve task visited := by
  refine resolve_eq_of_transfer (fun found hfound => ?_) ?_
  · rw [world_withPage]
    exact hfound.transfer hcovers (fun other _ => World.views_find_withPage hkeeps other) rfl
  · rw [world_withPage]
    exact World.error?_find_withPage hstored

theorem covers_nothing (visited : Option (List Text)) :
    World.Covers (fun _ => false) visited := nofun

theorem covers_own (name : Text) :
    World.Covers (fun origin => origin = pageOrigin name) (some [pageOrigin name]) := by
  intro origin horigin
  exact ⟨_, rfl, List.mem_singleton.mpr (of_decide_eq_true horigin)⟩

theorem resolve_withPage_of_recursive (hstored : task.Names name → name ∈ scope.notebook.names) :
    (scope.withPage name content).resolve task (some [pageOrigin name]) =
      scope.resolve task (some [pageOrigin name]) :=
  resolve_withPage_of_keeps (scope.world.keeps_of_hidden name content) (covers_own name) hstored

theorem resolve_withPage_of_elsewhere (hall : task.wantsAll = false) (hother : ¬ task.Names name) :
    (scope.withPage name content).resolve task none = scope.resolve task none := by
  have hfind : (scope.withPage name content).world.find task = scope.world.find task := by
    rw [world_withPage]
    exact World.find_withPage_of_elsewhere hall hother
  refine resolve_eq_of_transfer (fun found hfound => ?_) (by rw [hfind])
  refine hfound.transfer (covers_nothing none) (fun other hcall => ?_) rfl
  -- Nothing is expanded here, so the task itself is the only one that is called.
  rcases hcall with hsome | hcall
  · exact absurd rfl hsome
  · obtain rfl := Item.call.inj (List.mem_singleton.mp hcall)
    rw [hfind]

/-- The task list of a collecting line on a page does not change if its content is put in, where the
    line is spared. -/
theorem resolve_withPage (h : task.Spared scope.notebook name content) :
    (scope.withPage name content).resolve task
        (if task.tags.get? "recursive" = some "true" then some [pageOrigin name] else none) =
      scope.resolve task
        (if task.tags.get? "recursive" = some "true" then some [pageOrigin name] else none) := by
  cases h with
  | sameLines hold hlines =>
    have hstored : name ∈ scope.notebook.names := by
      refine Decidable.byContradiction fun hnot => ?_
      rw [Notebook.find?_eq_none_iff.mpr hnot] at hold
      cases hold
    exact resolve_withPage_of_keeps (World.keeps_of_sameLines hold hlines) (covers_nothing _)
      fun _ => hstored
  | recursive htag hstored =>
    rw [if_pos htag]
    exact resolve_withPage_of_recursive hstored
  | elsewhere hall hother =>
    by_cases htag : task.tags.get? "recursive" = some "true"
    · rw [if_pos htag]
      exact resolve_withPage_of_recursive fun hnames => absurd hnames hother
    · rw [if_neg htag]
      exact resolve_withPage_of_elsewhere hall hother

end Scope

end Taskbook
