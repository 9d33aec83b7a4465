/-
  What a run can see of the sources that a task points at.

  A run reads the tasks of a source and the name of its origin, and of a source that was met before
  only that name. So it does not see the sources of origins that are met from the start. Where two
  worlds lead to the same otherwise, they have the same runs (`Runs.transfer`), by induction on the
  run; and since a run is determined by where it starts (`Runs.functional`), they give the same task
  lists, unless only one of them names an error (`resolve_eq_of_transfer`).
-/
import Taskbook.Proofs.Include.Refusal

namespace Taskbook

/-- What can be seen of an item. -/
inductive View where
  | line (task : Task)
  | call (task : Task)
  | source (origin : Text) (tasks : List Task)

/-- What can be seen of an item where sources of some origins are hidden. -/
def Item.view? (hidden : Text → Bool) : Item → Option View
  | .line task => some (.line task)
  | .call task => some (.call task)
  | .source text =>
    if hidden text.origin.name then none else some (.source text.origin.name text.tasks)

/-- What can be seen of items. -/
def views (hidden : Text → Bool) (items : List Item) : List View :=
  items.filterMap (Item.view? hidden)

/-- What can be seen of what a task points at. An error is no more than nothing to be seen. -/
def Finding.views (hidden : Text → Bool) : Finding → Except Http.AddressFault (List View)
  | .sources found => .ok (Taskbook.views hidden (found.map .source))
  | .error _ => .ok []
  | .invalidAddress fault => .error fault

variable {hidden : Text → Bool} {item : Item} {items rest : List Item}

theorem views_append : views hidden (items ++ rest) = views hidden items ++ views hidden rest :=
  List.filterMap_append

theorem Item.eq_line_of_view? {task : Task} (h : item.view? hidden = some (.line task)) :
    item = .line task := by
  unfold view? at h
  split at h
  · obtain rfl := View.line.inj (Option.some.inj h)
    rfl
  · cases Option.some.inj h
  · split at h
    · cases h
    · cases Option.some.inj h

theorem Item.eq_call_of_view? {task : Task} (h : item.view? hidden = some (.call task)) :
    item = .call task := by
  unfold view? at h
  split at h
  · cases Option.some.inj h
  · obtain rfl := View.call.inj (Option.some.inj h)
    rfl
  · split at h
    · cases h
    · cases Option.some.inj h

theorem Item.exists_source_of_view? {origin : Text} {tasks : List Task}
    (h : item.view? hidden = some (.source origin tasks)) :
    ∃ source : Source,
      item = .source source ∧ source.origin.name = origin ∧ source.tasks = tasks := by
  unfold view? at h
  split at h
  · cases Option.some.inj h
  · cases Option.some.inj h
  · next source =>
    split at h
    · cases h
    · obtain ⟨rfl, rfl⟩ := View.source.inj (Option.some.inj h)
      exact ⟨source, rfl, rfl, rfl⟩

theorem Item.exists_source_of_view?_eq_none (h : item.view? hidden = none) :
    ∃ source : Source, item = .source source ∧ hidden source.origin.name = true := by
  unfold view? at h
  split at h
  · cases h
  · cases h
  · next source =>
    split at h
    · next hsource => exact ⟨source, rfl, hsource⟩
    · cases h

namespace World

variable {world world' : World} {visited : Option (List Text)} {found : Expansion}

/-! ## A run is determined by its start -/

theorem Runs.functional (h : world.Runs visited items found) {found' : Expansion}
    (h' : world.Runs visited items found') : found' = found := by
  induction h generalizing found' with
  | done visited =>
    cases h'
    rfl
  | keep hkept _ ih =>
    cases h' with
    | keep _ hafter => rw [ih hafter]
    | expand hc _ => cases hkept hc
  | expand hc _ ih =>
    cases h' with
    | keep hkept _ => cases hkept hc
    | expand _ hafter => exact ih hafter
  | found hfind _ ih =>
    cases h' with
    | found hfind' hafter =>
      obtain rfl := Finding.sources.inj (hfind'.symm.trans hfind)
      rw [ih hafter]
    | missed hfind' _ => cases hfind'.symm.trans hfind
    | stopped hfind' => cases hfind'.symm.trans hfind
  | missed hfind _ ih =>
    cases h' with
    | found hfind' _ => cases hfind'.symm.trans hfind
    | missed _ hafter => rw [ih hafter]
    | stopped hfind' => cases hfind'.symm.trans hfind
  | stopped hfind =>
    cases h' with
    | found hfind' _ => cases hfind'.symm.trans hfind
    | missed hfind' _ => cases hfind'.symm.trans hfind
    | stopped hfind' =>
      obtain rfl := Finding.invalidAddress.inj (hfind'.symm.trans hfind)
      rfl
  | skip hmet _ ih =>
    cases h' with
    | skip _ hafter => exact ih hafter
    | enter hnew _ => exact absurd hmet (hnew _ rfl)
  | enter hnew _ ih =>
    cases h' with
    | skip hmet _ => exact absurd hmet (hnew _ rfl)
    | enter _ hafter => exact ih hafter

/-! ## Worlds that look the same -/

/-- The hidden origins are met. -/
def Covers (hidden : Text → Bool) (visited : Option (List Text)) : Prop :=
  ∀ name, hidden name = true → ∃ met, visited = some met ∧ name ∈ met

theorem Covers.enter (h : Covers hidden visited) (name : Text) :
    Covers hidden (visited.map (· ++ [name])) := by
  intro other hother
  obtain ⟨met, rfl, hmet⟩ := h other hother
  exact ⟨met ++ [name], rfl, List.mem_append_left _ hmet⟩

/-- Items of which nothing can be seen are passed over. -/
theorem runs_of_unseen {before : List Item} (hcovers : Covers hidden visited)
    (hbefore : ∀ item ∈ before, item.view? hidden = none) (h : world.Runs visited rest found) :
    world.Runs visited (before ++ rest) found := by
  induction before with
  | nil => exact h
  | cons item before ih =>
    obtain ⟨hitem, htail⟩ := List.forall_mem_cons.mp hbefore
    obtain ⟨source, rfl, hsource⟩ := Item.exists_source_of_view?_eq_none hitem
    obtain ⟨met, rfl, hmet⟩ := hcovers _ hsource
    exact .skip hmet (ih htail)

theorem exists_of_views_cons {view : View} {seen : List View}
    (h : views hidden items = view :: seen) :
    ∃ before item rest, items = before ++ item :: rest ∧
      (∀ passed ∈ before, passed.view? hidden = none) ∧ item.view? hidden = some view ∧
      views hidden rest = seen :=
  List.filterMap_eq_cons_iff.mp h

/-- A task that may be called: collecting lines are expanded, or a call of it is pending. -/
def MayCall (visited : Option (List Text)) (items : List Item) (task : Task) : Prop :=
  visited ≠ none ∨ .call task ∈ items

theorem MayCall.cons {task : Task} (h : MayCall visited rest task) :
    MayCall visited (item :: rest) task :=
  h.imp_right (List.mem_cons_of_mem _)

theorem MayCall.of_sources {sources : List Source} {task : Task}
    (h : MayCall visited (sources.map .source ++ rest) task) : MayCall visited rest task := by
  refine h.imp_right fun hmem => ?_
  rcases List.mem_append.mp hmem with hmem | hmem
  · obtain ⟨source, -, heq⟩ := List.mem_map.mp hmem
    cases heq
  · exact hmem

theorem MayCall.of_lines {tasks : List Task} {origin : Text} {task : Task}
    (h : MayCall (visited.map (· ++ [origin])) (tasks.map .line ++ rest) task) :
    MayCall visited rest task := by
  refine h.imp (fun hsome hnone => hsome (by rw [hnone]; rfl)) fun hmem => ?_
  rcases List.mem_append.mp hmem with hmem | hmem
  · obtain ⟨line, -, heq⟩ := List.mem_map.mp hmem
    cases heq
  · exact hmem

/-- A call goes on with what can be seen of what is found, be it sources or an error. -/
theorem runs_call {task : Task} {seen : List View} {after : Expansion}
    (hseen : (world.find task).views hidden = .ok seen)
    (hafter : ∀ items, views hidden items = seen ++ views hidden rest →
      world.Runs visited items after) :
    world.Runs visited (.call task :: rest)
      { after with requested := task.address?.toList ++ after.requested } := by
  cases hfound : world.find task with
  | sources sources =>
    rw [hfound] at hseen
    obtain rfl := Except.ok.inj hseen
    exact .found hfound (hafter _ views_append)
  | error cause =>
    rw [hfound] at hseen
    obtain rfl := Except.ok.inj hseen
    exact .missed hfound (hafter _ rfl)
  | invalidAddress fault =>
    rw [hfound] at hseen
    cases hseen

theorem find_of_views_eq_error {task : Task} {fault : Http.AddressFault}
    (h : (world.find task).views hidden = .error fault) :
    world.find task = .invalidAddress fault := by
  cases hfound : world.find task with
  | sources sources =>
    rw [hfound] at h
    cases h
  | error cause =>
    rw [hfound] at h
    cases h
  | invalidAddress fault' =>
    rw [hfound] at h
    rw [Except.error.inj h]

theorem views_source_of_hidden {source : Source} (h : hidden source.origin.name = true) :
    views hidden (.source source :: rest) = views hidden rest :=
  List.filterMap_cons_none (if_pos h)

theorem views_source {source : Source} (h : ¬ hidden source.origin.name = true) :
    views hidden (.source source :: rest) =
      .source source.origin.name source.tasks :: views hidden rest :=
  List.filterMap_cons_some (if_neg h)

/-- Where the same can be seen of what is found in both worlds by all tasks that may be called, and
    the same of the items, a run in one world gives what a run in the other gives. -/
theorem Runs.transfer (h : world.Runs visited items found) (hcovers : Covers hidden visited)
    (hfind : ∀ task, MayCall visited items task →
      (world'.find task).views hidden = (world.find task).views hidden)
    {items' : List Item} (hitems : views hidden items' = views hidden items) :
    world'.Runs visited items' found := by
  induction h generalizing items' with
  | done visited =>
    have hunseen : ∀ item ∈ items', item.view? hidden = none := List.filterMap_eq_nil_iff.mp hitems
    rw [← List.append_nil items']
    exact runs_of_unseen hcovers hunseen (.done visited)
  | keep hkept _ ih =>
    obtain ⟨before, item, rest', rfl, hbefore, hitem, hrest⟩ := exists_of_views_cons hitems
    obtain rfl := Item.eq_line_of_view? hitem
    have hafter := ih hcovers (fun other hother => hfind other hother.cons) hrest
    exact runs_of_unseen hcovers hbefore (.keep hkept hafter)
  | @expand met task rest after hc _ ih =>
    obtain ⟨before, item, rest', rfl, hbefore, hitem, hrest⟩ := exists_of_views_cons hitems
    obtain rfl := Item.eq_line_of_view? hitem
    have hcall : views hidden (.call task :: rest') = views hidden (.call task :: rest) :=
      congrArg (View.call task :: ·) hrest
    have hafter := ih hcovers (fun other _ => hfind other (Or.inl nofun)) hcall
    exact runs_of_unseen hcovers hbefore (.expand hc hafter)
  | @found visited task sources rest after hsources _ ih =>
    obtain ⟨before, item, rest', rfl, hbefore, hitem, hrest⟩ := exists_of_views_cons hitems
    obtain rfl := Item.eq_call_of_view? hitem
    have hseen := hfind task (Or.inr List.mem_cons_self)
    rw [hsources] at hseen
    refine runs_of_unseen hcovers hbefore (runs_call hseen fun later hlater => ?_)
    refine ih hcovers (fun other hother => hfind other hother.of_sources.cons) ?_
    rw [hlater, hrest, views_append]
    rfl
  | @missed visited task cause rest after hcause _ ih =>
    obtain ⟨before, item, rest', rfl, hbefore, hitem, hrest⟩ := exists_of_views_cons hitems
    obtain rfl := Item.eq_call_of_view? hitem
    have hseen := hfind task (Or.inr List.mem_cons_self)
    rw [hcause] at hseen
    refine runs_of_unseen hcovers hbefore (runs_call hseen fun later hlater => ?_)
    exact ih hcovers (fun other hother => hfind other hother.cons) (hlater.trans hrest)
  | @stopped visited task fault rest hfault =>
    obtain ⟨before, item, rest', rfl, hbefore, hitem, -⟩ := exists_of_views_cons hitems
    obtain rfl := Item.eq_call_of_view? hitem
    have hseen := hfind task (Or.inr List.mem_cons_self)
    rw [hfault] at hseen
    exact runs_of_unseen hcovers hbefore (.stopped (find_of_views_eq_error hseen))
  | @skip met source rest after hmet _ ih =>
    have hlater : ∀ other, MayCall (some met) rest other →
        (world'.find other).views hidden = (world.find other).views hidden :=
      fun other hother => hfind other hother.cons
    by_cases hsource : hidden source.origin.name = true
    · exact ih hcovers hlater (hitems.trans (views_source_of_hidden hsource))
    · obtain ⟨before, item, rest', rfl, hbefore, hitem, hrest⟩ :=
        exists_of_views_cons (hitems.trans (views_source hsource))
      obtain ⟨source', rfl, hname, -⟩ := Item.exists_source_of_view? hitem
      exact runs_of_unseen hcovers hbefore (.skip (hname ▸ hmet) (ih hcovers hlater hrest))
  | @enter visited source rest after hnew _ ih =>
    -- The source was not met before, so it is not hidden.
    have hsource : ¬ hidden source.origin.name = true := by
      intro hsource
      obtain ⟨met, hmet, hmem⟩ := hcovers _ hsource
      exact hnew met hmet hmem
    obtain ⟨before, item, rest', rfl, hbefore, hitem, hrest⟩ :=
      exists_of_views_cons (hitems.trans (views_source hsource))
    obtain ⟨source', rfl, hname, htasks⟩ := Item.exists_source_of_view? hitem
    refine runs_of_unseen hcovers hbefore (.enter (hname ▸ hnew) ?_)
    rw [hname, htasks]
    refine ih (hcovers.enter _) (fun other hother => hfind other hother.of_lines.cons) ?_
    rw [views_append, views_append, hrest]

end World

/-! ## Task lists -/

namespace Scope

variable {scope scope' : Scope} {task : Task} {visited : Option (List Text)}

theorem exists_runs_resolve (scope : Scope) (task : Task) (visited : Option (List Text)) :
    ∃ found, scope.world.Runs visited [.call task] found ∧
      scope.resolve task visited =
        { listing :=
            { head := task, tasks := found.tasks
              error := (scope.world.find task).error?.map IncludeError.message }
          visited := found.visited, requested := found.requested, stopped := found.stopped } := by
  obtain ⟨found, hfound, hresolve⟩ :=
    Option.map_eq_some_iff.mp (scope.resolveWithin_depth task visited)
  exact ⟨found, World.runs_of_expandWithin hfound, hresolve.symm⟩

/-- Where all runs of a call are runs in the other world as well, and the call itself finds the same
    error or none, the task lists are the same. -/
theorem resolve_eq_of_transfer
    (hruns : ∀ found, scope.world.Runs visited [.call task] found →
      scope'.world.Runs visited [.call task] found)
    (herror : (scope'.world.find task).error? = (scope.world.find task).error?) :
    scope'.resolve task visited = scope.resolve task visited := by
  obtain ⟨found, hfound, hresolve⟩ := scope.exists_runs_resolve task visited
  obtain ⟨found', hfound', hresolve'⟩ := scope'.exists_runs_resolve task visited
  obtain rfl := (hruns found hfound).functional hfound'
  rw [hresolve, hresolve', herror]

end Scope

end Taskbook
