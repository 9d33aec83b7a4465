/-
  Runs of an expansion as a relation: what is still to be worked through is a list of items, and
  each rule does one thing to its head. The relation says nothing of how deep calls nest, so it
  has no limit, and it covers worlds in which any number of addresses answer.

  `runs_of_resolveWithin`: every outcome of `World.resolveWithin` is the outcome of a run. What
  holds of all runs is proved by induction on the rules.
-/
import Taskbook.Include.Listing

namespace Taskbook

/-- What is still to be worked through: a line of a source, a task whose sources are asked for,
    or a source. -/
inductive Item where
  | line (task : Task)
  | call (task : Task)
  | source (source : Source)

section

variable {P : Item → Prop} {rest : List Item}

theorem forall_pending_sources {sources : List Source} :
    (∀ item ∈ sources.map .source ++ rest, P item) ↔
      (∀ source ∈ sources, P (.source source)) ∧ ∀ item ∈ rest, P item := by
  rw [List.forall_mem_append, List.forall_mem_map]

theorem forall_pending_lines {tasks : List Task} :
    (∀ item ∈ tasks.map .line ++ rest, P item) ↔
      (∀ task ∈ tasks, P (.line task)) ∧ ∀ item ∈ rest, P item := by
  rw [List.forall_mem_append, List.forall_mem_map]

end

/-- `world.Runs visited items found`: from a list of visited origins, or without one, the items
    give `found`. -/
inductive World.Runs (world : World) : Option (List Text) → List Item → Expansion → Prop where
  | done (visited : Option (List Text)) : Runs world visited [] { visited }
  | keep {visited : Option (List Text)} {task : Task} {rest : List Item} {after : Expansion}
      (hkept : task.collects = true → visited = none) (hafter : Runs world visited rest after) :
      Runs world visited (.line task :: rest) { after with tasks := task :: after.tasks }
  | expand {met : List Text} {task : Task} {rest : List Item} {after : Expansion}
      (hc : task.collects = true) (hafter : Runs world (some met) (.call task :: rest) after) :
      Runs world (some met) (.line task :: rest) after
  | found {visited : Option (List Text)} {task : Task} {sources : List Source} {rest : List Item}
      {after : Expansion} (hfind : world.find task = .sources sources)
      (hafter : Runs world visited (sources.map .source ++ rest) after) :
      Runs world visited (.call task :: rest)
        { after with requested := task.address?.toList ++ after.requested }
  | missed {visited : Option (List Text)} {task : Task} {cause : IncludeError} {rest : List Item}
      {after : Expansion} (hfind : world.find task = .error cause)
      (hafter : Runs world visited rest after) :
      Runs world visited (.call task :: rest)
        { after with requested := task.address?.toList ++ after.requested }
  | stopped {visited : Option (List Text)} {task : Task} {fault : Http.AddressFault}
      {rest : List Item} (hfind : world.find task = .invalidAddress fault) :
      Runs world visited (.call task :: rest)
        { visited, requested := task.address?.toList, stopped := some fault }
  | skip {met : List Text} {source : Source} {rest : List Item} {after : Expansion}
      (hmet : source.origin.name ∈ met) (hafter : Runs world (some met) rest after) :
      Runs world (some met) (.source source :: rest) after
  | enter {visited : Option (List Text)} {source : Source} {rest : List Item} {after : Expansion}
      (hnew : ∀ met, visited = some met → source.origin.name ∉ met)
      (hafter : Runs world (visited.map (· ++ [source.origin.name]))
        (source.tasks.map .line ++ rest) after) :
      Runs world visited (.source source :: rest) after

namespace World

variable {world : World} {visited : Option (List Text)}

/-! ## Runs one after another -/

theorem Runs.append {items more : List Item} {first after : Expansion}
    (h : world.Runs visited items first) (hs : first.stopped = none)
    (h' : world.Runs first.visited more after) :
    world.Runs visited (items ++ more) (first.append after) := by
  induction h with
  | done visited => exact h'
  | keep hkept _ ih => exact .keep hkept (ih hs h')
  | expand hc _ ih => exact .expand hc (ih hs h')
  | found hfind _ ih =>
    have := ih hs h'
    rw [List.append_assoc] at this
    have := Runs.found hfind this
    simp only [Expansion.append, List.append_assoc] at this ⊢
    exact this
  | missed hfind _ ih =>
    have := Runs.missed hfind (ih hs h')
    simp only [Expansion.append, List.append_assoc] at this ⊢
    exact this
  | stopped hfind => cases hs
  | skip hmet _ ih => exact .skip hmet (ih hs h')
  | enter hnew _ ih =>
    have := ih hs h'
    rw [List.append_assoc] at this
    exact .enter hnew this

theorem Runs.append_of_stopped {items : List Item} (more : List Item) {first : Expansion}
    (h : world.Runs visited items first) (hs : first.stopped ≠ none) :
    world.Runs visited (items ++ more) first := by
  induction h with
  | done visited => exact absurd rfl hs
  | keep hkept _ ih => exact .keep hkept (ih hs)
  | expand hc _ ih => exact .expand hc (ih hs)
  | found hfind _ ih =>
    have := ih hs
    rw [List.append_assoc] at this
    exact .found hfind this
  | missed hfind _ ih => exact .missed hfind (ih hs)
  | stopped hfind => exact .stopped hfind
  | skip hmet _ ih => exact .skip hmet (ih hs)
  | enter hnew _ ih =>
    have := ih hs
    rw [List.append_assoc] at this
    exact .enter hnew this

theorem Runs.andThen {items more : List Item} {first last : Expansion}
    {next : Option (List Text) → Option Expansion} (h : world.Runs visited items first)
    (hnext : ∀ after, next first.visited = some after → world.Runs first.visited more after)
    (hlast : first.andThen next = some last) : world.Runs visited (items ++ more) last := by
  unfold Expansion.andThen at hlast
  split at hlast
  · next fault hs =>
    obtain rfl := Option.some.inj hlast
    exact h.append_of_stopped more (by simp [hs])
  · next hs =>
    obtain ⟨after, hafter, rfl⟩ := Option.map_eq_some_iff.mp hlast
    exact h.append hs (hnext after hafter)

/-! ## Outcomes are outcomes of runs -/

section

variable {call : Task → Option (List Text) → Option Expansion}

theorem runs_of_expandTasks
    (hcall : ∀ task visited found, call task visited = some found →
      world.Runs visited [.call task] found)
    {tasks : List Task} {found : Expansion} (h : expandTasks call tasks visited = some found) :
    world.Runs visited (tasks.map .line) found := by
  induction tasks generalizing visited found with
  | nil =>
    obtain rfl := Option.some.inj h
    exact .done visited
  | cons task rest ih =>
    unfold expandTasks at h
    split at h
    · next hexp =>
      obtain ⟨hc, hv⟩ := Bool.and_eq_true_iff.mp hexp
      obtain ⟨met, rfl⟩ := Option.isSome_iff_exists.mp hv
      obtain ⟨first, hfirst, hlast⟩ := Option.bind_eq_some_iff.mp h
      exact .expand hc ((hcall task _ first hfirst).andThen (fun _ => ih) hlast)
    · next hkept =>
      obtain ⟨after, hafter, rfl⟩ := Option.map_eq_some_iff.mp h
      refine .keep (fun hc => ?_) (ih hafter)
      simpa [hc] using hkept

theorem runs_of_sourceExpand
    (hcall : ∀ task visited found, call task visited = some found →
      world.Runs visited [.call task] found)
    {source : Source} {found : Expansion} (h : source.expand call visited = some found) :
    world.Runs visited [.source source] found := by
  unfold Source.expand at h
  split at h
  · next hmet =>
    obtain rfl := Option.some.inj h
    obtain ⟨met, rfl, hname⟩ := (Option.any_eq_true _ _).mp hmet
    exact .skip (by simpa using hname) (.done _)
  · next hnew =>
    refine .enter (fun met hv => ?_) (by simpa using runs_of_expandTasks hcall h)
    simpa [hv] using hnew

theorem runs_of_expandSources
    (hcall : ∀ task visited found, call task visited = some found →
      world.Runs visited [.call task] found)
    {sources : List Source} {found : Expansion}
    (h : expandSources call sources visited = some found) :
    world.Runs visited (sources.map .source) found := by
  induction sources generalizing visited found with
  | nil =>
    obtain rfl := Option.some.inj h
    exact .done visited
  | cons source rest ih =>
    unfold expandSources at h
    obtain ⟨first, hfirst, hlast⟩ := Option.bind_eq_some_iff.mp h
    exact (runs_of_sourceExpand hcall hfirst).andThen (fun _ => ih) hlast

end

theorem runs_of_expandWithin {limit : Nat} {task : Task} {found : Expansion}
    (h : world.expandWithin limit task visited = some found) :
    world.Runs visited [.call task] found := by
  induction limit generalizing task visited found with
  | zero => cases h
  | succ limit ih =>
    unfold expandWithin at h
    split at h
    · next sources hfind =>
      obtain ⟨after, hafter, rfl⟩ := Option.map_eq_some_iff.mp h
      refine .found hfind ?_
      rw [List.append_nil]
      exact runs_of_expandSources (fun _ _ _ => ih) hafter
    · next cause hfind =>
      obtain rfl := Option.some.inj h
      simpa using Runs.missed hfind (.done visited)
    · next fault hfind =>
      obtain rfl := Option.some.inj h
      exact .stopped hfind

/-- Every task list is that of a run. -/
theorem runs_of_resolveWithin {limit : Nat} {task : Task} {result : Resolution}
    (h : world.resolveWithin limit task visited = some result) :
    world.Runs visited [.call task]
      { tasks := result.listing.tasks, visited := result.visited
        requested := result.requested, stopped := result.stopped } := by
  obtain ⟨found, hfound, rfl⟩ := Option.map_eq_some_iff.mp h
  exact runs_of_expandWithin hfound

end World

/-- Two pages that include each other. -/
def circle : World where
  notebook :=
    { pages := [("A", "TODO a\nINCLUDE wiki:B\nTODO z"), ("B", "DONE b\nINCLUDE wiki:A")]
      distinct := by decide }
  reply _ := .failure

end Taskbook
