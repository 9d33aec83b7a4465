/-
  Every run is an outcome of the expansion, where calls may nest deep enough.

  `expandItems` works through pending items as the expansion works through tasks and sources, one
  after another. By induction on the rules it gives what a run gives, with the limit that the calls
  of the run need (`Runs.exists_expandItems`). Together with `runs_of_expandWithin` this makes the
  runs of a call just the outcomes of its expansion (`runs_call_iff`).
-/
import Taskbook.Proofs.Include.Depth

namespace Taskbook

namespace Expansion

theorem andThen_of_stopped {first : Expansion} (h : first.stopped ≠ none)
    (next : Option (List Text) → Option Expansion) : first.andThen next = some first := by
  unfold andThen
  split
  · rfl
  · next hnone => exact absurd hnone h

theorem andThen_of_stopped_eq_none {first : Expansion} (h : first.stopped = none)
    (next : Option (List Text) → Option Expansion) :
    first.andThen next = (next first.visited).map first.append := by
  unfold andThen
  rw [h]

theorem append_assoc (first second third : Expansion) :
    (first.append second).append third = first.append (second.append third) := by
  simp [append]

/-- Three expansions one after another. -/
theorem andThen_assoc (first : Expansion) (next last : Option (List Text) → Option Expansion) :
    ((first.andThen next).bind fun second => second.andThen last) =
      first.andThen fun visited => (next visited).bind fun second => second.andThen last := by
  by_cases hfirst : first.stopped = none
  · rw [andThen_of_stopped_eq_none hfirst, andThen_of_stopped_eq_none hfirst]
    cases next first.visited with
    | none => rfl
    | some second =>
      rw [Option.map_some, Option.bind_some, Option.bind_some]
      by_cases hsecond : second.stopped = none
      · rw [andThen_of_stopped_eq_none hsecond, andThen_of_stopped_eq_none (by exact hsecond),
          Option.map_map]
        exact Option.map_congr fun third _ => append_assoc first second third
      · rw [andThen_of_stopped hsecond, andThen_of_stopped (by exact hsecond)]
        rfl
  · rw [andThen_of_stopped hfirst, andThen_of_stopped hfirst, Option.bind_some,
      andThen_of_stopped hfirst]

/-- Nothing comes next. -/
theorem andThen_done (first : Expansion) :
    (first.andThen fun visited => some { visited }) = some first := by
  by_cases hfirst : first.stopped = none
  · rw [andThen_of_stopped_eq_none hfirst]
    cases first
    simp_all [append]
  · exact andThen_of_stopped hfirst _

/-- What was requested before. -/
theorem andThen_requested {first after : Expansion}
    {next : Option (List Text) → Option Expansion} (h : first.andThen next = some after)
    (asked : List Text) :
    Expansion.andThen { first with requested := asked ++ first.requested } next =
      some { after with requested := asked ++ after.requested } := by
  by_cases hfirst : first.stopped = none
  · rw [andThen_of_stopped_eq_none hfirst] at h
    obtain ⟨second, hsecond, rfl⟩ := Option.map_eq_some_iff.mp h
    rw [andThen_of_stopped_eq_none (by exact hfirst)]
    simp [hsecond, append]
  · rw [andThen_of_stopped hfirst] at h
    obtain rfl := Option.some.inj h
    exact andThen_of_stopped (by exact hfirst) next

end Expansion

section

variable (call : Task → Option (List Text) → Option Expansion)

/-- Works through one item. -/
def Item.expand (item : Item) (visited : Option (List Text)) : Option Expansion :=
  match item with
  | .line task =>
    if task.collects && visited.isSome then call task visited
    else some { tasks := [task], visited }
  | .call task => call task visited
  | .source text => text.expand call visited

/-- Works through items in order. -/
def expandItems : List Item → Option (List Text) → Option Expansion
  | [], visited => some { visited }
  | item :: rest, visited =>
    (item.expand call visited).bind fun first => first.andThen (expandItems rest)

theorem expandItems_append (items more : List Item) (visited : Option (List Text)) :
    expandItems call (items ++ more) visited =
      (expandItems call items visited).bind fun first => first.andThen (expandItems call more) := by
  induction items generalizing visited with
  | nil =>
    change _ = (expandItems call more visited).map _
    exact Option.map_id'.symm
  | cons item rest ih =>
    rw [List.cons_append, expandItems, expandItems, Option.bind_assoc]
    congr 1
    funext first
    rw [Expansion.andThen_assoc]
    congr 1
    funext later
    exact ih later

theorem expandItems_lines (tasks : List Task) (visited : Option (List Text)) :
    expandItems call (tasks.map .line) visited = expandTasks call tasks visited := by
  induction tasks generalizing visited with
  | nil => rfl
  | cons task rest ih =>
    have hrest : expandItems call (rest.map .line) = expandTasks call rest := funext ih
    rw [List.map_cons, expandItems, expandTasks, Item.expand, hrest]
    split <;> rfl

theorem expandItems_sources (sources : List Source) (visited : Option (List Text)) :
    expandItems call (sources.map .source) visited = expandSources call sources visited := by
  induction sources generalizing visited with
  | nil => rfl
  | cons source rest ih =>
    have hrest : expandItems call (rest.map .source) = expandSources call rest := funext ih
    rw [List.map_cons, expandItems, expandSources, Item.expand, hrest]

theorem expandItems_call (task : Task) (visited : Option (List Text)) :
    expandItems call [.call task] visited = call task visited := by
  have hdone : (fun first : Expansion => first.andThen (expandItems call [])) = some :=
    funext Expansion.andThen_done
  rw [expandItems, hdone]
  exact Option.bind_fun_some _

variable {call} {call' : Task → Option (List Text) → Option Expansion}

theorem expandItems_of_agree
    (hcall : ∀ task visited found, call task visited = some found →
      call' task visited = some found)
    {items : List Item} {visited : Option (List Text)} {found : Expansion}
    (h : expandItems call items visited = some found) :
    expandItems call' items visited = some found := by
  induction items generalizing visited found with
  | nil => exact h
  | cons item rest ih =>
    obtain ⟨first, hfirst, hlast⟩ := Option.bind_eq_some_iff.mp h
    have hitem : item.expand call' visited = some first := by
      cases item with
      | line task =>
        rw [Item.expand] at hfirst ⊢
        split at hfirst
        · next hexp =>
          rw [if_pos hexp]
          exact hcall _ _ _ hfirst
        · next hkept =>
          rw [if_neg hkept]
          exact hfirst
      | call task => exact hcall _ _ _ hfirst
      | source source => exact sourceExpand_of_agree hcall hfirst
    rw [expandItems, hitem]
    exact Expansion.andThen_of_agree (fun _ _ => ih) hlast

end

namespace World

variable {world : World} {visited : Option (List Text)} {found : Expansion}

theorem Runs.exists_expandItems {items : List Item} (h : world.Runs visited items found) :
    ∃ limit, expandItems (world.expandWithin limit) items visited = some found := by
  induction h with
  | done visited => exact ⟨0, rfl⟩
  | @keep visited task rest after hkept _ ih =>
    obtain ⟨limit, hafter⟩ := ih
    have hexp : ¬ (task.collects && visited.isSome) = true := by
      intro hexp
      obtain ⟨hc, hsome⟩ := Bool.and_eq_true_iff.mp hexp
      rw [hkept hc] at hsome
      cases hsome
    refine ⟨limit, ?_⟩
    rw [expandItems, Item.expand, if_neg hexp]
    change (expandItems _ rest visited).map _ = _
    rw [hafter]
    rfl
  | @expand met task rest after hc _ ih =>
    obtain ⟨limit, hafter⟩ := ih
    have hexp : (task.collects && (some met).isSome) = true := by rw [hc]; rfl
    refine ⟨limit, ?_⟩
    rw [expandItems, Item.expand, if_pos hexp]
    exact hafter
  | @found visited task sources rest after hfind _ ih =>
    obtain ⟨limit, hafter⟩ := ih
    rw [expandItems_append, expandItems_sources] at hafter
    obtain ⟨first, hfirst, hlast⟩ := Option.bind_eq_some_iff.mp hafter
    have hcall : world.expandWithin (limit + 1) task visited =
        some { first with requested := task.address?.toList ++ first.requested } := by
      rw [expandWithin]
      simp only [hfind, hfirst, Option.map_some]
    refine ⟨limit + 1, ?_⟩
    rw [expandItems, Item.expand, hcall]
    refine Expansion.andThen_requested ?_ _
    refine Expansion.andThen_of_agree (fun _ _ => expandItems_of_agree fun _ _ _ => ?_) hlast
    exact expandWithin_succ
  | @missed visited task cause rest after hfind _ ih =>
    obtain ⟨limit, hafter⟩ := ih
    have hcall : world.expandWithin (limit + 1) task visited =
        some { visited, requested := task.address?.toList } := by
      rw [expandWithin]
      simp only [hfind]
    refine ⟨limit + 1, ?_⟩
    rw [expandItems, Item.expand, hcall]
    change (expandItems _ rest visited).map _ = _
    rw [expandItems_of_agree (fun _ _ _ => expandWithin_succ) hafter]
    rfl
  | @stopped visited task fault rest hfind =>
    have hcall : world.expandWithin 1 task visited =
        some { visited, requested := task.address?.toList, stopped := some fault } := by
      rw [expandWithin]
      simp only [hfind]
    refine ⟨1, ?_⟩
    rw [expandItems, Item.expand, hcall]
    rfl
  | @skip met source rest after hmet _ ih =>
    obtain ⟨limit, hafter⟩ := ih
    have hany : (some met).any (·.contains source.origin.name) = true :=
      List.contains_iff_mem.mpr hmet
    refine ⟨limit, ?_⟩
    rw [expandItems, Item.expand, Source.expand, if_pos hany]
    change (expandItems _ rest (some met)).map _ = _
    rw [hafter]
    rfl
  | @enter visited source rest after hnew _ ih =>
    obtain ⟨limit, hafter⟩ := ih
    have hany : ¬ visited.any (·.contains source.origin.name) = true := by
      intro hany
      obtain ⟨met, rfl, hmet⟩ := (Option.any_eq_true _ _).mp hany
      exact hnew met rfl (List.contains_iff_mem.mp hmet)
    rw [expandItems_append, expandItems_lines] at hafter
    refine ⟨limit, ?_⟩
    rw [expandItems, Item.expand, Source.expand, if_neg hany]
    exact hafter

/-- The runs of a call are just what its expansion gives within some limit. -/
theorem runs_call_iff {task : Task} :
    world.Runs visited [.call task] found ↔
      ∃ limit, world.expandWithin limit task visited = some found := by
  constructor
  · intro h
    obtain ⟨limit, hlimit⟩ := h.exists_expandItems
    rw [expandItems_call] at hlimit
    exact ⟨limit, hlimit⟩
  · rintro ⟨limit, hlimit⟩
    exact runs_of_expandWithin hlimit

end World

end Taskbook
