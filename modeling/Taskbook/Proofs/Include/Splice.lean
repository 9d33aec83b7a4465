/-
  A recursive list is the literal list with its collecting lines replaced.

  The list that keeps no origins shows what is to be spliced: every line of the source, collecting
  lines as they are. `World.Splices` goes through such lines from left to right, keeps those that do
  not collect and puts the task list that a collecting line has of its own, from the origins visited
  so far, in its place. That is what the expansion does with the lines of a source: each outcome is
  spliced (`splices_of_expandTasks`, by induction on the lines), and whatever is spliced is an
  outcome, within the greatest of the limits that the single task lists need
  (`Splices.exists_expandTasks`, by induction on the rules). The lists that are put in place are
  task lists again, of which the same holds.
-/
import Taskbook.Proofs.Include.Enough
import Taskbook.Proofs.Include.Footprint
import Taskbook.Proofs.Include.Literal

namespace Taskbook

/-- What was found for a task list. -/
def Resolution.expansion (result : Resolution) : Expansion where
  tasks := result.listing.tasks
  visited := result.visited
  requested := result.requested
  stopped := result.stopped

/-- `world.Splices met tasks found`: from the visited origins `met` on, `tasks` give `found` if each
    collecting task is replaced by its own task list. The visited origins go from one task list
    into the next, and a task list that breaks off is the last. -/
inductive World.Splices (world : World) : List Text → List Task → Expansion → Prop where
  | done (met : List Text) : Splices world met [] { visited := some met }
  | keep {met : List Text} {task : Task} {rest : List Task} {after : Expansion}
      (hkept : task.collects = false) (hafter : Splices world met rest after) :
      Splices world met (task :: rest) { after with tasks := task :: after.tasks }
  | replace {met next : List Text} {task : Task} {rest : List Task} {limit : Nat}
      {own : Resolution} {after : Expansion} (hc : task.collects = true)
      (hown : world.resolveWithin limit task (some met) = some own) (hs : own.stopped = none)
      (hnext : own.visited = some next) (hafter : Splices world next rest after) :
      Splices world met (task :: rest) (own.expansion.append after)
  | broken {met : List Text} {task : Task} {rest : List Task} {limit : Nat} {own : Resolution}
      (hc : task.collects = true) (hown : world.resolveWithin limit task (some met) = some own)
      (hs : own.stopped ≠ none) : Splices world met (task :: rest) own.expansion

theorem expandSources_singleton (call : Task → Option (List Text) → Option Expansion)
    (source : Source) (visited : Option (List Text)) :
    expandSources call [source] visited = source.expand call visited := by
  have hdone : (fun first : Expansion => first.andThen (expandSources call [])) = some :=
    funext Expansion.andThen_done
  rw [expandSources, hdone]
  exact Option.bind_fun_some _

namespace World

variable {world : World} {task : Task} {visited : Option (List Text)} {met : List Text}
  {found : Expansion}

theorem expandWithin_of_resolveWithin {limit : Nat} {result : Resolution}
    (h : world.resolveWithin limit task visited = some result) :
    world.expandWithin limit task visited = some result.expansion := by
  obtain ⟨found, hfound, rfl⟩ := Option.map_eq_some_iff.mp h
  exact hfound

theorem exists_resolveWithin_of_expandWithin {limit : Nat}
    (h : world.expandWithin limit task visited = some found) :
    ∃ result, world.resolveWithin limit task visited = some result ∧ result.expansion = found :=
  ⟨_, congrArg _ h, rfl⟩

/-! ## The lines of a source are spliced -/

theorem splices_of_expandTasks {limit : Nat} {tasks : List Task}
    (h : expandTasks (world.expandWithin limit) tasks (some met) = some found) :
    world.Splices met tasks found := by
  induction tasks generalizing met found with
  | nil =>
    obtain rfl := Option.some.inj h
    exact .done met
  | cons task rest ih =>
    unfold expandTasks at h
    split at h
    · next hexp =>
      have hc := (Bool.and_eq_true_iff.mp hexp).1
      obtain ⟨first, hfirst, hlast⟩ := Option.bind_eq_some_iff.mp h
      obtain ⟨own, hown, rfl⟩ := exists_resolveWithin_of_expandWithin hfirst
      by_cases hs : own.stopped = none
      · obtain ⟨new, hnext⟩ := keepsVisited_expandWithin limit task met _ hfirst
        rw [Expansion.andThen_of_stopped_eq_none hs, hnext] at hlast
        obtain ⟨after, hafter, rfl⟩ := Option.map_eq_some_iff.mp hlast
        exact .replace hc hown hs hnext (ih hafter)
      · rw [Expansion.andThen_of_stopped hs] at hlast
        obtain rfl := Option.some.inj hlast
        exact .broken hc hown hs
    · next hkept =>
      obtain ⟨after, hafter, rfl⟩ := Option.map_eq_some_iff.mp h
      exact .keep (by simpa using hkept) (ih hafter)

theorem Splices.exists_expandTasks {tasks : List Task} (h : world.Splices met tasks found) :
    ∃ limit, expandTasks (world.expandWithin limit) tasks (some met) = some found := by
  induction h with
  | done met => exact ⟨0, rfl⟩
  | @keep met task rest after hkept _ ih =>
    obtain ⟨limit, hafter⟩ := ih
    refine ⟨limit, ?_⟩
    rw [expandTasks, hkept, Bool.false_and, if_neg Bool.false_ne_true, hafter]
    rfl
  | @replace met next task rest limit own after hc hown hs hnext _ ih =>
    obtain ⟨limit', hafter⟩ := ih
    -- Both the task list and what comes after it are found within the greater limit.
    have hcall := expandWithin_of_le (Nat.le_max_left limit limit')
      (expandWithin_of_resolveWithin hown)
    have hrest : expandTasks (world.expandWithin (max limit limit')) rest (some next) =
        some after :=
      expandTasks_of_agree
        (fun _ _ _ => expandWithin_of_le (Nat.le_max_right limit limit')) hafter
    have hstopped : own.expansion.stopped = none := hs
    have hvisited : own.expansion.visited = some next := hnext
    refine ⟨max limit limit', ?_⟩
    rw [expandTasks, hc, Option.isSome_some, Bool.and_self, if_pos rfl, hcall, Option.bind_some,
      Expansion.andThen_of_stopped_eq_none hstopped, hvisited, hrest]
    rfl
  | @broken met task rest limit own hc hown hs =>
    have hcall := expandWithin_of_resolveWithin hown
    refine ⟨limit, ?_⟩
    rw [expandTasks, hc, Option.isSome_some, Bool.and_self, if_pos rfl, hcall, Option.bind_some]
    exact Expansion.andThen_of_stopped hs _

/-- With a single source that was not met before, there is a call for each of its collecting lines
    and nothing else. -/
theorem expandWithin_of_one_source {source : Source} (hfind : world.find task = .sources [source])
    (hnew : source.origin.name ∉ met) (limit : Nat) :
    world.expandWithin (limit + 1) task (some met) =
      (expandTasks (world.expandWithin limit) source.tasks
        (some (met ++ [source.origin.name]))).map fun after =>
          { after with requested := task.address?.toList ++ after.requested } := by
  have hany : ¬ (some met).any (·.contains source.origin.name) = true :=
    fun hmet => hnew (List.contains_iff_mem.mp hmet)
  rw [expandWithin]
  simp only [hfind]
  rw [expandSources_singleton, Source.expand, if_neg hany]
  rfl

end World

/-- Where a task points at one source, a page or a remote text whose origin was not visited before,
    its recursive list is the literal list spliced: the tasks are those of the literal list, from
    left to right, with each collecting task replaced by the tasks that its own task list has from
    the origins visited up to it, of which the source itself is the first; the visited origins in
    the end are those that the last of these task lists leaves. If one of them breaks off at an
    address to which no request can be sent, so does the whole; and there is a recursive list
    exactly if all of these have one, so always if finitely many addresses answer. -/
theorem recursive_list_is_spliced (world : World) (task : Task) (source : Source)
    (met : List Text) (hfind : world.find task = .sources [source])
    (hnew : source.origin.name ∉ met) :
    ∃ literal : Resolution, literal.stopped = none ∧
      (∀ limit, 1 ≤ limit → world.resolveWithin limit task none = some literal) ∧
      (∀ result, (∃ limit, world.resolveWithin limit task (some met) = some result) ↔
        ∃ found, world.Splices (met ++ [source.origin.name]) literal.listing.tasks found ∧
          result = { listing := { literal.listing with tasks := found.tasks }
                     visited := found.visited
                     requested := literal.requested ++ found.requested
                     stopped := found.stopped }) ∧
      ∀ urls, (∀ url content, world.reply url = .body content → url ∈ urls) →
        ∃ result, ∀ limit, unvisited (world.origins urls) (some met) + 1 ≤ limit →
          world.resolveWithin limit task (some met) = some result := by
  refine ⟨.literal task [source], rfl, fun limit => World.resolveWithin_none hfind, ?_, ?_⟩
  · intro result
    have htasks : (Resolution.literal task [source]).listing.tasks = source.tasks :=
      List.flatMap_singleton Source.tasks source
    rw [htasks]
    constructor
    · rintro ⟨limit, h⟩
      obtain ⟨outcome, houtcome, rfl⟩ := Option.map_eq_some_iff.mp h
      cases limit with
      | zero => cases houtcome
      | succ limit =>
        rw [World.expandWithin_of_one_source hfind hnew] at houtcome
        obtain ⟨found, hfound, rfl⟩ := Option.map_eq_some_iff.mp houtcome
        refine ⟨found, World.splices_of_expandTasks hfound, ?_⟩
        rw [hfind]
        rfl
    · rintro ⟨found, hsplices, rfl⟩
      obtain ⟨limit, hfound⟩ := hsplices.exists_expandTasks
      refine ⟨limit + 1, ?_⟩
      rw [World.resolveWithin, World.expandWithin_of_one_source hfind hnew, hfound, hfind]
      rfl
  · intro urls hurls
    exact World.exists_resolveWithin (World.bounded_of_answering hurls) trivial (some met)

theorem recursive_list_is_spliced_circle :
    circle.find { keyword := .collect, tags := [("wiki", "A")] } =
        .sources [circle.pageSource [] "A" "TODO a\nINCLUDE wiki:B\nTODO z"] ∧
      pageOrigin "A" ∉ (["/Home"] : List Text) ∧
      ∃ literal result found, circle.resolveWithin 1
          { keyword := .collect, tags := [("wiki", "A")] } none = some literal ∧
        circle.resolveWithin 4 { keyword := .collect, tags := [("wiki", "A")] } (some ["/Home"]) =
          some result ∧
        circle.Splices ["/Home", "/A"] literal.listing.tasks found ∧
        result.listing.tasks = found.tasks ∧ result.visited = found.visited ∧
        found.tasks.map (·.description) = (["a", "b", "z"] : List Text) ∧
        found.visited = some (["/Home", "/A", "/B"] : List Text) := by
  have hfind : circle.find { keyword := .collect, tags := [("wiki", "A")] } =
      .sources [circle.pageSource [] "A" "TODO a\nINCLUDE wiki:B\nTODO z"] := by
    decide +kernel
  have hnew : pageOrigin "A" ∉ (["/Home"] : List Text) := by decide
  have hseen : (circle.resolveWithin 4 { keyword := .collect, tags := [("wiki", "A")] }
      (some ["/Home"])).map
        (fun result => (result.listing.tasks.map (·.description), result.visited)) =
      some ((["a", "b", "z"] : List Text), some (["/Home", "/A", "/B"] : List Text)) := by
    decide +kernel
  obtain ⟨result, hresult, hseen⟩ := Option.map_eq_some_iff.mp hseen
  obtain ⟨hdescriptions, hvisited⟩ := Prod.mk.inj hseen
  obtain ⟨literal, -, hliteral, hspliced, -⟩ :=
    recursive_list_is_spliced circle _ _ ["/Home"] hfind hnew
  obtain ⟨found, hsplices, rfl⟩ := (hspliced result).mp ⟨4, hresult⟩
  exact ⟨hfind, hnew, literal, _, found, hliteral 1 (Nat.le_refl 1), hresult, hsplices, rfl, rfl,
    hdescriptions, hvisited⟩

end Taskbook
