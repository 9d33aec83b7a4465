/-
  Expansion of collecting lines. `World.expandWithin` opens the sources a task points at, one after
  another, and puts their tasks in its place; where origins are kept, a source whose origin was met
  before is passed over, and a collecting line of a source is expanded by a call of its own. Calls
  nest at most as deep as a limit says. Each call below the first stands in a source that was newly
  met, so a limit above the number of origins not yet met is never reached (`returns_expandWithin`).
-/
import Taskbook.Include.Source

namespace Taskbook

/-- What came of working through tasks or sources. -/
structure Expansion where
  tasks : List Task := []
  /-- The origins met so far, oldest first, if they are kept. -/
  visited : Option (List Text)
  /-- The addresses requested, oldest first. -/
  requested : List Text := []
  /-- Why a request could not be sent, if there was such a request; nothing after it was looked at. -/
  stopped : Option Http.AddressFault := none
  deriving DecidableEq, Repr

namespace Expansion

/-- One expansion put behind another. -/
def append (first after : Expansion) : Expansion where
  tasks := first.tasks ++ after.tasks
  visited := after.visited
  requested := first.requested ++ after.requested
  stopped := after.stopped

/-- An expansion and what comes next, unless it has stopped. -/
def andThen (first : Expansion) (next : Option (List Text) → Option Expansion) :
    Option Expansion :=
  match first.stopped with
  | some _ => some first
  | none => (next first.visited).map first.append

end Expansion

/-- Works through tasks in order; where origins are kept, `call` works through what a collecting
    task points at. -/
def expandTasks (call : Task → Option (List Text) → Option Expansion) :
    List Task → Option (List Text) → Option Expansion
  | [], visited => some { visited }
  | task :: rest, visited =>
    if task.collects && visited.isSome then
      (call task visited).bind fun first => first.andThen (expandTasks call rest)
    else
      (expandTasks call rest visited).map fun after => { after with tasks := task :: after.tasks }

/-- Works through the tasks of a source, unless its origin was met before. -/
def Source.expand (call : Task → Option (List Text) → Option Expansion) (source : Source)
    (visited : Option (List Text)) : Option Expansion :=
  if visited.any (·.contains source.origin.name) then some { visited }
  else expandTasks call source.tasks (visited.map (· ++ [source.origin.name]))

/-- Works through sources in order. -/
def expandSources (call : Task → Option (List Text) → Option Expansion) :
    List Source → Option (List Text) → Option Expansion
  | [], visited => some { visited }
  | source :: rest, visited =>
    (source.expand call visited).bind fun first => first.andThen (expandSources call rest)

/-- Works through what a task points at; there is no outcome if calls would nest deeper than
    `limit`. -/
def World.expandWithin (world : World) : Nat → Task → Option (List Text) → Option Expansion
  | 0, _, _ => none
  | limit + 1, task, visited =>
    let asked := task.address?.toList
    match world.find task with
    | .sources found =>
      (expandSources (world.expandWithin limit) found visited).map fun after =>
        { after with requested := asked ++ after.requested }
    | .error _ => some { visited, requested := asked }
    | .invalidAddress fault => some { visited, requested := asked, stopped := some fault }

/-! ## Enough calls -/

/-- A list of visited origins, if there is one, that only grew. -/
def Grew (visited later : Option (List Text)) : Prop := ∃ new, later = visited.map (· ++ new)

theorem Grew.refl (visited : Option (List Text)) : Grew visited visited :=
  ⟨[], by cases visited <;> simp⟩

theorem Grew.trans {visited later last : Option (List Text)} (h : Grew visited later)
    (h' : Grew later last) : Grew visited last := by
  obtain ⟨new, rfl⟩ := h
  obtain ⟨more, rfl⟩ := h'
  exact ⟨new ++ more, by cases visited <;> simp⟩

/-- The number of the given origins not yet met; none counts if origins are not kept. -/
def unvisited (names : List Text) : Option (List Text) → Nat
  | none => 0
  | some visited => names.countP fun name => !visited.contains name

theorem unvisited_le_of_grew (names : List Text) {visited later : Option (List Text)}
    (h : Grew visited later) : unvisited names later ≤ unvisited names visited := by
  obtain ⟨new, rfl⟩ := h
  cases visited with
  | none => exact Nat.le_refl _
  | some visited =>
    refine List.countP_mono_left fun name _ hname => ?_
    simp only [List.contains_eq_mem, List.mem_append, Bool.not_eq_true',
      decide_eq_false_iff_not] at hname ⊢
    exact fun hv => hname (Or.inl hv)

theorem unvisited_append_lt {names visited : List Text} {name : Text} (h : name ∈ names)
    (hn : name ∉ visited) :
    unvisited names (some (visited ++ [name])) < unvisited names (some visited) := by
  simp only [unvisited, List.countP_eq_length_filter]
  have hsplit : names.filter (fun a => !(visited ++ [name]).contains a) =
      (names.filter fun a => !visited.contains a).filter (· ≠ name) := by
    rw [List.filter_filter]
    refine List.filter_congr fun a _ => ?_
    by_cases ha : a ∈ visited <;> by_cases han : a = name <;> simp [ha, han]
  rw [hsplit]
  exact List.length_filter_lt_length_iff_exists.mpr ⟨name, by simp [h, hn], by simp⟩

/-- There is an outcome, and it forgets no visited origin. -/
def Returns (visited : Option (List Text)) (outcome : Option Expansion) : Prop :=
  ∃ found, outcome = some found ∧ Grew visited found.visited

theorem returns_andThen {visited : Option (List Text)} {first : Expansion}
    {next : Option (List Text) → Option Expansion} (hfirst : Grew visited first.visited)
    (hnext : Returns first.visited (next first.visited)) :
    Returns visited (first.andThen next) := by
  obtain ⟨after, hafter, hgrew⟩ := hnext
  unfold Expansion.andThen
  split
  · exact ⟨first, rfl, hfirst⟩
  · exact ⟨first.append after, by rw [hafter]; rfl, hfirst.trans hgrew⟩

theorem returns_expandTasks {call : Task → Option (List Text) → Option Expansion}
    {tasks : List Task} {visited : Option (List Text)}
    (h : ∀ task ∈ tasks, task.collects = true → ∀ later, Grew visited later →
      later.isSome = true → Returns later (call task later)) :
    Returns visited (expandTasks call tasks visited) := by
  induction tasks generalizing visited with
  | nil => exact ⟨_, rfl, .refl _⟩
  | cons task rest ih =>
    unfold expandTasks
    split
    · next hcall =>
      obtain ⟨hc, hv⟩ := Bool.and_eq_true_iff.mp hcall
      obtain ⟨first, hfirst, hgrew⟩ := h task List.mem_cons_self hc visited (.refl _) hv
      rw [hfirst]
      refine returns_andThen hgrew (ih fun line hline hc' later hlater hv' => ?_)
      exact h line (List.mem_cons_of_mem _ hline) hc' later (hgrew.trans hlater) hv'
    · obtain ⟨after, hafter, hgrew⟩ := ih fun line hline => h line (List.mem_cons_of_mem _ hline)
      exact ⟨{ after with tasks := task :: after.tasks }, by rw [hafter]; rfl, hgrew⟩

theorem returns_sourceExpand {call : Task → Option (List Text) → Option Expansion}
    {source : Source} {visited : Option (List Text)}
    (h : ∀ met, visited = some met → source.origin.name ∉ met →
      ∀ line ∈ source.tasks, line.collects = true → ∀ later,
        Grew (some (met ++ [source.origin.name])) later → Returns later (call line later)) :
    Returns visited (source.expand call visited) := by
  unfold Source.expand
  split
  · exact ⟨_, rfl, .refl _⟩
  · next hmet =>
    have hbegin : Grew visited (visited.map (· ++ [source.origin.name])) := ⟨_, rfl⟩
    obtain ⟨found, hfound, hgrew⟩ :
        Returns (visited.map (· ++ [source.origin.name]))
          (expandTasks call source.tasks (visited.map (· ++ [source.origin.name]))) := by
      refine returns_expandTasks fun line hline hc later hlater hv => ?_
      cases visited with
      | none =>
        obtain ⟨new, rfl⟩ := hlater
        simp at hv
      | some met => exact h met rfl (by simpa using hmet) line hline hc later hlater
    exact ⟨found, hfound, hbegin.trans hgrew⟩

theorem returns_expandSources {call : Task → Option (List Text) → Option Expansion}
    {sources : List Source} {visited : Option (List Text)}
    (h : ∀ source ∈ sources, ∀ later, Grew visited later →
      Returns later (source.expand call later)) :
    Returns visited (expandSources call sources visited) := by
  induction sources generalizing visited with
  | nil => exact ⟨_, rfl, .refl _⟩
  | cons source rest ih =>
    obtain ⟨first, hfirst, hgrew⟩ := h source List.mem_cons_self visited (.refl _)
    unfold expandSources
    rw [hfirst]
    refine returns_andThen hgrew (ih fun other hother later hlater => ?_)
    exact h other (List.mem_cons_of_mem _ hother) later (hgrew.trans hlater)

/-- `names` holds the origins of all sources that a task in `P` points at, and the collecting lines
    of those sources are in `P` again. -/
structure World.Bounded (world : World) (P : Task → Prop) (names : List Text) : Prop where
  origin_mem : ∀ {task found source}, P task → world.find task = .sources found →
    source ∈ found → source.origin.name ∈ names
  line : ∀ {task found source line}, P task → world.find task = .sources found →
    source ∈ found → line ∈ source.tasks → line.collects = true → P line

/-- Where finitely many addresses answer, all tasks are bounded by the pages and those addresses. -/
theorem World.bounded_of_answering {world : World} {urls : List Text}
    (hurls : ∀ url content, world.reply url = .body content → url ∈ urls) :
    world.Bounded (fun _ => True) (world.origins urls) where
  origin_mem _ hfind hsource := World.origin_mem_of_find hurls hfind hsource
  line _ _ _ _ _ := trivial

/-- A limit above the number of origins not yet met is enough. -/
theorem returns_expandWithin {world : World} {P : Task → Prop} {names : List Text}
    (hb : world.Bounded P names) {limit : Nat} {task : Task} {visited : Option (List Text)}
    (ht : P task) (h : unvisited names visited < limit) :
    Returns visited (world.expandWithin limit task visited) := by
  induction limit generalizing task visited with
  | zero => omega
  | succ limit ih =>
    unfold World.expandWithin
    cases hfind : world.find task with
    | error cause => exact ⟨_, rfl, .refl _⟩
    | invalidAddress fault => exact ⟨_, rfl, .refl _⟩
    | sources found =>
      obtain ⟨after, hafter, hgrew⟩ :
          Returns visited (expandSources (world.expandWithin limit) found visited) := by
        refine returns_expandSources fun source hsource later hlater => returns_sourceExpand ?_
        rintro met rfl hmet line hline hc last hlast
        refine ih (hb.line ht hfind hsource hline hc) ?_
        -- The source itself is met from here on, so that one origin less is left to the call.
        have h1 := unvisited_append_lt (hb.origin_mem ht hfind hsource) hmet
        have h2 := unvisited_le_of_grew names hlast
        have h3 := unvisited_le_of_grew names hlater
        omega
      exact ⟨{ after with requested := task.address?.toList ++ after.requested },
        by simp only [hafter, Option.map_some], hgrew⟩

end Taskbook
