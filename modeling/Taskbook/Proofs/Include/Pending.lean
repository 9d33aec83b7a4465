/-
  Invariants of what is pending.

  Whatever becomes pending in a run comes from something that was pending before: a collecting line
  is called, a call brings the sources that it points at, and a source brings its lines. A property
  of items that goes along with these three steps (`World.Invariant`) holds of all that a run works
  through. So the tasks collected have it as lines (`Runs.tasks_of_invariant`), the addresses
  requested are those of calls that have it (`Runs.requested_of_invariant`). If no call that has it
  asks for an address, the run is not broken off (`Runs.stopped_of_invariant`), and if the sources
  that have it are of finitely many origins, calls come to an end (`Invariant.bounded`).
-/
import Taskbook.Proofs.Include.Refusal

namespace Taskbook.World

/-- A property of items that goes along with the steps of a run. -/
structure Invariant (world : World) (P : Item → Prop) : Prop where
  expand : ∀ {task : Task}, task.collects = true → P (.line task) → P (.call task)
  found : ∀ {task : Task} {found : List Source} {source : Source}, P (.call task) →
    world.find task = .sources found → source ∈ found → P (.source source)
  enter : ∀ {source : Source} {task : Task}, P (.source source) → task ∈ source.tasks →
    P (.line task)

variable {world : World} {P : Item → Prop} {visited : Option (List Text)} {items : List Item}
  {found : Expansion}

theorem Invariant.forall_sources (hP : world.Invariant P) {task : Task} {sources : List Source}
    {rest : List Item} (hfind : world.find task = .sources sources)
    (hitems : ∀ item ∈ .call task :: rest, P item) :
    ∀ item ∈ sources.map .source ++ rest, P item := by
  obtain ⟨hcall, hrest⟩ := List.forall_mem_cons.mp hitems
  exact forall_pending_sources.mpr ⟨fun _ hsource => hP.found hcall hfind hsource, hrest⟩

theorem Invariant.forall_lines (hP : world.Invariant P) {source : Source} {rest : List Item}
    (hitems : ∀ item ∈ .source source :: rest, P item) :
    ∀ item ∈ source.tasks.map .line ++ rest, P item := by
  obtain ⟨hsource, hrest⟩ := List.forall_mem_cons.mp hitems
  exact forall_pending_lines.mpr ⟨fun _ htask => hP.enter hsource htask, hrest⟩

theorem Invariant.bounded (hP : world.Invariant P) {names : List Text}
    (hnames : ∀ source, P (.source source) → source.origin.name ∈ names) :
    world.Bounded (fun task => P (.call task)) names where
  origin_mem hcall hfind hsource := hnames _ (hP.found hcall hfind hsource)
  line hcall hfind hsource hline hc :=
    hP.expand hc (hP.enter (hP.found hcall hfind hsource) hline)

theorem Runs.tasks_of_invariant (hP : world.Invariant P) (h : world.Runs visited items found)
    (hitems : ∀ item ∈ items, P item) : ∀ task ∈ found.tasks, P (.line task) := by
  induction h with
  | done | stopped => nofun
  | keep _ _ ih =>
    obtain ⟨hline, hrest⟩ := List.forall_mem_cons.mp hitems
    exact List.forall_mem_cons.mpr ⟨hline, ih hrest⟩
  | expand hc _ ih =>
    obtain ⟨hline, hrest⟩ := List.forall_mem_cons.mp hitems
    exact ih (List.forall_mem_cons.mpr ⟨hP.expand hc hline, hrest⟩)
  | found hfind _ ih => exact ih (hP.forall_sources hfind hitems)
  | missed _ _ ih | skip _ _ ih => exact ih (List.forall_mem_cons.mp hitems).2
  | enter _ _ ih => exact ih (hP.forall_lines hitems)

theorem Runs.requested_of_invariant (hP : world.Invariant P) (h : world.Runs visited items found)
    (hitems : ∀ item ∈ items, P item) :
    ∀ url ∈ found.requested, ∃ task, P (.call task) ∧ task.address? = some url := by
  have hasked {task : Task} {rest : List Item} (hitems : ∀ item ∈ .call task :: rest, P item) :
      ∀ url ∈ task.address?.toList, ∃ task, P (.call task) ∧ task.address? = some url :=
    fun url hurl => ⟨task, hitems _ List.mem_cons_self, Option.mem_toList.mp hurl⟩
  induction h with
  | done => nofun
  | stopped => exact hasked hitems
  | keep _ _ ih | skip _ _ ih => exact ih (List.forall_mem_cons.mp hitems).2
  | expand hc _ ih =>
    obtain ⟨hline, hrest⟩ := List.forall_mem_cons.mp hitems
    exact ih (List.forall_mem_cons.mpr ⟨hP.expand hc hline, hrest⟩)
  | found hfind _ ih =>
    exact List.forall_mem_append.mpr ⟨hasked hitems, ih (hP.forall_sources hfind hitems)⟩
  | missed _ _ ih =>
    exact List.forall_mem_append.mpr ⟨hasked hitems, ih (List.forall_mem_cons.mp hitems).2⟩
  | enter _ _ ih => exact ih (hP.forall_lines hitems)

theorem Runs.stopped_of_invariant (hP : world.Invariant P) (h : world.Runs visited items found)
    (hitems : ∀ item ∈ items, P item) (hno : ∀ task, P (.call task) → task.address? = none) :
    found.stopped = none := by
  refine h.stopped_eq_none_iff.mpr fun url hurl => ?_
  obtain ⟨task, hcall, haddress⟩ := h.requested_of_invariant hP hitems url hurl
  cases haddress.symm.trans (hno task hcall)

end Taskbook.World
