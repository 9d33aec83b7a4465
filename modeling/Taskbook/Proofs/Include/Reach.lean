/-
  The visited origins are those of the pages that can be reached.

  Where all collecting lines name pages, a run only meets pages reached from what is pending
  (`Runs.mem_or_reached`). In the other direction, when a run is over every page that was pending
  has been visited, and so has every page that a newly met one links to (`Runs.pending_visited`).
  A page that is passed over because it is still being expanded loses nothing: its remaining lines
  are pending, and the list of visited origins never gets shorter. `visited_iff_reached` is about
  several tasks resolved one after another.
-/
import Taskbook.Proofs.Include.Depth
import Taskbook.Proofs.Include.Find
import Taskbook.Proofs.Include.Link
import Taskbook.Proofs.Include.Once
import Taskbook.Proofs.Include.Pending

namespace Taskbook

/-- The item asks for no more than pages of the notebook. -/
def Item.NamesPages (book : Notebook) : Item → Prop
  | .line task => task.collects = true → task.NamesPage
  | .call task => task.NamesPage
  | .source found => ∃ p, book.HasSource found p

/-- The item points at the page `q`. -/
def Item.PointsAt (book : Notebook) (q : Text) : Item → Prop
  | .line task => task.collects = true ∧ task.target? = some q
  | .call task => task.target? = some q
  | .source found => book.HasSource found q

namespace World

variable {world : World}

/-! ## What is pending -/

theorem find_cases_of_namesPage (world : World) {task : Task} (h : task.NamesPage) :
    (task.target? = none ∧ world.find task = .sources []) ∨
    (∃ q, task.target? = some q ∧ world.notebook.find? q = none ∧
      world.find task = .error (.noPage q)) ∨
    ∃ q content, task.target? = some q ∧ world.notebook.find? q = some content ∧
      world.find task = .sources [world.pageSource task.handed q content] := by
  have hall : ¬ task.wantsAll = true := by
    rw [h.wantsAll_eq_false]
    exact Bool.false_ne_true
  cases htarget : task.target? with
  | none => exact Or.inl ⟨rfl, find_of_target?_eq_none hall h.address?_eq_none htarget world⟩
  | some q =>
    refine Or.inr ?_
    rw [find_of_target? hall h.address?_eq_none htarget]
    cases hq : world.notebook.find? q with
    | none => exact Or.inl ⟨q, rfl, hq, page_of_none hq⟩
    | some content => exact Or.inr ⟨q, content, rfl, hq, page_of_some hq⟩

theorem hasSource_of_find {task : Task} (h : task.NamesPage) {found : List Source}
    {source : Source} (hfind : world.find task = .sources found) (hs : source ∈ found) :
    ∃ q, task.target? = some q ∧ world.notebook.HasSource source q := by
  obtain ⟨-, hf⟩ | ⟨q, -, -, hf⟩ | ⟨q, content, htarget, hq, hf⟩ := world.find_cases_of_namesPage h
  · obtain rfl := Finding.sources.inj (hf.symm.trans hfind)
    cases hs
  · cases hf.symm.trans hfind
  · obtain rfl := Finding.sources.inj (hf.symm.trans hfind)
    obtain rfl := List.mem_singleton.mp hs
    exact ⟨q, htarget, rfl, hq⟩

theorem exists_source_of_find {task : Task} (h : task.NamesPage) {found : List Source}
    (hfind : world.find task = .sources found) {q content : Text} (htarget : task.target? = some q)
    (hstored : world.notebook.find? q = some content) :
    ∃ source ∈ found, world.notebook.HasSource source q := by
  obtain ⟨hnone, -⟩ | ⟨_, -, -, hf⟩ | ⟨q', content', htarget', hq', hf⟩ :=
    world.find_cases_of_namesPage h
  · cases hnone.symm.trans htarget
  · cases hf.symm.trans hfind
  · obtain rfl := Finding.sources.inj (hf.symm.trans hfind)
    obtain rfl := Option.some.inj (htarget.symm.trans htarget')
    obtain rfl := Option.some.inj (hstored.symm.trans hq')
    exact ⟨_, List.mem_singleton_self _, rfl, hstored⟩

theorem find?_eq_none_of_find {task : Task} (h : task.NamesPage) {cause : IncludeError}
    (hfind : world.find task = .error cause) {q : Text} (htarget : task.target? = some q) :
    world.notebook.find? q = none := by
  obtain ⟨-, hf⟩ | ⟨q', htarget', hq, -⟩ | ⟨_, _, -, -, hf⟩ :=
    world.find_cases_of_namesPage h
  · cases hf.symm.trans hfind
  · obtain rfl := Option.some.inj (htarget.symm.trans htarget')
    exact hq
  · cases hf.symm.trans hfind

theorem invariant_namesPages (hbook : world.notebook.NamesPages) :
    world.Invariant (Item.NamesPages world.notebook) where
  expand hc hline := hline hc
  found hcall hfind hsource := by
    obtain ⟨q, -, hq⟩ := hasSource_of_find hcall hfind hsource
    exact ⟨q, hq⟩
  enter hsource hline hc := by
    obtain ⟨p, hp⟩ := hsource
    exact (hbook.of_mem_tasks hp hline hc).1

/-! ## Runs over pages -/

variable {visited : Option (List Text)} {items : List Item} {found : Expansion}
  {met now last : List Text} {start : Text → Prop}

theorem Runs.stopped_of_namesPages (hbook : world.notebook.NamesPages)
    (h : world.Runs visited items found)
    (hitems : ∀ item ∈ items, item.NamesPages world.notebook) : found.stopped = none :=
  h.stopped_of_invariant (invariant_namesPages hbook) hitems fun _ hcall => hcall.address?_eq_none

/-- A run meets only pages that are reached, if what is pending points at such pages only. -/
theorem Runs.mem_or_reached (hbook : world.notebook.NamesPages)
    (h : world.Runs visited items found) (hv : visited = some now)
    (hlast : found.visited = some last) (hmet : met ⊆ now)
    (hitems : ∀ item ∈ items, item.NamesPages world.notebook)
    (hpoints : ∀ item ∈ items, ∀ q, item.PointsAt world.notebook q →
      world.notebook.Open met q → world.notebook.Reached met start q) :
    ∀ name ∈ last, name ∈ now ∨ ∃ q, name = pageOrigin q ∧ world.notebook.Reached met start q := by
  induction h generalizing now with
  | done | stopped =>
    obtain rfl := Option.some.inj (hlast.symm.trans hv)
    exact fun name hname => Or.inl hname
  | keep _ _ ih | missed _ _ ih | skip _ _ ih =>
    exact ih hv hlast hmet (List.forall_mem_cons.mp hitems).2 (List.forall_mem_cons.mp hpoints).2
  | expand hc _ ih =>
    obtain ⟨hline, hrest⟩ := List.forall_mem_cons.mp hitems
    obtain ⟨hpoint, hpoints⟩ := List.forall_mem_cons.mp hpoints
    refine ih hv hlast hmet (List.forall_mem_cons.mpr ⟨hline hc, hrest⟩)
      (List.forall_mem_cons.mpr ⟨fun q hq => hpoint q ⟨hc, hq⟩, hpoints⟩)
  | found hfind _ ih =>
    have hcall := (List.forall_mem_cons.mp hitems).1
    obtain ⟨hpoint, hpoints⟩ := List.forall_mem_cons.mp hpoints
    refine ih hv hlast hmet ((invariant_namesPages hbook).forall_sources hfind hitems)
      (forall_pending_sources.mpr ⟨fun source hsource q hq => ?_, hpoints⟩)
    obtain ⟨q', htarget, hq'⟩ := hasSource_of_find hcall hfind hsource
    obtain rfl := pageOrigin_inj (hq.1.symm.trans hq'.1)
    exact hpoint q htarget
  | @enter _ source _ _ hnew _ ih =>
    subst hv
    obtain ⟨p, hsource⟩ := (List.forall_mem_cons.mp hitems).1
    obtain ⟨hpoint, hpoints⟩ := List.forall_mem_cons.mp hpoints
    have hopen : world.notebook.Open met p :=
      ⟨⟨source.text, hsource.2⟩, fun hp => hnew now rfl (hsource.1 ▸ hmet hp)⟩
    have hreached := hpoint p hsource hopen
    have hfrom := ih rfl hlast (fun name hname => List.mem_append_left _ (hmet hname))
      ((invariant_namesPages hbook).forall_lines hitems)
      (forall_pending_lines.mpr ⟨fun line hline q hq hopen' => ?_, hpoints⟩)
    · intro name hname
      rcases hfrom name hname with hnow | hname
      · rcases List.mem_append.mp hnow with hnow | hp
        · exact Or.inl hnow
        · exact Or.inr ⟨p, (List.mem_singleton.mp hp).trans hsource.1, hreached⟩
      · exact Or.inr hname
    · exact .follow hreached ((hbook.of_mem_tasks hsource hline hq.1).2 q hq.2) hopen'

/-- When a run is over, the pages that were pending have been visited, and so have those that the
    newly met pages link to. -/
theorem Runs.pending_visited (hbook : world.notebook.NamesPages)
    (h : world.Runs visited items found) (hv : visited = some now)
    (hlast : found.visited = some last) (hs : found.stopped = none)
    (hitems : ∀ item ∈ items, item.NamesPages world.notebook) :
    (∀ item ∈ items, ∀ q content, item.PointsAt world.notebook q →
      world.notebook.find? q = some content → pageOrigin q ∈ last) ∧
    ∀ p q content, pageOrigin p ∈ last → pageOrigin p ∉ now → world.notebook.Links p q →
      world.notebook.find? q = some content → pageOrigin q ∈ last := by
  induction h generalizing now with
  | done =>
    obtain rfl := Option.some.inj (hlast.symm.trans hv)
    exact ⟨nofun, fun p q content hp hnew => absurd hp hnew⟩
  | stopped => cases hs
  | keep hkept _ ih =>
    obtain ⟨hpending, hclosed⟩ := ih hv hlast hs (List.forall_mem_cons.mp hitems).2
    refine ⟨List.forall_mem_cons.mpr ⟨fun q content hq => ?_, hpending⟩, hclosed⟩
    simp [hkept hq.1] at hv
  | expand hc _ ih =>
    obtain ⟨hline, hrest⟩ := List.forall_mem_cons.mp hitems
    obtain ⟨hpending, hclosed⟩ := ih hv hlast hs (List.forall_mem_cons.mpr ⟨hline hc, hrest⟩)
    obtain ⟨hcall, hpending⟩ := List.forall_mem_cons.mp hpending
    exact ⟨List.forall_mem_cons.mpr ⟨fun q content hq => hcall q content hq.2, hpending⟩, hclosed⟩
  | found hfind _ ih =>
    have hcall := (List.forall_mem_cons.mp hitems).1
    obtain ⟨hpending, hclosed⟩ :=
      ih hv hlast hs ((invariant_namesPages hbook).forall_sources hfind hitems)
    obtain ⟨hsources, hpending⟩ := forall_pending_sources.mp hpending
    refine ⟨List.forall_mem_cons.mpr ⟨fun q content htarget hq => ?_, hpending⟩, hclosed⟩
    obtain ⟨source, hsource, hfrom⟩ := exists_source_of_find hcall hfind htarget hq
    exact hsources source hsource q content hfrom hq
  | missed hfind _ ih =>
    obtain ⟨hcall, hrest⟩ := List.forall_mem_cons.mp hitems
    obtain ⟨hpending, hclosed⟩ := ih hv hlast hs hrest
    refine ⟨List.forall_mem_cons.mpr ⟨fun q content htarget hq => ?_, hpending⟩, hclosed⟩
    cases (find?_eq_none_of_find hcall hfind htarget).symm.trans hq
  | @skip _ source _ _ hmet hrun ih =>
    obtain rfl := Option.some.inj hv
    obtain ⟨hpending, hclosed⟩ := ih rfl hlast hs (List.forall_mem_cons.mp hitems).2
    refine ⟨List.forall_mem_cons.mpr ⟨fun q content hq _ => ?_, hpending⟩, hclosed⟩
    rw [← hq.1]
    exact hrun.mem_last rfl hlast hmet
  | @enter _ source _ _ hnew hrun ih =>
    subst hv
    obtain ⟨p, hsource⟩ := (List.forall_mem_cons.mp hitems).1
    obtain ⟨hpending, hclosed⟩ :=
      ih rfl hlast hs ((invariant_namesPages hbook).forall_lines hitems)
    obtain ⟨hlines, hpending⟩ := forall_pending_lines.mp hpending
    refine ⟨List.forall_mem_cons.mpr ⟨fun q content hq _ => ?_, hpending⟩, ?_⟩
    · rw [← hq.1]
      exact hrun.mem_last rfl hlast (by simp)
    · intro p' q content hp' hnow hlink hq
      by_cases heq : p' = p
      · -- The page just entered: its links are the pending lines.
        subst heq
        obtain ⟨line, hline, hc, htarget⟩ := hbook.exists_line hsource hlink
        exact hlines line hline q content ⟨hc, htarget⟩ hq
      · refine hclosed p' q content hp' (fun hmem => ?_) hlink hq
        rcases List.mem_append.mp hmem with hmem | hmem
        · exact hnow hmem
        · exact heq (pageOrigin_inj ((List.mem_singleton.mp hmem).trans hsource.1))

/-! ## Tasks one after another -/

/-- The visited origins when tasks have been resolved one after another. -/
def visitedAfter (world : World) (limit : Nat) (tasks : List Task)
    (visited : Option (List Text)) : Option (Option (List Text)) :=
  tasks.foldlM (fun visited task => (world.resolveWithin limit task visited).map (·.visited))
    visited

/-- The tasks, resolved one after another, leave `last` of visited origins, with every limit above
    the number of pages not yet visited. -/
def Visits (world : World) (tasks : List Task) (met last : List Text) : Prop :=
  ∀ limit, unvisited (world.origins []) (some met) + 1 ≤ limit →
    world.visitedAfter limit tasks (some met) = some (some last)

theorem exists_resolveWithin_of_namesPage (hbook : world.notebook.NamesPages) {task : Task}
    (htask : task.NamesPage) (visited : Option (List Text)) :
    ∃ result, ∀ limit, unvisited (world.origins []) visited + 1 ≤ limit →
      world.resolveWithin limit task visited = some result :=
  exists_resolveWithin ((invariant_namesPages hbook).bounded fun _ ⟨_, hp⟩ => hp.mem_origins)
    htask visited

theorem exists_visits (hbook : world.notebook.NamesPages) {tasks : List Task}
    (htasks : ∀ task ∈ tasks, task.NamesPage) (met : List Text) :
    ∃ last, world.Visits tasks met last := by
  induction tasks generalizing met with
  | nil => exact ⟨met, fun _ _ => rfl⟩
  | cons task rest ih =>
    obtain ⟨htask, hrest⟩ := List.forall_mem_cons.mp htasks
    obtain ⟨result, hresult⟩ := exists_resolveWithin_of_namesPage hbook htask (some met)
    obtain ⟨new, hnew, -⟩ := (runs_of_resolveWithin (hresult _ (Nat.le_refl _))).exists_new rfl
    obtain ⟨last, hlast⟩ := ih hrest (met ++ new)
    refine ⟨last, fun limit hlimit => ?_⟩
    have hfewer := unvisited_le_of_grew (world.origins [])
      (show Grew (some met) (some (met ++ new)) from ⟨new, rfl⟩)
    have hstep : (world.resolveWithin limit task (some met)).map (·.visited) =
        some (some (met ++ new)) := by
      rw [hresult limit hlimit]
      exact congrArg some hnew
    unfold visitedAfter
    rw [List.foldlM_cons, hstep]
    exact hlast limit (by omega)

theorem runs_of_visitedAfter (hbook : world.notebook.NamesPages) {tasks : List Task}
    (htasks : ∀ task ∈ tasks, task.NamesPage) {limit : Nat} {later : Option (List Text)}
    (h : world.visitedAfter limit tasks visited = some later) :
    ∃ found, world.Runs visited (tasks.map .call) found ∧ found.visited = later := by
  induction tasks generalizing visited with
  | nil =>
    obtain rfl := Option.some.inj h
    exact ⟨_, .done visited, rfl⟩
  | cons task rest ih =>
    obtain ⟨htask, hrest⟩ := List.forall_mem_cons.mp htasks
    unfold visitedAfter at h
    rw [List.foldlM_cons] at h
    obtain ⟨next, hnext, hlater⟩ := Option.bind_eq_some_iff.mp h
    obtain ⟨result, hresult, rfl⟩ := Option.map_eq_some_iff.mp hnext
    have hrun := runs_of_resolveWithin hresult
    obtain ⟨found, hfound, hvisited⟩ := ih hrest hlater
    have hstopped := hrun.stopped_of_namesPages hbook (List.forall_mem_singleton.mpr htask)
    exact ⟨_, hrun.append hstopped hfound, hvisited⟩

theorem Visits.mem_iff (hbook : world.notebook.NamesPages) {tasks : List Task}
    (htasks : ∀ task ∈ tasks, task.NamesPage) (h : world.Visits tasks met last) (name : Text) :
    name ∈ last ↔ name ∈ met ∨ ∃ q, name = pageOrigin q ∧
      world.notebook.Reached met (fun q => ∃ task ∈ tasks, task.target? = some q) q := by
  obtain ⟨found, hrun, hlast⟩ := runs_of_visitedAfter hbook htasks (h _ (Nat.le_refl _))
  have hitems : ∀ item ∈ tasks.map Item.call, item.NamesPages world.notebook := by
    intro item hitem
    obtain ⟨task, htask, rfl⟩ := List.mem_map.mp hitem
    exact htasks task htask
  constructor
  · refine hrun.mem_or_reached hbook rfl hlast (List.Subset.refl met) hitems ?_ name
    intro item hitem q htarget hopen
    obtain ⟨task, htask, rfl⟩ := List.mem_map.mp hitem
    exact .start ⟨task, htask, htarget⟩ hopen
  · have hs := hrun.stopped_of_namesPages hbook hitems
    obtain ⟨hpending, hclosed⟩ := hrun.pending_visited hbook rfl hlast hs hitems
    rintro (hname | ⟨q, rfl, hreached⟩)
    · exact hrun.mem_last rfl hlast hname
    · induction hreached with
      | start hq hopen =>
        obtain ⟨task, htask, htarget⟩ := hq
        obtain ⟨content, hcontent⟩ := hopen.stored
        exact hpending _ (List.mem_map_of_mem htask) _ content htarget hcontent
      | follow hp hlink hopen ih =>
        obtain ⟨content, hcontent⟩ := hopen.stored
        exact hclosed _ _ content ih hp.isOpen.unmet hlink hcontent

end World

/-- Where all collecting lines name pages, the origins visited after any tasks that name pages are
    those visited before and those of the pages reached from the tasks through pages not visited
    before. Neither the order of the tasks nor that of the lines of a page matters. -/
theorem visited_iff_reached (world : World) (hbook : world.notebook.NamesPages)
    (tasks : List Task) (htasks : ∀ task ∈ tasks, task.NamesPage) (met : List Text) :
    ∃ last, world.Visits tasks met last ∧
      (∀ name, name ∈ last ↔ name ∈ met ∨ ∃ q, name = pageOrigin q ∧
        world.notebook.Reached met (fun q => ∃ task ∈ tasks, task.target? = some q) q) ∧
      ∀ (world' : World) (tasks' : List Task), world.notebook.SameLines world'.notebook →
        tasks.Perm tasks' →
        ∃ last', world'.Visits tasks' met last' ∧ ∀ name, name ∈ last' ↔ name ∈ last := by
  obtain ⟨last, hlast⟩ := World.exists_visits hbook htasks met
  refine ⟨last, hlast, hlast.mem_iff hbook htasks, fun world' tasks' hlines hperm => ?_⟩
  have hbook' := hlines.namesPages hbook
  have htasks' : ∀ task ∈ tasks', task.NamesPage :=
    fun task htask => htasks task (hperm.mem_iff.mpr htask)
  obtain ⟨last', hlast'⟩ := World.exists_visits hbook' htasks' met
  refine ⟨last', hlast', fun name => ?_⟩
  rw [hlast'.mem_iff hbook' htasks', hlast.mem_iff hbook htasks]
  refine or_congr_right (exists_congr fun q => and_congr_right fun _ => ⟨?_, ?_⟩)
  · refine Notebook.Reached.mono (fun _ _ => hlines.symm.links) (fun _ => hlines.symm.isOpen) ?_
    exact fun q ⟨task, htask, htarget⟩ => ⟨task, hperm.mem_iff.mpr htask, htarget⟩
  · refine Notebook.Reached.mono (fun _ _ => hlines.links) (fun _ => hlines.isOpen) ?_
    exact fun q ⟨task, htask, htarget⟩ => ⟨task, hperm.mem_iff.mp htask, htarget⟩

/-- The pages of `circle` with their lines from last to first. -/
def circleUpward : World where
  notebook :=
    { pages := [("A", "TODO z\nINCLUDE wiki:B\nTODO a"), ("B", "INCLUDE wiki:A\nDONE b")]
      distinct := by decide }
  reply _ := .failure

theorem visited_iff_reached_circle :
    circle.notebook.NamesPages ∧ circle.notebook.SameLines circleUpward.notebook ∧
    ∃ last, last = (["/Home", "/B", "/A"] : List Text) ∧
      circle.Visits [{ keyword := .collect, tags := [("wiki", "B")] },
        { keyword := .collect, tags := [("wiki", "Home")] }] ["/Home"] last ∧
      (∀ name, name ∈ last ↔ name ∈ (["/Home"] : List Text) ∨ ∃ q, name = pageOrigin q ∧
        circle.notebook.Reached ["/Home"] (fun q =>
          ∃ task ∈ [({ keyword := .collect, tags := [("wiki", "B")] } : Task),
            { keyword := .collect, tags := [("wiki", "Home")] }], task.target? = some q) q) ∧
      ∃ last', circleUpward.Visits [{ keyword := .collect, tags := [("wiki", "Home")] },
        { keyword := .collect, tags := [("wiki", "B")] }] ["/Home"] last' ∧
        ∀ name, name ∈ last' ↔ name ∈ last := by
  have hbook : circle.notebook.NamesPages := by decide +kernel
  have hlines : circle.notebook.SameLines circleUpward.notebook := by
    refine Notebook.sameLines_of_forall₂ (.cons ⟨rfl, ?_⟩ (.cons ⟨rfl, ?_⟩ .nil))
    all_goals decide +kernel
  obtain ⟨last, hvisits, hiff, horder⟩ := visited_iff_reached circle hbook
    [{ keyword := .collect, tags := [("wiki", "B")] },
      { keyword := .collect, tags := [("wiki", "Home")] }] (by decide +kernel) ["/Home"]
  have hlast : circle.visitedAfter 3 [{ keyword := .collect, tags := [("wiki", "B")] },
      { keyword := .collect, tags := [("wiki", "Home")] }] (some ["/Home"]) =
        some (some (["/Home", "/B", "/A"] : List Text)) := by
    decide +kernel
  have heq := Option.some.inj (Option.some.inj ((hvisits 3 (by decide)).symm.trans hlast))
  exact ⟨hbook, hlines, last, heq, hvisits, hiff,
    horder circleUpward _ hlines (List.Perm.swap _ _ [])⟩

end Taskbook
