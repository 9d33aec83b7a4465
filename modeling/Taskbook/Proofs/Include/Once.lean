/-
  A recursive expansion collects every task exactly once.

  Along a run the list of visited origins only gets new names, each of them once
  (`Runs.exists_new`). A collected task is a line that was pending or comes from an origin that
  the run met (`Runs.origin_mem_of_mem_tasks`). Once an origin has been met, no more of its lines
  come in, so what is collected from it are the pending lines (`Runs.filter_of_met`); an origin
  met by the run is entered once, and then all its lines are pending (`Runs.filter_of_new`).
  `collects_every_task_once` puts these together.
-/
import Mathlib.Data.List.Forall2
import Taskbook.Proofs.Include.Origin
import Taskbook.Proofs.Include.Refusal

namespace Taskbook

/-- The task of an item that is a line. -/
def Item.line? : Item → Option Task
  | .line task => some task
  | _ => none

/-- The pending lines. -/
def pendingLines (items : List Item) : List Task := items.filterMap Item.line?

theorem pendingLines_sources (sources : List Source) (rest : List Item) :
    pendingLines (sources.map .source ++ rest) = pendingLines rest := by
  induction sources with
  | nil => rfl
  | cons source more ih => exact ih

theorem pendingLines_lines (tasks : List Task) (rest : List Item) :
    pendingLines (tasks.map .line ++ rest) = tasks ++ pendingLines rest := by
  induction tasks with
  | nil => rfl
  | cons task more ih => exact congrArg (task :: ·) ih

theorem mem_sources_of_mem_lines {tasks : List Task} {rest : List Item} {source : Source}
    (h : Item.source source ∈ tasks.map Item.line ++ rest) : Item.source source ∈ rest := by
  rcases List.mem_append.mp h with h | h
  · obtain ⟨_, _, heq⟩ := List.mem_map.mp h
    cases heq
  · exact h

namespace World

variable {world : World} {visited : Option (List Text)} {items : List Item} {found : Expansion}
  {met last : List Text} {name : Text}

/-! ## What a run meets -/

theorem Runs.exists_new (h : world.Runs visited items found) (hv : visited = some met) :
    ∃ new, found.visited = some (met ++ new) ∧ new.Nodup ∧ List.Disjoint new met := by
  induction h generalizing met with
  | done | stopped => exact ⟨[], by simp [hv], List.nodup_nil, List.disjoint_nil_left _⟩
  | keep _ _ ih | expand _ _ ih | found _ _ ih | missed _ _ ih | skip _ _ ih => exact ih hv
  | @enter _ source _ _ hnew _ ih =>
    subst hv
    obtain ⟨new, hlast, hnodup, hdisj⟩ := ih rfl
    have hmet : source.origin.name ∉ met := hnew met rfl
    have hname : source.origin.name ∉ new := fun hn => hdisj hn (by simp)
    refine ⟨source.origin.name :: new, by simpa using hlast,
      List.nodup_cons.mpr ⟨hname, hnodup⟩, ?_⟩
    rw [List.disjoint_cons_left]
    exact ⟨hmet, fun name hn hm => hdisj hn (List.mem_append_left _ hm)⟩

theorem Runs.mem_last (h : world.Runs visited items found) (hv : visited = some met)
    (hlast : found.visited = some last) (hname : name ∈ met) : name ∈ last := by
  obtain ⟨new, hnew, _⟩ := h.exists_new hv
  obtain rfl := Option.some.inj (hlast.symm.trans hnew)
  exact List.mem_append_left _ hname

/-- If no reply refuses the address, no run stops. -/
theorem Runs.stopped_eq_none (hreply : ∀ url fault, world.reply url ≠ .invalidAddress fault)
    (h : world.Runs visited items found) : found.stopped = none :=
  h.stopped_eq_none_iff.mpr fun url _ => hreply url

/-! ## What a run collects -/

theorem Runs.not_collects (h : world.Runs visited items found) (hv : visited = some met) :
    ∀ task ∈ found.tasks, task.collects = false := by
  induction h generalizing met with
  | done | stopped => simp
  | keep hkept _ ih =>
    intro task htask
    rcases List.mem_cons.mp htask with rfl | htask
    · -- A line that collects is kept only where origins are not.
      exact Bool.eq_false_iff.mpr fun hc => by simp [hkept hc] at hv
    · exact ih hv task htask
  | expand _ _ ih | found _ _ ih | missed _ _ ih | skip _ _ ih => exact ih hv
  | enter _ _ ih =>
    subst hv
    exact ih rfl

theorem Runs.origin_mem_of_mem_tasks (h : world.Runs visited items found) (hv : visited = some met)
    (hlast : found.visited = some last) {task : Task} (htask : task ∈ found.tasks) :
    task ∈ pendingLines items ∨
      ∃ origin, task.origin = some origin ∧ origin.name ∈ last ∧ origin.name ∉ met := by
  induction h generalizing met with
  | done | stopped => cases htask
  | keep _ _ ih =>
    rcases List.mem_cons.mp htask with rfl | htask
    · exact Or.inl List.mem_cons_self
    · exact (ih hv hlast htask).imp_left (List.mem_cons_of_mem _)
  | expand _ _ ih => exact (ih hv hlast htask).imp_left (List.mem_cons_of_mem _)
  | found _ _ ih =>
    have := ih hv hlast htask
    rw [pendingLines_sources] at this
    exact this
  | missed _ _ ih | skip _ _ ih => exact ih hv hlast htask
  | @enter _ source rest _ hnew hrun ih =>
    subst hv
    rcases ih rfl hlast htask with hline | ⟨origin, horigin, hin, hout⟩
    · rw [pendingLines_lines] at hline
      rcases List.mem_append.mp hline with hline | hline
      · exact Or.inr ⟨source.origin, Source.origin_of_mem_tasks hline,
          hrun.mem_last rfl hlast (by simp), hnew met rfl⟩
      · exact Or.inl hline
    · exact Or.inr ⟨origin, horigin, hin, fun hm => hout (List.mem_append_left _ hm)⟩

/-- Of an origin met before, just the pending lines are collected. -/
theorem Runs.filter_of_met (h : world.Runs visited items found) (hs : found.stopped = none)
    (hv : visited = some met) (hname : name ∈ met) :
    found.tasks.filter (·.comesFrom name) =
      ((pendingLines items).filter (!·.collects)).filter (·.comesFrom name) := by
  induction h generalizing met with
  | done => rfl
  | stopped => cases hs
  | @keep _ task rest _ hkept _ ih =>
    have hc : task.collects = false := Bool.eq_false_iff.mpr fun hc => by simp [hkept hc] at hv
    change (task :: _).filter _ = ((task :: pendingLines rest).filter _).filter _
    rw [List.filter_cons_of_pos (a := task) (p := (!·.collects)) (by simp [hc])]
    rw [List.filter_cons, List.filter_cons, ih hs hv hname]
  | @expand _ task rest _ hc _ ih =>
    change _ = ((task :: pendingLines rest).filter _).filter _
    rw [List.filter_cons_of_neg (by simp [hc])]
    exact ih hs hv hname
  | found _ _ ih =>
    rw [ih hs hv hname, pendingLines_sources]
    rfl
  | missed _ _ ih | skip _ _ ih => exact ih hs hv hname
  | @enter _ source rest _ hnew _ ih =>
    subst hv
    have hother : source.origin.name ≠ name := fun heq => hnew met rfl (heq ▸ hname)
    have hnone : (source.tasks.filter (!·.collects)).filter (·.comesFrom name) = [] := by
      refine List.filter_eq_nil_iff.mpr fun task htask => ?_
      simp [Source.comesFrom_of_mem_tasks (List.mem_of_mem_filter htask), hother]
    rw [ih hs rfl (List.mem_append_left _ hname), pendingLines_lines, List.filter_append,
      List.filter_append, hnone]
    rfl

/-- Of an origin that the run meets, just the lines of its text are collected. -/
theorem Runs.filter_of_new (h : world.Runs visited items found) (hs : found.stopped = none)
    (hv : visited = some met) (hlast : found.visited = some last) (hin : name ∈ last)
    (hout : name ∉ met) (hlines : ∀ task ∈ pendingLines items, task.comesFrom name = false)
    (hsources : ∀ source, .source source ∈ items →
      world.textOf? source.origin.name = some source.text) :
    ∃ source : Source, world.textOf? name = some source.text ∧
      found.tasks.filter (·.comesFrom name) = source.tasks.filter (!·.collects) := by
  induction h generalizing met with
  | done => exact absurd (Option.some.inj (hlast.symm.trans hv) ▸ hin) hout
  | stopped => cases hs
  | @keep _ task rest after _ _ ih =>
    have htask : task.comesFrom name = false := hlines task List.mem_cons_self
    obtain ⟨source, htext, htasks⟩ := ih hs hv hlast hout
      (fun line hline => hlines line (List.mem_cons_of_mem _ hline))
      (fun source hsource => hsources source (List.mem_cons_of_mem _ hsource))
    refine ⟨source, htext, ?_⟩
    change (task :: after.tasks).filter _ = _
    rw [List.filter_cons_of_neg (by simp [htask]), htasks]
  | expand _ _ ih =>
    refine ih hs hv hlast hout (fun line hline => hlines line (List.mem_cons_of_mem _ hline))
      fun source hsource => hsources source ?_
    simpa using hsource
  | found hfind _ ih =>
    refine ih hs hv hlast hout (fun line hline => hlines line ?_) fun source hsource => ?_
    · rwa [pendingLines_sources] at hline
    · rcases List.mem_append.mp hsource with hsource | hsource
      · obtain ⟨_, hmem, heq⟩ := List.mem_map.mp hsource
        cases heq
        exact textOf?_of_find hfind hmem
      · exact hsources source (List.mem_cons_of_mem _ hsource)
  | missed _ _ ih | skip _ _ ih =>
    exact ih hs hv hlast hout hlines
      fun source hsource => hsources source (List.mem_cons_of_mem _ hsource)
  | @enter _ source rest _ hnew hrun ih =>
    subst hv
    by_cases heq : source.origin.name = name
    · refine ⟨source, heq ▸ hsources source List.mem_cons_self, ?_⟩
      have hall : (source.tasks.filter (!·.collects)).filter (·.comesFrom name) =
          source.tasks.filter (!·.collects) := by
        refine List.filter_eq_self.mpr fun task htask => ?_
        simp [Source.comesFrom_of_mem_tasks (List.mem_of_mem_filter htask), heq]
      have hnone : ((pendingLines rest).filter (!·.collects)).filter (·.comesFrom name) = [] := by
        refine List.filter_eq_nil_iff.mpr fun task htask => ?_
        simp [hlines task (List.mem_of_mem_filter htask)]
      rw [hrun.filter_of_met hs rfl (by simp [heq]), pendingLines_lines, List.filter_append,
        List.filter_append, hall, hnone, List.append_nil]
    · refine ih hs rfl hlast (by simp [hout, Ne.symm heq]) (fun line hline => ?_)
        fun other hother => ?_
      · rw [pendingLines_lines] at hline
        rcases List.mem_append.mp hline with hline | hline
        · simp [Source.comesFrom_of_mem_tasks hline, heq]
        · exact hlines line hline
      · exact hsources other (List.mem_cons_of_mem _ (mem_sources_of_mem_lines hother))

end World

/-- Whatever was visited before, a task list with expanded lines collects every task exactly
    once: the visited origins get new names behind them, each once, no task of the list collects
    others, each comes from a new origin, and from each new origin come exactly the lines of its
    text that do not collect, in their order and with more tags behind their own. -/
theorem collects_every_task_once (world : World)
    (hreply : ∀ url fault, world.reply url ≠ .invalidAddress fault) (task : Task)
    (met : List Text) (limit : Nat) (result : Resolution)
    (h : world.resolveWithin limit task (some met) = some result) :
    ∃ new, result.visited = some (met ++ new) ∧ new.Nodup ∧ List.Disjoint new met ∧
      (∀ collected ∈ result.listing.tasks, collected.collects = false ∧
        ∃ origin, collected.origin = some origin ∧ origin.name ∈ new) ∧
      ∀ name ∈ new, ∃ text, world.textOf? name = some text ∧
        List.Forall₂ Extends ((Task.parseAll text).filter (!·.collects))
          (result.listing.tasks.filter (·.comesFrom name)) := by
  have hrun := World.runs_of_resolveWithin h
  have hs := hrun.stopped_eq_none hreply
  obtain ⟨new, hlast, hnodup, hdisj⟩ := hrun.exists_new rfl
  refine ⟨new, hlast, hnodup, hdisj, fun collected hmem => ⟨hrun.not_collects rfl _ hmem, ?_⟩,
    fun name hname => ?_⟩
  · rcases hrun.origin_mem_of_mem_tasks rfl hlast hmem with hline | ⟨origin, ho, hin, hout⟩
    · cases hline
    · exact ⟨origin, ho, (List.mem_append.mp hin).resolve_left hout⟩
  · obtain ⟨source, htext, htasks⟩ := hrun.filter_of_new hs rfl hlast
      (List.mem_append_right _ hname) (hdisj hname) (by simp [pendingLines, Item.line?])
      (by simp)
    exact ⟨source.text, htext, htasks ▸ source.forall₂_extends⟩

theorem collects_every_task_once_circle :
    (∀ url fault, circle.reply url ≠ .invalidAddress fault) ∧
      ∃ result, circle.resolveWithin 3 { keyword := .collect, tags := [("wiki", "A")] }
          (some ["/Home"]) = some result ∧
        result.visited = some (["/Home", "/A", "/B"] : List Text) ∧
        ∃ new : List Text, result.visited = some ((["/Home"] : List Text) ++ new) ∧ new.Nodup ∧
          List.Disjoint new ["/Home"] ∧
          (∀ collected ∈ result.listing.tasks, collected.collects = false ∧
            ∃ origin, collected.origin = some origin ∧ origin.name ∈ new) ∧
          ∀ name ∈ new, ∃ text, circle.textOf? name = some text ∧
            List.Forall₂ Extends ((Task.parseAll text).filter (!·.collects))
              (result.listing.tasks.filter (·.comesFrom name)) := by
  have hreply : ∀ url fault, circle.reply url ≠ .invalidAddress fault := nofun
  have hvisited : (circle.resolveWithin 3 { keyword := .collect, tags := [("wiki", "A")] }
      (some ["/Home"])).map (·.visited) = some (some (["/Home", "/A", "/B"] : List Text)) := by
    decide +kernel
  obtain ⟨result, hresult, hlast⟩ := Option.map_eq_some_iff.mp hvisited
  exact ⟨hreply, result, hresult, hlast,
    collects_every_task_once circle hreply _ ["/Home"] 3 result hresult⟩

end Taskbook
