/-
  All pages at once.

  A task that asks for all pages lists every line that does not collect, of every page that was not
  visited before, exactly once. If collecting lines are left as they are, that is so because each
  page is opened in its turn (`Runs.tasks_of_literal`). If they are expanded, a page may be entered
  early, in the middle of another, and be passed over when its turn comes; but whatever the ways
  between the pages, what a run collects are the lines that were pending and those of the sources it
  entered (`Runs.exists_entered`), each source that was pending has been visited when the run is
  over (`Runs.source_visited`), and no origin is visited twice. So both ways of listing agree, tags
  aside: `all_pages_are_listed`.
-/
import Mathlib.Data.List.Nodup
import Taskbook.Proofs.Include.Depth
import Taskbook.Proofs.Include.Link
import Taskbook.Proofs.Include.Once
import Taskbook.Proofs.Include.Pending

namespace Taskbook

/-! ## Marks -/

/-- What a task says, and the name of the origin it comes from. -/
structure Mark where
  origin : Option Text
  keyword : Keyword
  description : Text
  deriving DecidableEq

def Task.mark (task : Task) : Mark where
  origin := task.origin.map (·.name)
  keyword := task.keyword
  description := task.description

/-- The marks of the lines of a page that do not collect. -/
def markedLines (page : Text × Text) : List Mark :=
  ((Task.parseAll page.2).filter (!·.collects)).map fun line =>
    { origin := some (pageOrigin page.1), keyword := line.keyword, description := line.description }

namespace Notebook

/-- The marks of the lines that do not collect, of all pages that have not been visited. -/
def marks (book : Notebook) (met : List Text) : List Mark :=
  (book.pages.filter fun page => !met.contains (pageOrigin page.1)).flatMap markedLines

/-- No collecting line of a page has an address for description. -/
def AsksNoAddress (book : Notebook) : Prop :=
  ∀ page ∈ book.pages, ∀ line ∈ Task.parseAll page.2, line.collects = true →
    Text.startsWith line.description "http" = false

instance (book : Notebook) : Decidable book.AsksNoAddress :=
  inferInstanceAs (Decidable (∀ page ∈ book.pages, ∀ line ∈ Task.parseAll page.2,
    line.collects = true → Text.startsWith line.description "http" = false))

end Notebook

/-- The page that a source was made from. -/
def Source.page (source : Source) : Text × Text := (source.origin.name.tail, source.text)

theorem Notebook.HasSource.page_eq {book : Notebook} {source : Source} {p : Text}
    (h : book.HasSource source p) : source.page = (p, source.text) := by
  unfold Source.page
  rw [h.1]
  rfl

theorem Source.map_mark_tasks {book : Notebook} {source : Source} {p : Text}
    (h : book.HasSource source p) :
    (source.tasks.filter (!·.collects)).map Task.mark = markedLines source.page := by
  rw [h.page_eq, source.filter_tasks, List.map_map]
  refine List.map_congr_left fun line _ => ?_
  have hclaim := source.origin.claim_extends line
  have horigin : (source.origin.claim line).origin = some source.origin :=
    source.origin.claim_origin line
  rw [Function.comp_apply, Task.mark, hclaim.keyword, hclaim.description, horigin, Option.map_some,
    h.1]

/-- Sources of different origins, of all pages that have not been visited and of no others, are made
    from just these pages. -/
theorem Notebook.perm_pages {book : Notebook} {sources : List Source} {met : List Text}
    (hnodup : (sources.map (·.origin.name)).Nodup)
    (hsources : ∀ source ∈ sources, ∃ p, book.HasSource source p)
    (hmet : ∀ page ∈ book.pages,
      pageOrigin page.1 ∈ sources.map (·.origin.name) ↔ pageOrigin page.1 ∉ met) :
    (sources.map Source.page).Perm
      (book.pages.filter fun page => !met.contains (pageOrigin page.1)) := by
  have hnames : (sources.map Source.page).map (fun page => pageOrigin page.1) =
      sources.map (·.origin.name) := by
    rw [List.map_map]
    refine List.map_congr_left fun source hsource => ?_
    obtain ⟨p, hp⟩ := hsources source hsource
    rw [Function.comp_apply, hp.page_eq, hp.1]
  have hpages : (sources.map Source.page).Nodup := List.Nodup.of_map _ (hnames ▸ hnodup)
  have hstored : book.pages.Nodup := List.Nodup.of_map _ book.distinct
  refine (List.perm_ext_iff_of_nodup hpages (hstored.filter _)).mpr fun page => ?_
  have hunmet : (!met.contains (pageOrigin page.1)) = true ↔ pageOrigin page.1 ∉ met := by simp
  rw [List.mem_filter, hunmet]
  constructor
  · intro hpage
    obtain ⟨source, hsource, rfl⟩ := List.mem_map.mp hpage
    obtain ⟨p, hp⟩ := hsources source hsource
    have hpage : source.page ∈ book.pages := by
      rw [hp.page_eq]
      exact mem_pages_of_find? hp.2
    refine ⟨hpage, (hmet _ hpage).mp ?_⟩
    rw [hp.page_eq, ← hp.1]
    exact List.mem_map_of_mem hsource
  · rintro ⟨hpage, hnew⟩
    obtain ⟨source, hsource, hname⟩ := List.mem_map.mp ((hmet page hpage).mpr hnew)
    obtain ⟨p, hp⟩ := hsources source hsource
    obtain rfl := pageOrigin_inj (hp.1.symm.trans hname)
    have htext : page.2 = source.text :=
      Option.some.inj ((find?_of_mem_pages hpage).symm.trans hp.2)
    refine List.mem_map.mpr ⟨source, hsource, ?_⟩
    rw [hp.page_eq, ← htext]

/-- The lines that an item brings if collecting lines are left as they are. -/
def Item.literalTasks : Item → List Task
  | .line task => [task]
  | .call _ => []
  | .source found => found.tasks

/-- The item leads to pages only. -/
def Item.AsksNoAddress (book : Notebook) : Item → Prop
  | .line task => task.collects = true → task.address? = none
  | .call task => task.address? = none
  | .source found => ∃ p, book.HasSource found p

namespace World

variable {world : World} {visited : Option (List Text)} {items : List Item} {found : Expansion}
  {met last : List Text}

/-! ## Runs -/

theorem Runs.of_call {task : Task} {sources : List Source}
    (hfind : world.find task = .sources sources) (h : world.Runs visited [.call task] found) :
    ∃ after, world.Runs visited (sources.map .source) after ∧
      found = { after with requested := task.address?.toList ++ after.requested } := by
  cases h with
  | found hfind' hafter =>
    obtain rfl := Finding.sources.inj (hfind.symm.trans hfind')
    rw [List.append_nil] at hafter
    exact ⟨_, hafter, rfl⟩
  | missed hfind' => cases hfind.symm.trans hfind'
  | stopped hfind' => cases hfind.symm.trans hfind'

/-- Where collecting lines are left as they are, the pending lines and those of the pending sources
    are collected. -/
theorem Runs.tasks_of_literal (h : world.Runs visited items found) (hv : visited = none)
    (hitems : ∀ task, .call task ∉ items) : found.tasks = items.flatMap Item.literalTasks := by
  induction h with
  | done => rfl
  | keep _ _ ih =>
    rw [List.flatMap_cons, ← ih hv fun task hmem => hitems task (List.mem_cons_of_mem _ hmem)]
    rfl
  | expand | skip => cases hv
  | found | missed | stopped => exact absurd List.mem_cons_self (hitems _)
  | @enter _ source rest _ _ _ ih =>
    subst hv
    have hlines : (source.tasks.map Item.line).flatMap Item.literalTasks = source.tasks := by
      rw [List.flatMap_map]
      exact List.flatMap_singleton' _
    rw [ih rfl, List.flatMap_append, hlines, List.flatMap_cons]
    · rfl
    · intro task hmem
      rcases List.mem_append.mp hmem with hmem | hmem
      · obtain ⟨line, -, heq⟩ := List.mem_map.mp hmem
        cases heq
      · exact hitems task (List.mem_cons_of_mem _ hmem)

/-- A run that comes to its end collects the pending lines and those of the sources it entered. -/
theorem Runs.exists_entered {P : Item → Prop} (hP : world.Invariant P)
    (h : world.Runs visited items found) (hitems : ∀ item ∈ items, P item)
    (hs : found.stopped = none) (hv : visited = some met) :
    ∃ entered : List Source, (∀ source ∈ entered, P (.source source)) ∧
      found.visited = some (met ++ entered.map (·.origin.name)) ∧
      found.tasks.Perm ((pendingLines items).filter (!·.collects) ++
        entered.flatMap fun source => source.tasks.filter (!·.collects)) := by
  induction h generalizing met with
  | done => exact ⟨[], nofun, by simp [hv], .refl _⟩
  | stopped => cases hs
  | @keep _ task rest _ hkept _ ih =>
    obtain ⟨entered, hentered, hlast, htasks⟩ :=
      ih (List.forall_mem_cons.mp hitems).2 hs hv
    have hc : task.collects = false := Bool.eq_false_iff.mpr fun hc => by simp [hkept hc] at hv
    have hlines : (pendingLines (.line task :: rest)).filter (!·.collects) =
        task :: (pendingLines rest).filter (!·.collects) :=
      List.filter_cons_of_pos (by simp [hc])
    refine ⟨entered, hentered, hlast, ?_⟩
    rw [hlines]
    exact htasks.cons task
  | @expand _ task rest _ hc _ ih =>
    obtain ⟨hline, hrest⟩ := List.forall_mem_cons.mp hitems
    obtain ⟨entered, hentered, hlast, htasks⟩ :=
      ih (List.forall_mem_cons.mpr ⟨hP.expand hc hline, hrest⟩) hs hv
    have hlines : (pendingLines (.line task :: rest)).filter (!·.collects) =
        (pendingLines rest).filter (!·.collects) :=
      List.filter_cons_of_neg (by simp [hc])
    refine ⟨entered, hentered, hlast, ?_⟩
    rw [hlines]
    exact htasks
  | @found _ _ sources rest _ hfind _ ih =>
    obtain ⟨entered, hentered, hlast, htasks⟩ := ih (hP.forall_sources hfind hitems) hs hv
    rw [pendingLines_sources] at htasks
    exact ⟨entered, hentered, hlast, htasks⟩
  | missed _ _ ih | skip _ _ ih => exact ih (List.forall_mem_cons.mp hitems).2 hs hv
  | @enter _ source rest _ hnew _ ih =>
    subst hv
    obtain ⟨entered, hentered, hlast, htasks⟩ := ih (hP.forall_lines hitems) hs rfl
    refine ⟨source :: entered, List.forall_mem_cons.mpr ⟨hitems _ List.mem_cons_self, hentered⟩,
      by simpa using hlast, ?_⟩
    -- The lines of the source come before those that were pending already.
    rw [pendingLines_lines, List.filter_append] at htasks
    rw [List.flatMap_cons, ← List.append_assoc]
    exact htasks.trans (List.perm_append_comm.append_right _)

/-- When a run has come to its end, the sources that were pending have been visited. -/
theorem Runs.source_visited (h : world.Runs visited items found) (hs : found.stopped = none)
    (hv : visited = some met) (hlast : found.visited = some last) :
    ∀ source, .source source ∈ items → source.origin.name ∈ last := by
  induction h generalizing met with
  | done => nofun
  | stopped => cases hs
  | keep _ _ ih =>
    intro source hsource
    exact ih hs hv hlast source (by simpa using hsource)
  | expand _ _ ih =>
    intro source hsource
    exact ih hs hv hlast source (by simpa using hsource)
  | found _ _ ih =>
    intro source hsource
    have hrest := (List.mem_cons.mp hsource).resolve_left nofun
    exact ih hs hv hlast source (List.mem_append_right _ hrest)
  | missed _ _ ih =>
    intro source hsource
    exact ih hs hv hlast source ((List.mem_cons.mp hsource).resolve_left nofun)
  | skip hmet hrun ih =>
    intro other hother
    rcases List.mem_cons.mp hother with heq | hother
    · obtain rfl := Item.source.inj heq
      exact hrun.mem_last hv hlast (Option.some.inj hv ▸ hmet)
    · exact ih hs hv hlast other hother
  | enter _ hrun ih =>
    subst hv
    intro other hother
    rcases List.mem_cons.mp hother with heq | hother
    · obtain rfl := Item.source.inj heq
      exact hrun.mem_last rfl hlast (by simp)
    · exact ih hs rfl hlast other (List.mem_append_right _ hother)

/-! ## Runs that ask for no address -/

theorem invariant_asksNoAddress (hbook : world.notebook.AsksNoAddress) :
    world.Invariant (Item.AsksNoAddress world.notebook) where
  expand hc hline := hline hc
  found {task found source} hcall hfind hsource := by
    obtain ⟨name, content, hpage, rfl⟩ | ⟨url, content, hurl, -, rfl⟩ :=
      source_of_find hfind hsource
    · exact ⟨name, rfl, Notebook.find?_of_mem_pages hpage⟩
    · cases hurl.symm.trans hcall
  enter {source task} hsource htask := by
    intro hc
    obtain ⟨p, -, hstored⟩ := hsource
    obtain ⟨line, hline, rfl⟩ := List.mem_map.mp htask
    have hcollects : line.collects = true := by rwa [Origin.claim_collects] at hc
    have hdescription := (source.origin.claim_extends line).description
    have hno := hbook _ (Notebook.mem_pages_of_find? hstored) line hline hcollects
    unfold Task.address?
    rw [hdescription, hno, Bool.and_false]
    rfl

theorem Runs.stopped_of_asksNoAddress (hbook : world.notebook.AsksNoAddress)
    (h : world.Runs visited items found)
    (hitems : ∀ item ∈ items, item.AsksNoAddress world.notebook) : found.stopped = none :=
  h.stopped_of_invariant (invariant_asksNoAddress hbook) hitems fun _ hcall => hcall

/-! ## Tasks that ask for all pages -/

theorem hasSource_of_mem_allPages {handed : Tags} {source : Source}
    (h : source ∈ world.allPages handed) :
    ∃ p, world.notebook.HasSource source p := by
  obtain ⟨page, hpage, rfl⟩ := List.mem_map.mp h
  exact ⟨page.1, rfl, Notebook.find?_of_mem_pages (Notebook.mem_listing.mp hpage)⟩

theorem mem_allPages {handed : Tags} {page : Text × Text} (h : page ∈ world.notebook.pages) :
    world.pageSource handed page.1 page.2 ∈ world.allPages handed :=
  List.mem_map_of_mem (Notebook.mem_listing.mpr h)

theorem address?_of_wantsAll {task : Task} (hall : task.wantsAll = true) :
    task.address? = none := by
  unfold Task.address?
  rw [hall]
  rfl

theorem exists_resolveWithin_of_wantsAll (hbook : world.notebook.AsksNoAddress) {task : Task}
    (hall : task.wantsAll = true) (visited : Option (List Text)) :
    ∃ result, ∀ limit, unvisited (world.origins []) visited + 1 ≤ limit →
      world.resolveWithin limit task visited = some result :=
  exists_resolveWithin ((invariant_asksNoAddress hbook).bounded fun _ ⟨_, hp⟩ => hp.mem_origins)
    (address?_of_wantsAll hall) visited

/-- Every line is listed, collecting lines as they are. -/
theorem Runs.marks_of_literal {task : Task} (hall : task.wantsAll = true)
    (h : world.Runs none [.call task] found) :
    ((found.tasks.filter (!·.collects)).map Task.mark).Perm (world.notebook.marks []) := by
  obtain ⟨after, hafter, rfl⟩ := h.of_call (find_of_wantsAll hall world)
  have htasks : after.tasks = (world.allPages task.handed).flatMap Source.tasks := by
    rw [hafter.tasks_of_literal rfl (by simp), List.flatMap_map]
    rfl
  have hmarks : (after.tasks.filter (!·.collects)).map Task.mark =
      ((world.allPages task.handed).map Source.page).flatMap markedLines := by
    rw [htasks, List.filter_flatMap, List.map_flatMap, List.flatMap_map]
    refine List.flatMap_congr fun source hsource => ?_
    obtain ⟨p, hp⟩ := hasSource_of_mem_allPages hsource
    exact Source.map_mark_tasks hp
  have hpages : (world.allPages task.handed).map Source.page = world.notebook.listing := by
    unfold allPages
    rw [List.map_map]
    exact List.map_id _
  have hunmet : world.notebook.pages.filter
      (fun page => !([] : List Text).contains (pageOrigin page.1)) = world.notebook.pages := by
    simp
  change (List.map Task.mark (after.tasks.filter _)).Perm _
  unfold Notebook.marks
  rw [hmarks, hpages, hunmet]
  exact (List.mergeSort_perm _ _).flatMap_right _

/-- With collecting lines expanded, every line of the pages that were not visited is listed. -/
theorem Runs.marks_of_expanded (hbook : world.notebook.AsksNoAddress) {task : Task}
    (hall : task.wantsAll = true) (h : world.Runs (some met) [.call task] found) :
    (found.tasks.map Task.mark).Perm (world.notebook.marks met) := by
  obtain ⟨after, hafter, rfl⟩ := h.of_call (find_of_wantsAll hall world)
  have hpending : ∀ item ∈ (world.allPages task.handed).map Item.source,
      item.AsksNoAddress world.notebook :=
    List.forall_mem_map.mpr fun _ => hasSource_of_mem_allPages
  have hs := hafter.stopped_of_asksNoAddress hbook hpending
  obtain ⟨entered, hentered, hlast, htasks⟩ :=
    hafter.exists_entered (invariant_asksNoAddress hbook) hpending hs rfl
  obtain ⟨new, hnew, hnodup, hdisj⟩ := hafter.exists_new rfl
  obtain rfl := List.append_cancel_left (Option.some.inj (hnew.symm.trans hlast))
  have hmet : ∀ page ∈ world.notebook.pages,
      pageOrigin page.1 ∈ entered.map (·.origin.name) ↔ pageOrigin page.1 ∉ met := by
    intro page hpage
    refine ⟨fun hname => hdisj hname, fun hunmet => ?_⟩
    have hvisited := hafter.source_visited hs rfl hlast _ (List.mem_map_of_mem (mem_allPages hpage))
    exact (List.mem_append.mp hvisited).resolve_left hunmet
  have hlines : pendingLines ((world.allPages task.handed).map Item.source) = [] := by
    rw [← List.append_nil (List.map _ _), pendingLines_sources]
    rfl
  rw [hlines] at htasks
  have hmarks : (entered.flatMap fun source => source.tasks.filter (!·.collects)).map Task.mark =
      (entered.map Source.page).flatMap markedLines := by
    rw [List.map_flatMap, List.flatMap_map]
    refine List.flatMap_congr fun source hsource => ?_
    obtain ⟨p, hp⟩ := hentered source hsource
    exact Source.map_mark_tasks hp
  refine (htasks.map Task.mark).trans ?_
  rw [List.filter_nil, List.nil_append, hmarks]
  exact (Notebook.perm_pages hnodup hentered hmet).flatMap_right _

end World

/-- Where no collecting line of a page asks for an address, a task that asks for all pages lists
    every line that does not collect, of every page, exactly once, and it does so with collecting
    lines left as they are as well as with collecting lines expanded: each mark is there as often in
    the one list, collecting lines aside, as in the other. With some origins visited before, just
    the lines of their pages are missing. -/
theorem all_pages_are_listed (world : World) (hbook : world.notebook.AsksNoAddress) (task : Task)
    (hall : task.wantsAll = true) :
    ∃ literal expanded : Resolution,
      (∀ limit, 1 ≤ limit → world.resolveWithin limit task none = some literal) ∧
      (∀ limit, unvisited (world.origins []) (some []) + 1 ≤ limit →
        world.resolveWithin limit task (some []) = some expanded) ∧
      (expanded.listing.tasks.map Task.mark).Perm
        ((literal.listing.tasks.filter (!·.collects)).map Task.mark) ∧
      (expanded.listing.tasks.map Task.mark).Perm (world.notebook.marks []) ∧
      ∀ met, ∃ result,
        (∀ limit, unvisited (world.origins []) (some met) + 1 ≤ limit →
          world.resolveWithin limit task (some met) = some result) ∧
        (result.listing.tasks.map Task.mark).Perm (world.notebook.marks met) := by
  have hexpanded (met : List Text) : ∃ result,
      (∀ limit, unvisited (world.origins []) (some met) + 1 ≤ limit →
        world.resolveWithin limit task (some met) = some result) ∧
      (result.listing.tasks.map Task.mark).Perm (world.notebook.marks met) := by
    obtain ⟨result, hresult⟩ := World.exists_resolveWithin_of_wantsAll hbook hall (some met)
    have hrun := World.runs_of_resolveWithin (hresult _ (Nat.le_refl _))
    exact ⟨result, hresult, hrun.marks_of_expanded hbook hall⟩
  obtain ⟨literal, hliteral⟩ := World.exists_resolveWithin_of_wantsAll hbook hall none
  have hlines := (World.runs_of_resolveWithin (hliteral _ (Nat.le_refl _))).marks_of_literal hall
  obtain ⟨expanded, hlimit, hmarks⟩ := hexpanded []
  exact ⟨literal, expanded, hliteral, hlimit, hmarks.trans hlines.symm, hmarks, hexpanded⟩

theorem all_pages_are_listed_circle :
    circle.notebook.AsksNoAddress ∧
      ({ keyword := .collect, tags := [("wiki", "all")] } : Task).wantsAll = true ∧
      circle.notebook.marks ["/A"] = [{ origin := some "/B", keyword := .done, description := "b" }] ∧
      ∃ result, circle.resolveWithin 2 { keyword := .collect, tags := [("wiki", "all")] }
          (some ["/A"]) = some result ∧
        (result.listing.tasks.map Task.mark).Perm (circle.notebook.marks ["/A"]) := by
  have hbook : circle.notebook.AsksNoAddress := by decide +kernel
  have hall : ({ keyword := .collect, tags := [("wiki", "all")] } : Task).wantsAll = true := by
    decide
  obtain ⟨-, -, -, -, -, -, hmet⟩ := all_pages_are_listed circle hbook _ hall
  obtain ⟨result, hresult, hmarks⟩ := hmet ["/A"]
  exact ⟨hbook, hall, by decide +kernel, result, hresult 2 (by decide), hmarks⟩

end Taskbook
