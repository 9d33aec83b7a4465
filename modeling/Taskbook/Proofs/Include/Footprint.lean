/-
  What a recursive expansion depends on: of the pages it reads only those that it newly visits.

  Two notebooks with the same names offer every task the same origins, whatever their pages hold
  (`find_holding`). A source that was met before is passed over without a look at its text, and
  one that is entered is newly visited, so where two worlds agree on the newly visited origins
  each expansion of one is an expansion of the other (`FollowedBy`, proved for tasks, sources and
  calls in turn; the last is the induction on the limit).
-/
import Taskbook.Proofs.Include.Find
import Taskbook.Proofs.Include.Once

namespace Taskbook

/-! ## Expansions that stay in step -/

/-- Each outcome of `run` from kept origins is one of `run'`, if the names that it newly visits
    are all good. -/
def FollowedBy (good : Text → Prop) (run run' : Option (List Text) → Option Expansion) : Prop :=
  ∀ met found last, run (some met) = some found → found.visited = some last →
    (∀ name ∈ last, name ∉ met → good name) → run' (some met) = some found

/-- No outcome of `run` forgets a visited origin. -/
def KeepsVisited (run : Option (List Text) → Option Expansion) : Prop :=
  ∀ met found, run (some met) = some found → ∃ new, found.visited = some (met ++ new)

section

variable {good : Text → Prop} {run run' next next' : Option (List Text) → Option Expansion}

theorem FollowedBy.andThen (hrun : FollowedBy good run run') (hkeeps : KeepsVisited run)
    (hnext : FollowedBy good next next') (hkeeps' : KeepsVisited next) :
    FollowedBy good (fun visited => (run visited).bind (·.andThen next))
      (fun visited => (run' visited).bind (·.andThen next')) := by
  intro met found last h hlast hgood
  obtain ⟨first, hfirst, hthen⟩ := Option.bind_eq_some_iff.mp h
  obtain ⟨new, hnew⟩ := hkeeps met first hfirst
  unfold Expansion.andThen at hthen
  split at hthen
  · next fault hs =>
    obtain rfl := Option.some.inj hthen
    have hfollows := hrun met first last hfirst hlast hgood
    simp [hfollows, Expansion.andThen, hs]
  · next hs =>
    obtain ⟨after, hafter, rfl⟩ := Option.map_eq_some_iff.mp hthen
    rw [hnew] at hafter
    obtain ⟨more, hmore⟩ := hkeeps' _ after hafter
    obtain rfl : met ++ new ++ more = last := Option.some.inj (hmore.symm.trans hlast)
    have hfollows : run' (some met) = some first := by
      refine hrun met first (met ++ new) hfirst hnew fun name hname hmet => ?_
      exact hgood name (List.mem_append_left _ hname) hmet
    have hfollows' : next' (some (met ++ new)) = some after := by
      refine hnext _ after _ hafter hmore fun name hname hmet => ?_
      exact hgood name hname fun hin => hmet (List.mem_append_left _ hin)
    simp [hfollows, Expansion.andThen, hs, hnew, hfollows']

end

namespace World

variable {world : World} {book : Notebook}

theorem Runs.keepsVisited {run : Option (List Text) → Option Expansion} {items : List Item}
    (h : ∀ met found, run (some met) = some found → world.Runs (some met) items found) :
    KeepsVisited run := by
  intro met found hfound
  obtain ⟨new, hnew, -⟩ := (h met found hfound).exists_new rfl
  exact ⟨new, hnew⟩

theorem keepsVisited_expandWithin (limit : Nat) (task : Task) :
    KeepsVisited (world.expandWithin limit task) :=
  Runs.keepsVisited fun _ _ => runs_of_expandWithin

theorem keepsVisited_expandTasks (limit : Nat) (tasks : List Task) :
    KeepsVisited (expandTasks (world.expandWithin limit) tasks) :=
  Runs.keepsVisited fun _ _ => runs_of_expandTasks fun _ _ _ => runs_of_expandWithin

theorem keepsVisited_sourceExpand (limit : Nat) (source : Source) :
    KeepsVisited (source.expand (world.expandWithin limit)) :=
  Runs.keepsVisited fun _ _ => runs_of_sourceExpand fun _ _ _ => runs_of_expandWithin

theorem keepsVisited_expandSources (limit : Nat) (sources : List Source) :
    KeepsVisited (expandSources (world.expandWithin limit) sources) :=
  Runs.keepsVisited fun _ _ => runs_of_expandSources fun _ _ _ => runs_of_expandWithin

section

variable {good : Text → Prop} {limit : Nat} {call' : Task → Option (List Text) → Option Expansion}

theorem followedBy_expandTasks
    (hcall : ∀ task, FollowedBy good (world.expandWithin limit task) (call' task))
    (tasks : List Task) :
    FollowedBy good (expandTasks (world.expandWithin limit) tasks) (expandTasks call' tasks) := by
  induction tasks with
  | nil => exact fun _ _ _ h _ _ => h
  | cons task rest ih =>
    intro met found last h hlast hgood
    unfold expandTasks at h ⊢
    split at h
    · next hexp =>
      rw [if_pos hexp]
      exact (hcall task).andThen (keepsVisited_expandWithin limit task) ih
        (keepsVisited_expandTasks limit rest) met found last h hlast hgood
    · next hkept =>
      obtain ⟨after, hafter, rfl⟩ := Option.map_eq_some_iff.mp h
      rw [if_neg hkept, ih met after last hafter hlast hgood]
      rfl

theorem followedBy_sourceExpand
    (hcall : ∀ task, FollowedBy good (world.expandWithin limit task) (call' task))
    {source source' : Source} (horigin : source'.origin = source.origin)
    (htext : good source.origin.name → source'.text = source.text) :
    FollowedBy good (source.expand (world.expandWithin limit)) (source'.expand call') := by
  intro met found last h hlast hgood
  unfold Source.expand at h ⊢
  rw [horigin]
  split at h
  · next hmet => rwa [if_pos hmet]
  · next hnew =>
    rw [if_neg hnew]
    change expandTasks _ source.tasks (some (met ++ [source.origin.name])) = some found at h
    obtain ⟨new, hnew'⟩ := keepsVisited_expandTasks limit source.tasks _ found h
    obtain rfl := Option.some.inj (hnew'.symm.trans hlast)
    -- The source is entered, so its origin is newly visited and its text is the same.
    have hname : source.origin.name ∉ met := by simpa using hnew
    have hsame : source' = source := by
      have := htext (hgood source.origin.name (by simp) hname)
      cases source
      cases source'
      simp_all
    rw [hsame]
    refine followedBy_expandTasks hcall source.tasks _ found _ h hlast fun name hin hout => ?_
    exact hgood name hin fun hmet => hout (List.mem_append_left _ hmet)

theorem followedBy_expandSources
    (hcall : ∀ task, FollowedBy good (world.expandWithin limit task) (call' task))
    {sources sources' : List Source}
    (horigins : sources'.map (·.origin) = sources.map (·.origin))
    (htext : ∀ source ∈ sources, ∀ source' ∈ sources', source'.origin = source.origin →
      good source.origin.name → source'.text = source.text) :
    FollowedBy good (expandSources (world.expandWithin limit) sources)
      (expandSources call' sources') := by
  induction sources generalizing sources' with
  | nil =>
    obtain rfl := List.map_eq_nil_iff.mp horigins
    exact fun _ _ _ h _ _ => h
  | cons source rest ih =>
    cases sources' with
    | nil => cases horigins
    | cons source' rest' =>
      obtain ⟨horigin, hrest⟩ := List.cons.inj horigins
      refine FollowedBy.andThen ?_ (keepsVisited_sourceExpand limit source) (ih hrest ?_)
        (keepsVisited_expandSources limit rest)
      · exact followedBy_sourceExpand hcall horigin
          (htext source List.mem_cons_self source' List.mem_cons_self horigin)
      · intro other hother other' hother'
        exact htext other (List.mem_cons_of_mem _ hother) other' (List.mem_cons_of_mem _ hother')

end

/-- Where the worlds agree on the texts of the newly visited origins, calls in the one are
    followed in the other. -/
theorem followedBy_expandWithin (hnames : book.names = world.notebook.names) (limit : Nat)
    (task : Task) :
    FollowedBy (fun name => (world.holding book).textOf? name = world.textOf? name)
      (world.expandWithin limit task) ((world.holding book).expandWithin limit task) := by
  induction limit generalizing task with
  | zero => exact fun _ _ _ h _ _ => absurd h nofun
  | succ limit ih =>
    intro met found last h hlast hgood
    unfold expandWithin at h ⊢
    rcases find_holding hnames task with ⟨sources, sources', hfind, hfind', horigins⟩ | ⟨hno, hsame⟩
    · simp only [hfind, hfind'] at h ⊢
      obtain ⟨after, hafter, rfl⟩ := Option.map_eq_some_iff.mp h
      have htext : ∀ source ∈ sources, ∀ source' ∈ sources', source'.origin = source.origin →
          (world.holding book).textOf? source.origin.name = world.textOf? source.origin.name →
          source'.text = source.text := by
        intro source hsource source' hsource' horigin hagree
        have hread := textOf?_of_find hfind hsource
        have hread' := textOf?_of_find hfind' hsource'
        rw [horigin, hagree, hread] at hread'
        exact (Option.some.inj hread').symm
      have hsources := followedBy_expandSources ih horigins htext
      rw [hsources met after last hafter hlast hgood]
      rfl
    · rw [hsame]
      cases hfind : world.find task with
      | sources sources => exact absurd hfind (hno sources)
      | error cause => simpa only [hfind] using h
      | invalidAddress fault => simpa only [hfind] using h

theorem error?_find_holding (hnames : book.names = world.notebook.names) (task : Task) :
    ((world.holding book).find task).error? = (world.find task).error? := by
  rcases find_holding hnames task with ⟨sources, sources', hfind, hfind', -⟩ | ⟨-, hsame⟩
  · rw [hfind, hfind']
    rfl
  · rw [hsame]

theorem textOf?_holding {name : Text}
    (h : ∀ page, name = pageOrigin page → book.find? page = world.notebook.find? page) :
    (world.holding book).textOf? name = world.textOf? name := by
  unfold textOf?
  split
  · next page => exact h page rfl
  · rfl

end World

/-- A recursive expansion reads no page but those that it newly visits: with any other pages of the
    same names, as long as those are the same, the task list is the same, and so are its error, the
    visited origins and the requests. What a page holds that was visited before does not matter. -/
theorem depends_on_newly_visited_pages (world : World) (limit : Nat) (task : Task)
    (met : List Text) (result : Resolution)
    (h : world.resolveWithin limit task (some met) = some result) :
    ∃ new, result.visited = some (met ++ new) ∧
      (∀ book : Notebook, book.names = world.notebook.names →
        (∀ page, pageOrigin page ∈ new → book.find? page = world.notebook.find? page) →
        (world.holding book).resolveWithin limit task (some met) = some result) ∧
      ∀ book : Notebook, book.names = world.notebook.names →
        (∀ page, pageOrigin page ∉ met → book.find? page = world.notebook.find? page) →
        (world.holding book).resolveWithin limit task (some met) = some result := by
  obtain ⟨new, hnew, -, hdisj⟩ := (World.runs_of_resolveWithin h).exists_new rfl
  have hsame : ∀ book : Notebook, book.names = world.notebook.names →
      (∀ page, pageOrigin page ∈ new → book.find? page = world.notebook.find? page) →
      (world.holding book).resolveWithin limit task (some met) = some result := by
    intro book hnames hpages
    obtain ⟨found, hfound, rfl⟩ := Option.map_eq_some_iff.mp h
    have hgood : ∀ name ∈ met ++ new, name ∉ met →
        (world.holding book).textOf? name = world.textOf? name := by
      intro name hname hmet
      refine World.textOf?_holding ?_
      rintro page rfl
      exact hpages page ((List.mem_append.mp hname).resolve_left hmet)
    have hfollows := World.followedBy_expandWithin hnames limit task met found _ hfound hnew hgood
    unfold World.resolveWithin
    rw [hfollows, World.error?_find_holding hnames]
    rfl
  refine ⟨new, hnew, hsame, fun book hnames hpages => hsame book hnames fun page hpage => ?_⟩
  exact hpages page fun hmet => hdisj hpage hmet

/-- The pages of `circle` with another text on the first. -/
def circleChanged : Notebook where
  pages := [("A", "DO not\nINCLUDE wiki:all"), ("B", "DONE b\nINCLUDE wiki:A")]
  distinct := by decide

theorem depends_on_newly_visited_pages_circle :
    ∃ result, circle.resolveWithin 3 { keyword := .collect, tags := [("wiki", "B")] }
        (some ["/A"]) = some result ∧
      result.visited = some (["/A", "/B"] : List Text) ∧ result.listing.tasks.length = 1 ∧
      circleChanged.names = circle.notebook.names ∧
      (circle.holding circleChanged).resolveWithin 3
        { keyword := .collect, tags := [("wiki", "B")] } (some ["/A"]) = some result := by
  have hseen : (circle.resolveWithin 3 { keyword := .collect, tags := [("wiki", "B")] }
      (some ["/A"])).map (fun result => (result.visited, result.listing.tasks.length)) =
        some (some (["/A", "/B"] : List Text), 1) := by
    decide +kernel
  obtain ⟨result, hresult, hseen⟩ := Option.map_eq_some_iff.mp hseen
  obtain ⟨hvisited, hlength⟩ := Prod.mk.inj hseen
  have hnames : circleChanged.names = circle.notebook.names := by decide
  obtain ⟨new, -, -, hbefore⟩ := depends_on_newly_visited_pages circle 3 _ ["/A"] result hresult
  refine ⟨result, hresult, hvisited, hlength, hnames,
    hbefore circleChanged hnames fun page hpage => ?_⟩
  -- The pages differ in the first only, which was visited.
  have hother : (page == ("A" : Text)) = false := by
    rw [beq_eq_false_iff_ne]
    rintro rfl
    exact hpage List.mem_cons_self
  change List.lookup page (("A", _) :: _) = List.lookup page (("A", _) :: _)
  simp only [List.lookup_cons, hother]

end Taskbook
