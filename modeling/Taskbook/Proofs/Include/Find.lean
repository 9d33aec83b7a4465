/-
  What a task points at, case by case. Which of the four cases a task is in does not depend on
  the world (`find_cases`); the world decides only what is found there. So other pages of the same
  names give sources of the same origins (`find_holding`), and a request that cannot be sent is
  always that for the task's own address (`find_eq_invalidAddress_iff`).
-/
import Taskbook.Include.Source

namespace Taskbook

/-- The world with other pages. -/
def World.holding (world : World) (book : Notebook) : World := { world with notebook := book }

namespace Notebook

variable {book book' : Notebook}

theorem map_fst_listing (book : Notebook) :
    book.listing.map Prod.fst = book.names.mergeSort fun a b => Text.le a.lower b.lower := by
  unfold listing names
  rw [List.map_mergeSort]
  intro _ _ _ _
  rfl

theorem find?_eq_none_iff {name : Text} : book.find? name = none ↔ name ∉ book.names := by
  unfold find? names
  rw [List.lookup_eq_none_iff, List.mem_map]
  constructor
  · rintro h ⟨page, hpage, rfl⟩
    simpa using h page hpage
  · intro h page hpage
    rw [bne_iff_ne]
    rintro rfl
    exact h ⟨page, hpage, rfl⟩

theorem exists_find?_of_names (hnames : book'.names = book.names) {name content : Text}
    (h : book.find? name = some content) : ∃ content', book'.find? name = some content' := by
  rw [← Option.ne_none_iff_exists']
  intro hnone
  rw [find?_eq_none_iff, hnames, ← find?_eq_none_iff, h] at hnone
  cases hnone

end Notebook

namespace World

variable {world : World} {book : Notebook} {task : Task}

/-! ## The four cases -/

theorem find_of_wantsAll (h : task.wantsAll = true) (world : World) :
    world.find task = .sources (world.allPages task.handed) := if_pos h

theorem find_of_address? {url : Text} (h : task.address? = some url) (world : World) :
    world.find task = world.remote task.handed url := by
  have hall : ¬ task.wantsAll = true := by
    intro hall
    simp [Task.address?, hall] at h
  unfold find
  rw [if_neg hall, h]

theorem find_of_target? {name : Text} (hall : ¬ task.wantsAll = true) (haddress : task.address? = none)
    (h : task.target? = some name) (world : World) :
    world.find task = world.page task.handed name := by
  unfold find
  rw [if_neg hall, haddress, h]

theorem find_of_target?_eq_none (hall : ¬ task.wantsAll = true) (haddress : task.address? = none)
    (h : task.target? = none) (world : World) : world.find task = .sources [] := by
  unfold find
  rw [if_neg hall, haddress, h]

/-- Only the tags and the description say what a task points at. -/
theorem find_congr {task' : Task} (htags : task'.tags = task.tags)
    (hdescription : task'.description = task.description) (world : World) :
    world.find task' = world.find task := by
  cases task
  cases task'
  subst htags hdescription
  rfl

/-- A task points at all pages, at an address, at one page or at nothing, in every world alike. -/
theorem find_cases (task : Task) :
    (∀ world : World, world.find task = .sources (world.allPages task.handed)) ∨
    (∃ url, task.address? = some url ∧
      ∀ world : World, world.find task = world.remote task.handed url) ∨
    (∃ name, ∀ world : World, world.find task = world.page task.handed name) ∨
    ∀ world : World, world.find task = .sources [] := by
  by_cases hall : task.wantsAll = true
  · exact Or.inl (find_of_wantsAll hall)
  cases haddress : task.address? with
  | some url => exact Or.inr (Or.inl ⟨url, rfl, find_of_address? haddress⟩)
  | none =>
    cases htarget : task.target? with
    | some name => exact Or.inr (Or.inr (Or.inl ⟨name, find_of_target? hall haddress htarget⟩))
    | none => exact Or.inr (Or.inr (Or.inr (find_of_target?_eq_none hall haddress htarget)))

theorem remote_of_failure {handed : Tags} {url : Text} (h : world.reply url = .failure) :
    world.remote handed url = .error (.unreachable url) := by
  unfold remote
  rw [h]

theorem page_of_some {handed : Tags} {name content : Text}
    (h : world.notebook.find? name = some content) :
    world.page handed name = .sources [world.pageSource handed name content] := by
  unfold page
  rw [h]

theorem page_of_none {handed : Tags} {name : Text} (h : world.notebook.find? name = none) :
    world.page handed name = .error (.noPage name) := by
  unfold page
  rw [h]

/-! ## Other pages of the same names -/

theorem map_origin_allPages (world : World) (handed : Tags) :
    (world.allPages handed).map (·.origin) =
      (world.notebook.names.mergeSort fun a b => Text.le a.lower b.lower).map
        (world.originOf handed) := by
  unfold allPages
  rw [← Notebook.map_fst_listing, List.map_map, List.map_map]
  rfl

/-- With other pages of the same names a task points at sources of the same origins, or finds
    nothing for the same reason. -/
theorem find_holding (hnames : book.names = world.notebook.names) (task : Task) :
    (∃ found found', world.find task = .sources found ∧
      (world.holding book).find task = .sources found' ∧
      found'.map (·.origin) = found.map (·.origin)) ∨
    ((∀ found, world.find task ≠ .sources found) ∧
      (world.holding book).find task = world.find task) := by
  rcases find_cases task with hall | ⟨url, -, hremote⟩ | ⟨name, hpage⟩ | hnothing
  · refine Or.inl ⟨_, _, hall world, hall (world.holding book), ?_⟩
    rw [map_origin_allPages, map_origin_allPages]
    change (book.names.mergeSort _).map (world.originOf task.handed) = _
    rw [hnames]
  · have hsame : (world.holding book).find task = world.find task := by
      rw [hremote, hremote]
      rfl
    cases hfind : world.find task with
    | sources found => exact Or.inl ⟨found, found, rfl, hsame.trans hfind, rfl⟩
    | error cause => exact Or.inr ⟨fun _ => nofun, hsame.trans hfind⟩
    | invalidAddress fault => exact Or.inr ⟨fun _ => nofun, hsame.trans hfind⟩
  · rw [hpage, hpage]
    cases hfind : world.notebook.find? name with
    | some content =>
      obtain ⟨content', hcontent'⟩ := Notebook.exists_find?_of_names hnames hfind
      have hfind' : (world.holding book).notebook.find? name = some content' := hcontent'
      rw [page_of_some hfind, page_of_some hfind']
      exact Or.inl ⟨_, _, rfl, rfl, rfl⟩
    | none =>
      have hfind' : (world.holding book).notebook.find? name = none := by
        rw [Notebook.find?_eq_none_iff] at hfind ⊢
        change name ∉ book.names
        rwa [hnames]
      rw [page_of_none hfind, page_of_none hfind']
      exact Or.inr ⟨fun _ => nofun, rfl⟩
  · exact Or.inl ⟨[], [], hnothing world, hnothing (world.holding book), rfl⟩

/-! ## Requests that cannot be sent -/

theorem find_eq_invalidAddress_iff {fault : Http.AddressFault} :
    world.find task = .invalidAddress fault ↔
      ∃ url, task.address? = some url ∧ world.reply url = .invalidAddress fault := by
  constructor
  · intro h
    rcases find_cases task with hall | ⟨url, haddress, hremote⟩ | ⟨name, hpage⟩ | hnothing
    · rw [hall] at h
      cases h
    · refine ⟨url, haddress, ?_⟩
      rw [hremote] at h
      unfold remote at h
      split at h
      · cases h
      · next hreply => rw [hreply, Finding.invalidAddress.inj h]
      · cases h
    · rw [hpage] at h
      unfold page at h
      split at h <;> cases h
    · rw [hnothing] at h
      cases h
  · rintro ⟨url, haddress, hreply⟩
    rw [find_of_address? haddress]
    unfold remote
    rw [hreply]

end World

end Taskbook
