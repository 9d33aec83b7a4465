/-
  Pages that include pages. A task that names a page (`Task.NamesPage`) asks for no address, and
  the tags handed to a line of this kind do not change the page it points at
  (`Origin.claim_target?`). So a notebook in which all collecting lines name pages is a graph
  (`Notebook.Links`).

  `Notebook.Reached`: the pages reached from some first ones in that graph, by ways through pages
  that have not been visited.
-/
import Taskbook.Proofs.Include.Origin
import Taskbook.Proofs.Task.RoundTrip

namespace Taskbook

/-- The task has a `wiki` tag that does not ask for all pages, and no address for description. -/
structure Task.NamesPage (task : Task) : Prop where
  wiki : ∃ value, task.tags.get? "wiki" = some value ∧ value ≠ "all"
  noAddress : Text.startsWith task.description "http" = false

instance (task : Task) : Decidable task.NamesPage :=
  decidable_of_iff ((task.tags.get? "wiki").any (· ≠ ("all" : Text)) = true ∧
      Text.startsWith task.description "http" = false)
    ⟨fun h => ⟨by simpa [Option.any_eq_true] using h.1, h.2⟩,
      fun h => ⟨by simpa [Option.any_eq_true] using h.wiki, h.noAddress⟩⟩

namespace Notebook

/-- Every collecting line of every page names a page. -/
def NamesPages (book : Notebook) : Prop :=
  ∀ page ∈ book.pages, ∀ line ∈ Task.parseAll page.2, line.collects = true → line.NamesPage

instance (book : Notebook) : Decidable book.NamesPages :=
  inferInstanceAs (Decidable (∀ page ∈ book.pages, ∀ line ∈ Task.parseAll page.2,
    line.collects = true → line.NamesPage))

/-- A collecting line of the page `p` points at `q`. -/
def Links (book : Notebook) (p q : Text) : Prop :=
  ∃ content, book.find? p = some content ∧
    ∃ line ∈ Task.parseAll content, line.collects = true ∧ line.target? = some q

/-- There is a page `q`, and it has not been visited. -/
structure Open (book : Notebook) (met : List Text) (q : Text) : Prop where
  stored : ∃ content, book.find? q = some content
  unmet : pageOrigin q ∉ met

/-- The pages reached from those in `start` through pages that have not been visited. -/
inductive Reached (book : Notebook) (met : List Text) (start : Text → Prop) : Text → Prop where
  | start {q : Text} (hq : start q) (hopen : book.Open met q) : Reached book met start q
  | follow {p q : Text} (hp : Reached book met start p) (hlink : book.Links p q)
      (hopen : book.Open met q) : Reached book met start q

/-- The same pages, each with its lines in any order. -/
def SameLines (book book' : Notebook) : Prop :=
  ∀ name, Option.Rel (fun content content' => (Text.lines content).Perm (Text.lines content'))
    (book.find? name) (book'.find? name)

end Notebook

theorem pageOrigin_inj {p q : Text} (h : pageOrigin p = pageOrigin q) : p = q :=
  (List.cons.inj h).2

/-! ## Tasks that name a page -/

namespace Task

variable {task : Task}

theorem NamesPage.wantsAll_eq_false (h : task.NamesPage) : task.wantsAll = false := by
  obtain ⟨value, hvalue, hne⟩ := h.wiki
  unfold wantsAll
  rw [hvalue]
  exact decide_eq_false fun heq => hne (Option.some.inj heq)

theorem NamesPage.address?_eq_none (h : task.NamesPage) : task.address? = none := by
  unfold address?
  rw [h.noAddress, Bool.and_false]
  rfl

theorem target?_of_wiki {value : Text} (h : task.tags.get? "wiki" = some value)
    (hne : value ≠ []) : task.target? = some value := by
  have hfilled : task.tags.filled? "wiki" = some value := by
    unfold Tags.filled?
    rw [h]
    simp [hne]
  unfold target?
  rw [hfilled]
  rfl

/-- A task read from a line has no empty tag, so one that names a page points at it. -/
theorem NamesPage.target?_eq_wiki (h : task.NamesPage) (hform : task.WellFormed) :
    ∃ value, task.tags.get? "wiki" = some value ∧ task.target? = some value := by
  obtain ⟨value, hvalue, _⟩ := h.wiki
  have hne : value ≠ [] := (hform.tags _ (Tags.mem_of_get? hvalue)).value_ne_nil
  exact ⟨value, hvalue, target?_of_wiki hvalue hne⟩

end Task

/-! ## Lines that a source claims -/

theorem Origin.get?_claim (origin : Origin) {task : Task} {key value : Text}
    (h : task.tags.get? key = some value) : (origin.claim task).tags.get? key = some value := by
  obtain ⟨more, hmore⟩ := (origin.claim_extends task).tags
  rw [← hmore]
  exact Tags.get?_append h more

theorem Origin.claim_namesPage (origin : Origin) {task : Task} (h : task.NamesPage) :
    (origin.claim task).NamesPage where
  wiki := by
    obtain ⟨value, hvalue, hne⟩ := h.wiki
    exact ⟨value, origin.get?_claim hvalue, hne⟩
  noAddress := by
    rw [(origin.claim_extends task).description]
    exact h.noAddress

theorem Origin.claim_target? (origin : Origin) {task : Task} (h : task.NamesPage)
    (hform : task.WellFormed) : (origin.claim task).target? = task.target? := by
  obtain ⟨value, hvalue, htarget⟩ := h.target?_eq_wiki hform
  have hne : value ≠ [] := (hform.tags _ (Tags.mem_of_get? hvalue)).value_ne_nil
  rw [htarget, Task.target?_of_wiki (origin.get?_claim hvalue) hne]

namespace Notebook

variable {book : Notebook} {met : List Text} {start : Text → Prop} {p q : Text}

theorem wellFormed_of_mem_parseAll {content : Text} {line : Task}
    (h : line ∈ Task.parseAll content) : line.WellFormed := by
  obtain ⟨_, _, hparse⟩ := List.mem_filterMap.mp h
  exact wellFormed_of_parse? hparse

/-- The source is that of a page. -/
def HasSource (book : Notebook) (source : Source) (p : Text) : Prop :=
  source.origin.name = pageOrigin p ∧ book.find? p = some source.text

theorem HasSource.mem_origins {world : World} {source : Source}
    (h : world.notebook.HasSource source p) : source.origin.name ∈ world.origins [] := by
  rw [h.1]
  refine List.mem_append_left _ (List.mem_map_of_mem ?_)
  exact List.mem_map_of_mem (f := Prod.fst) (mem_pages_of_find? h.2)

/-- The collecting lines of a page's source name pages, and lead where the links of the page do. -/
theorem NamesPages.of_mem_tasks (hbook : book.NamesPages) {source : Source}
    (hsource : book.HasSource source p) {line : Task} (hline : line ∈ source.tasks)
    (hc : line.collects = true) :
    line.NamesPage ∧ ∀ q, line.target? = some q → book.Links p q := by
  obtain ⟨own, hown, rfl⟩ := List.mem_map.mp hline
  rw [Origin.claim_collects] at hc
  have hnames := hbook _ (mem_pages_of_find? hsource.2) own hown hc
  refine ⟨source.origin.claim_namesPage hnames, fun q hq => ⟨_, hsource.2, own, hown, hc, ?_⟩⟩
  rwa [source.origin.claim_target? hnames (wellFormed_of_mem_parseAll hown)] at hq

theorem NamesPages.exists_line (hbook : book.NamesPages) {source : Source}
    (hsource : book.HasSource source p) (hlink : book.Links p q) :
    ∃ line ∈ source.tasks, line.collects = true ∧ line.target? = some q := by
  obtain ⟨content, hcontent, own, hown, hc, htarget⟩ := hlink
  obtain rfl := Option.some.inj (hsource.2.symm.trans hcontent)
  have hnames := hbook _ (mem_pages_of_find? hsource.2) own hown hc
  refine ⟨source.origin.claim own, List.mem_map_of_mem hown, ?_, ?_⟩
  · rwa [Origin.claim_collects]
  · rwa [source.origin.claim_target? hnames (wellFormed_of_mem_parseAll hown)]

end Notebook

/-! ## Pages that were reached -/

namespace Notebook

variable {book book' : Notebook} {met : List Text} {start start' : Text → Prop} {p q : Text}

theorem Reached.isOpen (h : book.Reached met start q) : book.Open met q := by
  cases h with
  | start _ hopen => exact hopen
  | follow _ _ hopen => exact hopen

theorem Reached.mono (hlinks : ∀ p q, book.Links p q → book'.Links p q)
    (hopen : ∀ q, book.Open met q → book'.Open met q) (hstart : ∀ q, start q → start' q)
    (h : book.Reached met start q) : book'.Reached met start' q := by
  induction h with
  | start hq ho => exact .start (hstart _ hq) (hopen _ ho)
  | follow _ hlink ho ih => exact .follow ih (hlinks _ _ hlink) (hopen _ ho)

theorem sameLines_of_forall₂ (h : List.Forall₂ (fun page page' => page.1 = page'.1 ∧
    (Text.lines page.2).Perm (Text.lines page'.2)) book.pages book'.pages) :
    book.SameLines book' := by
  intro name
  unfold find?
  generalize book.pages = pages, book'.pages = pages' at h
  induction h with
  | nil => exact .none
  | @cons page page' _ _ hpage _ ih =>
    obtain ⟨hname, hperm⟩ := hpage
    obtain ⟨key, content⟩ := page
    obtain ⟨key', content'⟩ := page'
    obtain rfl : key = key' := hname
    rw [List.lookup_cons, List.lookup_cons]
    split
    · exact .some hperm
    · exact ih

theorem SameLines.symm (h : book.SameLines book') : book'.SameLines book := by
  intro name
  have hname := h name
  generalize book.find? name = found, book'.find? name = found' at hname
  cases hname with
  | some hperm => exact .some hperm.symm
  | none => exact .none

theorem SameLines.exists_find? (h : book.SameLines book') {content : Text}
    (hp : book.find? p = some content) :
    ∃ content', book'.find? p = some content' ∧
      (Task.parseAll content).Perm (Task.parseAll content') := by
  have hname := h p
  rw [hp] at hname
  generalize hp' : book'.find? p = found at hname
  cases hname with
  | some hperm => exact ⟨_, rfl, hperm.filterMap _⟩

theorem SameLines.links (h : book.SameLines book') (hlink : book.Links p q) : book'.Links p q := by
  obtain ⟨content, hcontent, line, hline, hrest⟩ := hlink
  obtain ⟨content', hcontent', hperm⟩ := h.exists_find? hcontent
  exact ⟨content', hcontent', line, hperm.mem_iff.mp hline, hrest⟩

theorem SameLines.isOpen (h : book.SameLines book') (hopen : book.Open met q) :
    book'.Open met q := by
  obtain ⟨content, hcontent⟩ := hopen.stored
  obtain ⟨content', hcontent', _⟩ := h.exists_find? hcontent
  exact ⟨⟨content', hcontent'⟩, hopen.unmet⟩

theorem SameLines.namesPages (h : book.SameLines book') (hbook : book.NamesPages) :
    book'.NamesPages := by
  rintro ⟨name, content⟩ hpage line hline hc
  obtain ⟨content', hcontent', hperm⟩ := h.symm.exists_find? (find?_of_mem_pages hpage)
  exact hbook _ (mem_pages_of_find? hcontent') line (hperm.mem_iff.mp hline) hc

end Notebook

end Taskbook
