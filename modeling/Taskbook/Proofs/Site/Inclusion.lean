/-
  Pages that are included by their names.

  A line that includes a page has the name of the page as the value of a tag. So it works for names
  of word characters and hyphens (`includesPage_of_wordlike`), but the entrances take other names as
  well. A form takes a line feed behind a name; at the end of a line it does not count, and the line
  is that of the name without it (`parse?_wikiLine_concat`). The API takes marks and joiners; no tag
  can have them, so all of it is description and the line points at nothing
  (`parse?_wikiLine_of_not_wordlike`). Neither line includes the page that was saved.
-/
import Taskbook.Proofs.Include.Link
import Taskbook.Proofs.Include.Literal
import Taskbook.Proofs.Site.Entrance
import Taskbook.Proofs.Text.Cut

namespace Taskbook

/-- The line that includes a page by its name. -/
def wikiLine (name : Text) : Text := "INCLUDE wiki:" ++ name

/-- The line is a collecting one without a description that points at the page of the given name:
    where there is such a page its list is, without an error, the list of the task lines of the
    page. -/
def IncludesPage (line name : Text) : Prop :=
  ∃ task, Task.parse? line = some task ∧ task.collects = true ∧ task.description = [] ∧
    task.target? = some name ∧
    ∀ (world : World) (content : Text), world.notebook.find? name = some content →
      ∃ result, (∀ limit, 1 ≤ limit → world.resolveWithin limit task none = some result) ∧
        result.listing.error = none ∧ result.stopped = none ∧
        List.Forall₂ Extends (Task.parseAll content) result.listing.tasks ∧
        ∀ task ∈ result.listing.tasks, task.comesFrom (pageOrigin name) = true

namespace PageName

variable {name : Text}

/-! ## Names that are included -/

theorem parse?_wikiLine_of_wordlike (h : Wordlike name) :
    Task.parse? (wikiLine name) = some { keyword := .collect, tags := [("wiki", name)] } := by
  have hline : wikiLine name = Keyword.collect.word ++ ' ' :: tagText ("wiki", name) := rfl
  rw [hline, parse?_one_tag .collect (h.tagForm (by decide))]

theorem includesPage_of_wordlike (h : Wordlike name) (hall : name ≠ "all") :
    IncludesPage (wikiLine name) name := by
  have hwiki : Tags.get? [("wiki", name)] "wiki" = some name := List.lookup_cons_self
  have hnames : Task.NamesPage { keyword := .collect, tags := [("wiki", name)] } :=
    ⟨⟨name, hwiki, hall⟩, rfl⟩
  have htarget : ({ keyword := .collect, tags := [("wiki", name)] } : Task).target? = some name :=
    Task.target?_of_wiki hwiki h.1
  refine ⟨_, parse?_wikiLine_of_wordlike h, rfl, rfl, htarget, fun world content hcontent => ?_⟩
  have hfind : world.find { keyword := .collect, tags := [("wiki", name)] } =
      .sources [world.pageSource [] name content] := by
    rw [World.find_of_target? (by rw [hnames.wantsAll_eq_false]; exact Bool.false_ne_true)
      hnames.address?_eq_none htarget, World.page_of_some hcontent]
    rfl
  have htasks : (Resolution.literal { keyword := .collect, tags := [("wiki", name)] }
      [world.pageSource [] name content]).listing.tasks =
        (world.pageSource [] name content).tasks := List.flatMap_singleton _ _
  refine ⟨_, fun limit => World.resolveWithin_none hfind, rfl, rfl, ?_, ?_⟩
  · rw [htasks]
    exact (world.pageSource [] name content).forall₂_extends_tasks
  · rw [htasks]
    intro task htask
    rw [Source.comesFrom_of_mem_tasks htask]
    exact decide_eq_true rfl

/-! ## Names that are not -/

theorem parse?_wikiLine_concat (stem : Text) :
    Task.parse? (wikiLine (stem ++ ['\n'])) = Task.parse? (wikiLine stem) := by
  have hline : wikiLine (stem ++ ['\n']) = wikiLine stem ++ ['\n'] :=
    (List.append_assoc _ _ _).symm
  unfold Task.parse?
  rw [hline, Text.trimEnd_concat (by decide)]

theorem Identifying.not_blank (h : Identifying name) :
    ∀ c ∈ ("wiki:" : Text) ++ name, isBlank c = false := by
  intro c hc
  rcases List.mem_append.mp hc with hwiki | hname
  · have hall : ("wiki:" : Text).all (fun c => !isBlank c) = true := by decide
    simpa using List.all_eq_true.mp hall c hwiki
  · rcases h.2 c hname with hidentifier | rfl
    · exact isBlank_eq_false_of_isIdentifier hidentifier
    · decide

/-- Without a blank in it, the text would be a tag as a whole. -/
theorem Identifying.wordlike_of_startsWithTag (h : Identifying name)
    (htag : StartsWithTag ("wiki:" ++ name)) : Wordlike name := by
  obtain ⟨⟨key, value⟩, rest, hform, heq, hrest⟩ := htag
  have hnil : rest = [] := by
    cases rest with
    | nil => rfl
    | cons c tail =>
      have hmem : c ∈ ("wiki:" : Text) ++ name := by
        rw [heq]
        exact List.mem_append_right _ List.mem_cons_self
      exact absurd ((h.not_blank c hmem).symm.trans (hrest c rfl)) Bool.false_ne_true
  rw [hnil, List.append_nil] at heq
  have hcolon : ':' ∉ key := fun hmem => absurd (hform.key_word _ hmem) (by decide)
  obtain rfl : ("wiki" : Text) = key := Text.front_unique (by decide) hcolon heq
  obtain rfl : name = value := List.append_cancel_left heq
  have hdot : ¬ (isIdentifier '.' = true ∨ '.' = '-') := by decide
  refine ⟨h.1, fun c hc => ?_⟩
  rcases Bool.or_eq_true_iff.mp (hform.value_char c hc) with hvalue | hhyphen
  · rcases Bool.or_eq_true_iff.mp hvalue with hword | hisDot
    · exact Or.inl hword
    · obtain rfl := of_decide_eq_true hisDot
      exact absurd (h.2 '.' hc) hdot
  · exact Or.inr (of_decide_eq_true hhyphen)

theorem parse?_wikiLine_of_not_wordlike (h : Identifying name) (hnot : ¬ Wordlike name) :
    Task.parse? (wikiLine name) =
      some { keyword := .collect, description := "wiki:" ++ name } := by
  have hform : Task.WellFormed { keyword := .collect, description := "wiki:" ++ name } :=
    { tags := nofun
      trimmed := Text.trim_eq_self_iff.mpr
        ⟨Text.startsOutside_of_forall h.not_blank, Text.endsOutside_of_forall h.not_blank⟩
      oneLine := fun hmem => absurd (h.not_blank _ hmem) (by decide)
      untagged := fun htag => hnot (h.wordlike_of_startsWithTag htag) }
  have hline : wikiLine name = Keyword.collect.word ++ ' ' :: ("wiki:" ++ name) := rfl
  have hne : ("wiki:" : Text) ++ name ≠ [] := List.cons_ne_nil _ _
  rw [hline, ← Task.print_without_tags .collect hne, parse?_print hform]

/-- A line without a tag points at nothing, and there is no error. -/
theorem find_of_wikiDescription (world : World) (name : Text) :
    world.find { keyword := .collect, description := "wiki:" ++ name } = .sources [] := by
  have hall : Task.wantsAll { keyword := .collect, description := "wiki:" ++ name } = false := rfl
  refine World.find_of_target?_eq_none ?_ rfl rfl world
  rw [hall]
  exact Bool.false_ne_true

/-- Of the names that can be taken, those of word characters and hyphens are included by name. -/
theorem includesPage_iff (h : FitsApi name ∨ FitsForms name) (hall : name ≠ "all") :
    IncludesPage (wikiLine name) name ↔ Wordlike name := by
  refine ⟨?_, fun hword => includesPage_of_wordlike hword hall⟩
  rintro ⟨task, hparse, -, hdescription, htarget, -⟩
  by_contra hnot
  rcases h with hapi | ⟨stem, hstem, rfl | rfl⟩
  · rw [parse?_wikiLine_of_not_wordlike hapi.1 hnot] at hparse
    obtain rfl := Option.some.inj hparse
    cases htarget
  · exact hnot hstem
  · rw [parse?_wikiLine_concat, parse?_wikiLine_of_wordlike hstem] at hparse
    obtain rfl := Option.some.inj hparse
    -- The line points at the page without the line feed.
    have hother := htarget.symm.trans (Task.target?_of_wiki List.lookup_cons_self hstem.1)
    exact absurd (List.append_right_eq_self.mp (Option.some.inj hother)) (List.cons_ne_nil _ _)

end PageName

namespace Site

open Http

/-- A page that the API or a form takes under a name other than `all` can be included by its name
    exactly if the name is made of word characters and hyphens. The other names are of two kinds.
    Some end in a line feed; the line that should include such a page is read as that of the name
    without it. Some have characters of the API that no tag can have; then the line has no tag, and
    in every world it points at nothing, without an error. -/
theorem saved_page_is_included_iff (site : Site) (now : Nat) (name : Text)
    (hname : name ≠ [] ∧ '/' ∉ name) (hall : name ≠ "all") (put form : Request)
    (hput : Puts put name) (hform : Submits site form name)
    (htaken : ¬ (site.answer now put).2.HasStatus 422 ∨
      ¬ (site.answer now form).2.HasStatus 404) :
    (IncludesPage (wikiLine name) name ↔ PageName.Wordlike name) ∧
    (¬ PageName.Wordlike name →
      (∃ stem, name = stem ++ ['\n'] ∧ PageName.Wordlike stem ∧
        Task.parse? (wikiLine name) = Task.parse? (wikiLine stem)) ∨
      PageName.FitsApi name ∧ ∃ task, Task.parse? (wikiLine name) = some task ∧
        task.description = "wiki:" ++ name ∧ ∀ world : World, world.find task = .sources []) := by
  rw [put_taken_iff hname hput, submit_taken_iff hname hform] at htaken
  refine ⟨PageName.includesPage_iff htaken hall, fun hnot => ?_⟩
  rcases htaken with hapi | ⟨stem, hstem, rfl | rfl⟩
  · exact Or.inr ⟨hapi, _, PageName.parse?_wikiLine_of_not_wordlike hapi.1 hnot, rfl,
      fun world => PageName.find_of_wikiDescription world name⟩
  · exact absurd hstem hnot
  · exact Or.inl ⟨stem, rfl, hstem, PageName.parse?_wikiLine_concat stem⟩

theorem saved_page_is_included_iff_plain :
    Puts (putting "Home") "Home" ∧ Submits blank (submitting "Home") "Home" ∧
      ¬ (blank.answer 1 (putting "Home")).2.HasStatus 422 ∧ PageName.Wordlike "Home" ∧
      IncludesPage "INCLUDE wiki:Home" "Home" := by
  have hname : ("Home" : Text) ≠ [] ∧ '/' ∉ ("Home" : Text) := by decide
  have hword : PageName.Wordlike "Home" := by decide
  have hfits : PageName.FitsApi "Home" := PageName.fitsApi_iff.mpr (by decide)
  have htaken : ¬ (blank.answer 1 (putting "Home")).2.HasStatus 422 :=
    (put_taken_iff hname (puts_putting "Home")).mpr hfits
  obtain ⟨hincludes, -⟩ := saved_page_is_included_iff blank 1 "Home" hname (by decide) _ _
    (puts_putting "Home") (submits_submitting "Home") (Or.inl htaken)
  exact ⟨puts_putting "Home", submits_submitting "Home", htaken, hword, hincludes.mpr hword⟩

/-- Two pages that are taken and cannot be included: one with an accent that is a character of its
    own, put at the API, and one with a line feed behind its name, submitted by a form. -/
theorem saved_pages_are_not_included :
    (Puts (putting "Cafe\u0301") "Cafe\u0301" ∧
      ¬ (blank.answer 1 (putting "Cafe\u0301")).2.HasStatus 422 ∧
      Task.parse? "INCLUDE wiki:Cafe\u0301" =
        some { keyword := .collect, description := "wiki:Cafe\u0301" } ∧
      ¬ IncludesPage "INCLUDE wiki:Cafe\u0301" "Cafe\u0301") ∧
    Submits blank (submitting "Home\n") "Home\n" ∧
      ¬ (blank.answer 1 (submitting "Home\n")).2.HasStatus 404 ∧
      Task.parse? "INCLUDE wiki:Home\n" =
        some { keyword := .collect, tags := [("wiki", "Home")] } ∧
      ¬ IncludesPage "INCLUDE wiki:Home\n" "Home\n" := by
  have hcafe : PageName.FitsApi "Cafe\u0301" := PageName.fitsApi_iff.mpr (by decide)
  have hmark : ¬ PageName.Wordlike "Cafe\u0301" := by decide
  have hhome : PageName.FitsForms "Home\n" := PageName.accepted_iff.mp (by decide)
  have hfeed : ¬ PageName.Wordlike "Home\n" := PageName.not_wordlike_concat "Home"
  have hput : ¬ (blank.answer 1 (putting "Cafe\u0301")).2.HasStatus 422 :=
    (put_taken_iff (by decide) (puts_putting "Cafe\u0301")).mpr hcafe
  have hsubmit : ¬ (blank.answer 1 (submitting "Home\n")).2.HasStatus 404 :=
    (submit_taken_iff (by decide) (submits_submitting "Home\n")).mpr hhome
  refine ⟨⟨puts_putting _, hput, PageName.parse?_wikiLine_of_not_wordlike hcafe.1 hmark, ?_⟩,
    submits_submitting _, hsubmit, ?_, ?_⟩
  · exact mt (PageName.includesPage_iff (Or.inl hcafe) (by decide)).mp hmark
  · exact (PageName.parse?_wikiLine_concat "Home").trans
      (PageName.parse?_wikiLine_of_wordlike (by decide))
  · exact mt (PageName.includesPage_iff (Or.inr hhome) (by decide)).mp hfeed

end Site

end Taskbook
