/-
  A preview and the page that is saved after it.

  Both render the content as the page of the given name, but the preview is rendered among the pages
  as they are (`hasField_preview_iff`), and the page that is put among the pages with itself put in
  (`hasField_put_iff`). The difference shows where a collecting line of the page leads to the page
  itself. Where each of them is spared, the preview shows what is saved
  (`preview_shows_what_is_saved`); where one is not, it may show something else
  (`preview_shows_pages_as_they_are`), as is seen on pages that are one task list each: their HTML
  is known without reading them (`Page.IsList.rendersTo`).
-/
import Taskbook.Proofs.Include.Lines
import Taskbook.Proofs.Include.Put
import Taskbook.Proofs.Page.Frame
import Taskbook.Proofs.Site.Pages
import Taskbook.Proofs.Site.Reading

namespace Taskbook

/-! ## Rendering -/

namespace Page

/-- A page whose collecting lines are spared is rendered the same with its content put in. -/
theorem render_withPage {scope : Scope} {name content : Text}
    (h : ∀ task ∈ Task.parseAll content, task.collects = true →
      task.Spared scope.notebook name content) :
    render (scope.withPage name content) name content = render scope name content := by
  have hplaced : placeTasks (scope.withPage name content) name (placeFrames content) =
      placeTasks scope name (placeFrames content) := by
    refine replaceTasks_congr fun task htask hcollects => ?_
    have hmem : task ∈ Task.parseAll (placeFrames content) := htask
    rw [parseAll_placeFrames] at hmem
    exact Scope.resolve_withPage (h task hmem hcollects)
  unfold render
  rw [hplaced]

/-- The page is rendered to its end, as the HTML. -/
def RendersTo (scope : Scope) (name content html : Text) : Prop :=
  (render scope name content).stopped = none ∧ (render scope name content).html = html

/-- All of a page is one task list, each part of it on a line. -/
structure IsList (scope : Scope) (name content : Text) (listing : Listing) : Prop where
  stopped : (placeTasks scope name (placeFrames content)).stopped = none
  text : (placeTasks scope name (placeFrames content)).text = listing.html ++ ['\n']
  oneLine : ∀ part ∈ listing.lines, Text.OneLine part

instance (scope : Scope) (name content : Text) (listing : Listing) :
    Decidable (IsList scope name content listing) :=
  decidable_of_iff
    ((placeTasks scope name (placeFrames content)).stopped = none ∧
      (placeTasks scope name (placeFrames content)).text = listing.html ++ ['\n'] ∧
      ∀ part ∈ listing.lines, Text.OneLine part)
    ⟨fun h => ⟨h.1, h.2.1, h.2.2⟩, fun h => ⟨h.stopped, h.text, h.oneLine⟩⟩

theorem IsList.rendersTo {scope : Scope} {name content : Text} {listing : Listing}
    (h : IsList scope name content listing) :
    RendersTo scope name content (nest 1 (addHeading (listing.html ++ "\n\n") name)) := by
  refine ⟨h.stopped, ?_⟩
  unfold render
  dsimp only
  rw [h.text, Listing.render_html h.oneLine]

end Page

namespace Site

open Http

variable {site : Site} {now : Nat} {request : Request} {name content : Text}

/-! ## Requests -/

/-- A content is put at the API under a name, and both pass. -/
structure PutsPage (request : Request) (name content : Text) : Prop where
  method : request.method = "PUT"
  path : request.path = pagesHead ++ name
  checked : checkBody request (checkName ["path", "name"] name) checkSave = .ok (name, content)

/-- A content is to be rendered under a name without being saved, and both pass. -/
structure PreviewsPage (request : Request) (name content : Text) : Prop where
  method : request.method = "POST"
  path : request.path = "/api/v1/render"
  checked : checkBody request (.ok ()) checkPreview = .ok ((), content, name)

theorem scope_save (hstore : site.store.Distinct) (now : Nat) (name content : Text) :
    site.scope (site.store.save now name content).1 =
      (site.scope site.store).withPage name content := by
  unfold scope Scope.withPage
  rw [Store.notebook_save hstore]

theorem hasField_rendering_iff {store : Store} {respond : Text → Response} {key : Text}
    (hrespond : ∀ html, ∃ json : Json, respond html = { status := 200, body := .json json } ∧
      json.get? key = some (.string html)) {html : Text} :
    HasField (site.rendering store name content respond).response key html ↔
      Page.RendersTo (site.scope store) name content html := by
  obtain ⟨json, hjson, hfield⟩ := hrespond (Page.render (site.scope store) name content).html
  unfold Page.RendersTo
  cases hstopped : (Page.render (site.scope store) name content).stopped with
  | none =>
    rw [response_rendering respond hstopped, hjson, and_iff_right rfl]
    constructor
    · rintro ⟨json', hsame, hfield'⟩
      obtain rfl := Body.json.inj (Response.mk.inj (Except.ok.inj hsame)).2.1
      exact Json.string.inj (Option.some.inj (hfield.symm.trans hfield'))
    · rintro rfl
      exact ⟨json, rfl, hfield⟩
  | some fault =>
    have hresponse : (site.rendering store name content respond).response = .error fault := by
      unfold rendering
      dsimp only
      rw [hstopped]
      rfl
    rw [hresponse]
    exact iff_of_false (fun ⟨_, hok, _⟩ => nomatch hok) (fun ⟨hnone, _⟩ => nomatch hnone)

/-- A preview is rendered among the pages as they are. -/
theorem hasField_preview_iff (h : PreviewsPage request name content) {html : Text} :
    HasField (site.answer now request).2.response "html" html ↔
      Page.RendersTo (site.scope site.store) name content html := by
  change HasField (site.respond now request).response "html" html ↔ _
  rw [respond_of_route (by rw [h.method, h.path]; exact route_preview)]
  unfold handle preview
  dsimp only
  rw [h.checked]
  exact hasField_rendering_iff fun html => ⟨_, rfl, html_previewJson name html⟩

/-- A page that is put is rendered among the pages with itself put in. -/
theorem hasField_put_iff (hstore : site.store.Distinct) (h : PutsPage request name content)
    {html : Text} :
    HasField (site.answer now request).2.response "rendered" html ↔
      Page.RendersTo ((site.scope site.store).withPage name content) name content html := by
  obtain ⟨entry, hrespond⟩ := respond_put site now h.method h.path h.checked
  change HasField (site.respond now request).response "rendered" html ↔ _
  rw [hrespond, ← scope_save hstore now]
  exact hasField_rendering_iff fun html => ⟨_, rfl, rendered_entryJson entry html⟩

/-! ## Previews and pages -/

/-- On a wiki that came about in any way, a preview renders the content as the page of its name among
    the pages as they are, and a page that is put is rendered among the pages with itself put in. The
    HTML is the same where each collecting line of the content leads elsewhere, or takes the page as
    met and does not name a page that is not there yet, or where the content has the same task lines
    as the page that is there. -/
theorem preview_shows_what_is_saved (site : Site) (hbuilt : Built site.settings site.store)
    (now now' : Nat) (name content : Text) (save preview : Request)
    (hsave : PutsPage save name content) (hpreview : PreviewsPage preview name content) :
    (∀ html, HasField (site.answer now preview).2.response "html" html ↔
      Page.RendersTo (site.scope site.store) name content html) ∧
    (∀ html, HasField (site.answer now' save).2.response "rendered" html ↔
      Page.RendersTo ((site.scope site.store).withPage name content) name content html) ∧
    ((∀ task ∈ Task.parseAll content, task.collects = true →
        task.Spared site.store.notebook name content) →
      ∀ html, HasField (site.answer now preview).2.response "html" html ↔
        HasField (site.answer now' save).2.response "rendered" html) := by
  refine ⟨fun html => hasField_preview_iff hpreview,
    fun html => hasField_put_iff hbuilt.distinct hsave, fun hspared html => ?_⟩
  have hrender : Page.render ((site.scope site.store).withPage name content) name content =
      Page.render (site.scope site.store) name content := Page.render_withPage hspared
  rw [hasField_preview_iff hpreview, hasField_put_iff hbuilt.distinct hsave]
  unfold Page.RendersTo
  rw [hrender]

/-- A page that includes something is rendered without being saved. -/
def previewingInclude (target : Text) : Request where
  method := "POST"
  path := "/api/v1/render"
  headers := [("Content-Type", "application/json")]
  body := "\x7b\"name\": \"Home\", \"content\": \"INCLUDE " ++ target ++ "\"\x7d"

/-- The page is there and is changed to collect the tasks of all pages. The line takes the page
    itself as met, so it is spared. -/
theorem preview_shows_what_is_saved_recursive :
    ∃ html, HasField ((blank.answer 1 (savingForm "DONE+it")).1.answer 2
          (previewingInclude "recursive:true wiki:all")).2.response "html" html ∧
      HasField ((blank.answer 1 (savingForm "DONE+it")).1.answer 3
          (puttingInclude "recursive:true wiki:all")).2.response "rendered" html := by
  have hbuilt : Built {} (blank.answer 1 (savingForm "DONE+it")).1.store :=
    .answer .empty [] 1 (savingForm "DONE+it")
  have hsave : PutsPage (puttingInclude "recursive:true wiki:all") "Home"
      "INCLUDE recursive:true wiki:all" :=
    ⟨rfl, rfl, eq_ok_of_toOption (by decide +kernel)⟩
  have hpreview : PreviewsPage (previewingInclude "recursive:true wiki:all") "Home"
      "INCLUDE recursive:true wiki:all" :=
    ⟨rfl, rfl, eq_ok_of_toOption (by decide +kernel)⟩
  have hlines : ∀ task ∈ Task.parseAll "INCLUDE recursive:true wiki:all",
      task.tags.get? "recursive" = some "true" ∧ task.wantsAll = true := by
    decide +kernel
  have hstopped : (Page.render ((blank.answer 1 (savingForm "DONE+it")).1.scope
      (blank.answer 1 (savingForm "DONE+it")).1.store) "Home"
      "INCLUDE recursive:true wiki:all").stopped = none := by
    decide +kernel
  obtain ⟨hshown, -, hsame⟩ := preview_shows_what_is_saved
    (blank.answer 1 (savingForm "DONE+it")).1 hbuilt 2 3 "Home" _ _ _ hsave hpreview
  have hspared : ∀ task ∈ Task.parseAll "INCLUDE recursive:true wiki:all", task.collects = true →
      task.Spared (blank.answer 1 (savingForm "DONE+it")).1.store.notebook "Home"
        "INCLUDE recursive:true wiki:all" := by
    intro task htask _
    obtain ⟨htag, hall⟩ := hlines task htask
    refine .recursive htag fun hnames => ?_
    rw [hnames.wantsAll] at hall
    cases hall
  exact ⟨_, (hshown _).mpr ⟨hstopped, rfl⟩, (hsame hspared _).mp ((hshown _).mpr ⟨hstopped, rfl⟩)⟩

/-- On an empty wiki, the preview of a page that includes a target and the page that is put show
    different HTML. -/
structure ShowsOther (target : Text) : Prop where
  put : PutsPage (puttingInclude target) "Home" ("INCLUDE " ++ target)
  preview : PreviewsPage (previewingInclude target) "Home" ("INCLUDE " ++ target)
  differ : ∃ html html',
    HasField (blank.answer 1 (previewingInclude target)).2.response "html" html ∧
      HasField (blank.answer 1 (puttingInclude target)).2.response "rendered" html' ∧ html ≠ html'

/-- The two show other HTML if the line comes to other lists among the pages as they are and with
    the page put in. -/
theorem showsOther_of_lists {target : Text} (task : Task) (visited : Option (List Text))
    (hput : PutsPage (puttingInclude target) "Home" ("INCLUDE " ++ target))
    (hpreview : PreviewsPage (previewingInclude target) "Home" ("INCLUDE " ++ target)) :
    let before := blank.scope {}
    let after := before.withPage "Home" ("INCLUDE " ++ target)
    let shown := (before.resolve task visited).listing
    let saved := (after.resolve task visited).listing
    Page.IsList before "Home" ("INCLUDE " ++ target) shown →
      Page.IsList after "Home" ("INCLUDE " ++ target) saved →
      Page.nest 1 (Page.addHeading (shown.html ++ "\n\n") "Home") ≠
        Page.nest 1 (Page.addHeading (saved.html ++ "\n\n") "Home") →
      ShowsOther target := by
  intro before after shown saved hshown hsaved hdiffers
  exact ⟨hput, hpreview, _, _, (hasField_preview_iff hpreview).mpr hshown.rendersTo,
    (hasField_put_iff Store.distinct_empty hput).mpr hsaved.rendersTo, hdiffers⟩

/-- A new page that collects the tasks of all pages finds its own line there once it is saved, and
    finds nothing before; and one that collects its own tasks, itself taken as met, is told before
    that there is no such page. So the preview shows something else than what is saved. -/
theorem preview_shows_pages_as_they_are :
    ShowsOther "wiki:all" ∧ ShowsOther "recursive:true wiki:Home" := by
  constructor
  · exact showsOther_of_lists { keyword := .collect, tags := [("wiki", "all")] } none
      ⟨rfl, rfl, eq_ok_of_toOption (by decide +kernel)⟩
      ⟨rfl, rfl, eq_ok_of_toOption (by decide +kernel)⟩
      (by decide +kernel) (by decide +kernel) (by decide +kernel)
  · exact showsOther_of_lists
      { keyword := .collect, tags := [("recursive", "true"), ("wiki", "Home")] }
      (some [pageOrigin "Home"])
      ⟨rfl, rfl, eq_ok_of_toOption (by decide +kernel)⟩
      ⟨rfl, rfl, eq_ok_of_toOption (by decide +kernel)⟩
      (by decide +kernel) (by decide +kernel) (by decide +kernel)

end Site

end Taskbook
