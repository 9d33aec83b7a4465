/-
  What was written is what is read.

  A write that succeeds saves its content under the name in its path (`respond_of_saves`), and
  requests that write no page of that name leave the content alone (`Keeps.contentOf?`, by
  induction on the requests). So each way to read the page gives that content
  (`readsContent_of_contentOf?`). A rendered page depends on the name, the content, the pages and
  the remote texts alone, so as long as these are the same all ways to render it give the HTML that
  the write gave (`readsHtml_of_contentOf?`, `writesHtml_of_saves`).
-/
import Taskbook.Proofs.Http.Form
import Taskbook.Proofs.Site.Rendering
import Taskbook.Proofs.Store.Names

namespace Taskbook.Site

open Http

variable {site later : Site} {now : Nat} {request : Request} {response : Response}
  {name content html : Text}

/-! ## Fields of responses -/

/-- There is a response, and it is an object in which a field has the given text. -/
def HasField (outcome : Except AddressFault Response) (key text : Text) : Prop :=
  ∃ json, outcome = .ok { status := 200, body := .json json } ∧ json.get? key = some (.string text)

theorem content_entryJson (entry : Entry) (rendered : Option Text) :
    (entryJson entry rendered).get? "content" = some (.string entry.content) := rfl

theorem rendered_entryJson (entry : Entry) (html : Text) :
    (entryJson entry (some html)).get? "rendered" = some (.string html) := rfl

theorem html_previewJson (name html : Text) :
    (Json.object [("html", .string html), ("name", .string name)]).get? "html" =
      some (.string html) := rfl

theorem response_rendering {store : Store} (respond : Text → Response)
    (h : (Page.render (site.scope store) name content).stopped = none) :
    (site.rendering store name content respond).response =
      .ok (respond (Page.render (site.scope store) name content).html) := by
  unfold rendering
  dsimp only
  rw [h]
  rfl

/-! ## Writes -/

/-- A request that saves a content under a name, and the status of its answer if it does. The
    content of a form is the text of its field, however forms are read. -/
inductive Saves (site : Site) (request : Request) (name content : Text) (status : Nat) : Prop where
  | put {body : Json} (hmethod : request.method = "PUT") (hpath : request.path = pagesHead ++ name)
      (hbody : request.json? = .ok (some body))
      (hcontent : body.get? "content" = some (.string content)) (hstatus : status = 200)
  | submit {form : Form} (hmethod : request.method = "POST") (hpath : request.path = "/e/" ++ name)
      (hform : site.readForm request = .ok form) (hcontent : form.text "body" = content)
      (hstatus : status = 303 ∨ status = 200)

theorem status_refused (refusal : Refusal) :
    (refused refusal).status = 422 ∨ (refused refusal).status = 400 ∨
      (refused refusal).status = 500 := by
  cases refusal <;> simp [refused, Response.detail]

/-- An answer with a status of success is that of an endpoint. -/
theorem exists_endpoint (h : (site.respond now request).response = .ok response)
    (hstatus : response.status = 303 ∨ response.status = 200) :
    ∃ endpoint, route request.method request.path = .endpoint endpoint := by
  unfold respond at h
  split at h
  · next endpoint hroute => exact ⟨endpoint, hroute⟩
  · obtain rfl := Except.ok.inj h
    simp [Response.detail] at hstatus
  · obtain rfl := Except.ok.inj h
    simp [Response.redirect] at hstatus
  · obtain rfl := Except.ok.inj h
    simp [status_notFound] at hstatus

/-- A page that is put with success is saved, and rendered in the store after that. -/
theorem respond_of_put {body : Json} (hmethod : request.method = "PUT")
    (hpath : request.path = pagesHead ++ name) (hbody : request.json? = .ok (some body))
    (hcontent : body.get? "content" = some (.string content))
    (hresponse : (site.respond now request).response = .ok response)
    (hstatus : response.status = 200) :
    (name ≠ [] ∧ '/' ∉ name) ∧ ∃ entry : Entry, site.respond now request =
      site.rendering (site.store.save now name content).1 name content fun html =>
        { status := 200, body := .json (entryJson entry (some html)) } := by
  obtain ⟨endpoint, hroute⟩ := exists_endpoint hresponse (Or.inr hstatus)
  rw [respond_of_route hroute] at hresponse
  rw [hmethod] at hroute
  obtain ⟨name', rfl, hpath', hname⟩ := putPage_of_route hroute
  obtain rfl := List.append_cancel_left (hpath.symm.trans hpath')
  refine ⟨hname, ?_⟩
  unfold handle putPage at hresponse
  dsimp only at hresponse
  split at hresponse
  · next refusal _ =>
    obtain rfl := Except.ok.inj hresponse
    have := status_refused refusal
    omega
  · next other content' hchecked =>
    obtain ⟨members, hjson, hother, hcontent'⟩ := exists_object_of_checkBody hchecked
    obtain ⟨rfl, -⟩ := eq_of_checkName hother
    rw [hbody] at hjson
    obtain rfl := Option.some.inj (Except.ok.inj hjson)
    rw [get?_of_checkSave hcontent'] at hcontent
    obtain rfl := Json.string.inj (Option.some.inj hcontent)
    exact respond_put site now hmethod hpath hchecked

/-- A page is submitted with success by a form that is read, under a name that the forms take. It is
    saved; a script gets it rendered in the store after that, and a browser is sent to it. -/
theorem respond_of_submit (hmethod : request.method = "POST") (hpath : request.path = "/e/" ++ name)
    (hresponse : (site.respond now request).response = .ok response)
    (hstatus : response.status = 303 ∨ response.status = 200) :
    (name ≠ [] ∧ '/' ∉ name) ∧ PageName.accepted name = true ∧
      ∃ form, site.readForm request = .ok form ∧ site.respond now request =
        if wantsHtml request then
          site.rendering (site.store.save now name (form.text "body")).1 name (form.text "body")
            fun html => { status := 200, body := .html html }
        else
          { response := .ok (.redirect 303 ('/' :: name))
            store := (site.store.save now name (form.text "body")).1 } := by
  obtain ⟨endpoint, hroute⟩ := exists_endpoint hresponse hstatus
  rw [respond_of_route hroute] at hresponse ⊢
  rw [hmethod, hpath] at hroute
  obtain ⟨rfl, hname⟩ := submit_of_route hroute
  refine ⟨hname, ?_⟩
  unfold handle submit at hresponse ⊢
  dsimp only at hresponse ⊢
  split at hresponse
  · next refusal _ =>
    obtain rfl := Except.ok.inj hresponse
    have := status_refused refusal
    omega
  · next content hchecked =>
    obtain ⟨form, hform, rfl⟩ := exists_form_of_checkForm hchecked
    split at hresponse
    · next haccepted =>
      refine ⟨haccepted, form, hform, ?_⟩
      rw [if_pos haccepted]
      split
      · rw [Store.name_of_find? (Store.find?_save site.store now name _), Store.content_save]
      · rfl
    · obtain rfl := Except.ok.inj hresponse
      rw [status_notFound] at hstatus
      omega

/-- The same where the content of the form is known. -/
theorem respond_of_submitted {form : Form} (hmethod : request.method = "POST")
    (hpath : request.path = "/e/" ++ name) (hform : site.readForm request = .ok form)
    (hcontent : form.text "body" = content)
    (hresponse : (site.respond now request).response = .ok response)
    (hstatus : response.status = 303 ∨ response.status = 200) :
    (name ≠ [] ∧ '/' ∉ name) ∧ site.respond now request =
      if wantsHtml request then
        site.rendering (site.store.save now name content).1 name content fun html =>
          { status := 200, body := .html html }
      else
        { response := .ok (.redirect 303 ('/' :: name))
          store := (site.store.save now name content).1 } := by
  obtain ⟨hname, -, form', hform', hrespond⟩ := respond_of_submit hmethod hpath hresponse hstatus
  obtain rfl := Except.ok.inj (hform.symm.trans hform')
  exact ⟨hname, hcontent ▸ hrespond⟩

theorem name_of_saves (hresponse : (site.respond now request).response = .ok response)
    (hsaves : Saves site request name content response.status) : name ≠ [] ∧ '/' ∉ name := by
  cases hsaves with
  | put hmethod hpath hbody hcontent hstatus =>
    exact (respond_of_put hmethod hpath hbody hcontent hresponse hstatus).1
  | submit hmethod hpath hform hcontent hstatus =>
    exact (respond_of_submitted hmethod hpath hform hcontent hresponse hstatus).1

theorem store_of_saves (hresponse : (site.respond now request).response = .ok response)
    (hsaves : Saves site request name content response.status) :
    (site.respond now request).store = (site.store.save now name content).1 := by
  cases hsaves with
  | put hmethod hpath hbody hcontent hstatus =>
    obtain ⟨-, entry, hrespond⟩ :=
      respond_of_put hmethod hpath hbody hcontent hresponse hstatus
    rw [hrespond]
    rfl
  | submit hmethod hpath hform hcontent hstatus =>
    rw [(respond_of_submitted hmethod hpath hform hcontent hresponse hstatus).2]
    split <;> rfl

/-- The answer to a write carries the HTML of the page, if it carries any. -/
structure WritesHtml (request : Request) (outcome : Except AddressFault Response) (html : Text) :
    Prop where
  put : request.method = "PUT" → HasField outcome "rendered" html
  submit : request.method = "POST" → wantsHtml request = true →
    outcome = .ok { status := 200, body := .html html }

theorem writesHtml_of_saves (hresponse : (site.respond now request).response = .ok response)
    (hsaves : Saves site request name content response.status)
    (hstopped : (Page.render (site.scope (site.store.save now name content).1) name
      content).stopped = none) :
    WritesHtml request (site.respond now request).response
      (Page.render (site.scope (site.store.save now name content).1) name content).html := by
  cases hsaves with
  | put hmethod hpath hbody hcontent hstatus =>
    obtain ⟨-, entry, hrespond⟩ :=
      respond_of_put hmethod hpath hbody hcontent hresponse hstatus
    refine ⟨fun _ => ⟨_, ?_, rendered_entryJson entry _⟩, fun hpost => ?_⟩
    · rw [hrespond, response_rendering _ hstopped]
    · rw [hmethod] at hpost
      cases hpost
  | submit hmethod hpath hform hcontent hstatus =>
    have hrespond := (respond_of_submitted hmethod hpath hform hcontent hresponse hstatus).2
    refine ⟨fun hput => ?_, fun _ hwants => ?_⟩
    · rw [hmethod] at hput
      cases hput
    · rw [hrespond, if_pos hwants, response_rendering _ hstopped]

/-! ## Requests that leave a page alone -/

/-- The wikis that requests lead to of which none is answered as one that changes the page of a
    name. -/
inductive Keeps (name : Text) (start : Site) : Site → Prop where
  | start : Keeps name start start
  | answer {site : Site} (h : Keeps name start site) (remote : List (Text × Fetched)) (now : Nat)
      (request : Request)
      (hother : ∀ response, ((site.facing remote).answer now request).2.response = .ok response →
        ¬ Writes request name response.status) :
      Keeps name start ((site.facing remote).answer now request).1

namespace Keeps

variable {start : Site}

theorem settled (hstart : start.store.Settled) (h : Keeps name start site) :
    site.store.Settled := by
  cases h with
  | start => exact hstart
  | answer _ remote now request _ => exact settled_answer _ now request

theorem settings (h : Keeps name start site) : site.settings = start.settings := by
  induction h with
  | start => rfl
  | answer _ _ _ _ _ ih => exact ih

theorem contentOf? (hstart : start.store.Settled) (h : Keeps name start site) :
    site.store.contentOf? name = start.store.contentOf? name := by
  induction h with
  | start => rfl
  | @answer site h remote now request hother ih =>
    rw [← ih]
    have hsettled := h.settled hstart
    rcases (site.facing remote).answer_cases now request hsettled with
      hsame | ⟨other, response, hresponse, hwrites, hentries⟩
    · unfold Store.contentOf? Store.find?
      rw [hsame]
      rfl
    · refine Store.contentOf?_of_filter hentries ?_
      rintro rfl
      exact hother response hresponse hwrites

end Keeps

/-! ## Reads -/

/-- Each way to read the source of a page gives the content. -/
structure ReadsContent (site : Site) (name content : Text) : Prop where
  raw : ∀ (now : Nat) (read : Request), read.method = "GET" →
    read.path = pagesHead ++ (name ++ "/raw") →
    (site.answer now read).2.response = .ok { status := 200, body := .plain content }
  source : ∀ (now : Nat) (read : Request), read.method = "GET" →
    read.path = '/' :: (name ++ ".txt") →
    (site.answer now read).2.response = .ok { status := 200, body := .plain content }
  unrendered : ∀ (now : Nat) (read : Request), read.method = "GET" →
    read.path = pagesHead ++ name → checkRender read = .ok false →
    HasField (site.answer now read).2.response "content" content

/-- Each way to read a page rendered gives the HTML. -/
structure ReadsHtml (site : Site) (name content html : Text) : Prop where
  page : ∀ (now : Nat) (read : Request), read.method = "GET" →
    read.path = pagesHead ++ name → checkRender read = .ok true →
    HasField (site.answer now read).2.response "rendered" html
  view : ∀ (now : Nat) (read : Request),
    route read.method read.path = .endpoint (.pageView name) →
    (site.answer now read).2.response = .ok (site.display 200 (.page name html))
  preview : ∀ (now : Nat) (read : Request), read.method = "POST" →
    read.path = "/api/v1/render" →
    checkBody read (.ok ()) checkPreview = .ok ((), content, name) →
    HasField (site.answer now read).2.response "html" html

theorem exists_entry (h : site.store.contentOf? name = some content) :
    ∃ entry : Entry, entry.name = name ∧ entry.content = content ∧
      site.store.find? entry.name = some entry := by
  obtain ⟨entry, hfind, hcontent⟩ := Option.map_eq_some_iff.mp h
  obtain rfl := Store.name_of_find? hfind
  exact ⟨entry, rfl, hcontent, hfind⟩

theorem readsContent_of_contentOf? (hname : name ≠ [] ∧ '/' ∉ name)
    (h : site.store.contentOf? name = some content) : site.ReadsContent name content := by
  obtain ⟨entry, rfl, rfl, hfind⟩ := exists_entry h
  constructor
  · intro now read hmethod hpath
    change (site.respond now read).response = _
    rw [respond_of_route (by rw [hmethod, hpath]; exact route_rawPage hname.1 hname.2)]
    unfold handle
    dsimp only
    rw [hfind]
    rfl
  · intro now read hmethod hpath
    change (site.respond now read).response = _
    rw [respond_of_route (by rw [hmethod, hpath]; exact route_sourceView hname.1 hname.2)]
    unfold handle
    dsimp only
    rw [hfind]
    rfl
  · intro now read hmethod hpath hrender
    refine ⟨_, ?_, content_entryJson entry none⟩
    change (site.respond now read).response = _
    rw [respond_of_route (by rw [hmethod, hpath]; exact route_getPage hname.1 hname.2)]
    unfold handle getPage
    dsimp only
    rw [hrender, hfind]
    rfl

theorem route_preview : route "POST" "/api/v1/render" = .endpoint .preview := by decide +kernel

theorem readsHtml_of_contentOf? (hname : name ≠ [] ∧ '/' ∉ name)
    (h : site.store.contentOf? name = some content)
    (hstopped : (Page.render (site.scope site.store) name content).stopped = none) :
    site.ReadsHtml name content (Page.render (site.scope site.store) name content).html := by
  obtain ⟨entry, rfl, rfl, hfind⟩ := exists_entry h
  constructor
  · intro now read hmethod hpath hrender
    refine ⟨_, ?_, rendered_entryJson entry _⟩
    change (site.respond now read).response = _
    rw [respond_of_route (by rw [hmethod, hpath]; exact route_getPage hname.1 hname.2)]
    unfold handle getPage
    dsimp only
    rw [hrender, hfind]
    dsimp only
    rw [if_pos rfl]
    exact response_rendering _ hstopped
  · intro now read hroute
    change (site.respond now read).response = _
    rw [respond_of_route hroute]
    unfold handle pageView
    dsimp only
    rw [hfind]
    exact response_rendering _ hstopped
  · intro now read hmethod hpath hchecked
    refine ⟨_, ?_, html_previewJson entry.name _⟩
    change (site.respond now read).response = _
    rw [respond_of_route (by rw [hmethod, hpath]; exact route_preview)]
    unfold handle preview
    dsimp only
    rw [hchecked]
    exact response_rendering _ hstopped

/-! ## What was written is what is read -/

/-- After a write that succeeds, and any requests of which none changes the page of that name, each
    way to read the source of the page gives the content that was written, whatever remote addresses
    reply. If the pages are still those that the write left and remote addresses reply as they did
    then, each way to render the page gives the HTML that the write gave. -/
theorem what_was_written_is_read (site later : Site) (remote : List (Text × Fetched)) (now : Nat)
    (request : Request) (response : Response) (name content : Text)
    (hresponse : ((site.facing remote).answer now request).2.response = .ok response)
    (hsaves : Saves (site.facing remote) request name content response.status)
    (hlater : Keeps name ((site.facing remote).answer now request).1 later) :
    (∀ remote', ReadsContent (later.facing remote') name content) ∧
    (later.store.entries = ((site.facing remote).answer now request).1.store.entries →
      (Page.render ((later.facing remote).scope later.store) name content).stopped = none →
      ∃ html, WritesHtml request (.ok response) html ∧
        ReadsHtml (later.facing remote) name content html) := by
  have hname := name_of_saves hresponse hsaves
  have hstore := store_of_saves hresponse hsaves
  have hcommit := store_of_response hresponse
  have hsaved :
      ((site.facing remote).answer now request).1.store.contentOf? name = some content := by
    rw [hcommit, hstore]
    exact (Store.contentOf?_save _ now name content name).trans (if_pos rfl)
  have hcontent : later.store.contentOf? name = some content := by
    rw [hlater.contentOf? (settled_answer _ now request), hsaved]
  refine ⟨fun remote' => readsContent_of_contentOf? hname hcontent, fun hentries hstopped => ?_⟩
  -- The pages, the replies and the base of links are the same, and so is what is rendered.
  have hscope : (later.facing remote).scope later.store =
      (site.facing remote).scope ((site.facing remote).store.save now name content).1 := by
    have hsettings : later.settings = site.settings := hlater.settings
    rw [hcommit, hstore] at hentries
    unfold scope facing Store.notebook
    rw [hsettings, hentries]
    rfl
  have hreads : ReadsHtml (later.facing remote) name content
      (Page.render ((later.facing remote).scope later.store) name content).html :=
    readsHtml_of_contentOf? hname hcontent hstopped
  rw [hscope] at hstopped hreads
  have hwrites := writesHtml_of_saves hresponse hsaves hstopped
  have hsession : ((site.facing remote).respond now request).response = .ok response := hresponse
  rw [hsession] at hwrites
  exact ⟨_, hwrites, hreads⟩

/-- A page saved by a form in parts. -/
def savingParts (content : Text) : Request where
  method := "POST"
  path := "/e/Home"
  headers := [("Content-Type", "multipart/form-data; boundary=part")]
  body := writeMarked "part" [("body", content)]

/-- The form saves its content whatever this is, as long as it is not too large and does not hold
    the mark between the parts. -/
theorem saves_savingParts {content : Text} {status : Nat}
    (hfits : FitsPart "\r\n--part" ("body", content)) (hstatus : status = 303 ∨ status = 200) :
    Saves (blank.facing []) (savingParts content) "Home" content status := by
  have hname : Text.asciiLower "Content-Type" = "content-type" := by decide
  have hfound : (savingParts content).headers.find?
      (fun entry => Text.asciiLower entry.1 = "content-type") =
        some (("Content-Type" : Text), ("multipart/form-data; boundary=part" : Text)) :=
    List.find?_cons_of_pos (decide_eq_true hname)
  have hheader : (savingParts content).header? "content-type" =
      some "multipart/form-data; boundary=part" := by
    unfold Request.header?
    rw [hfound]
    rfl
  have hform : (savingParts content).readForm = .ok [("body", .text content)] :=
    Request.readForm_of_parts hheader (by decide) (by decide) (by decide) (by decide)
      (by decide) rfl (List.forall_mem_singleton.mpr hfits) (show 1 ≤ maxFields by decide)
  exact .submit rfl rfl hform rfl hstatus

/-- A form in parts saves a page, and then the page is put in vain, since an address in it is
    refused. What is read is what the form saved. -/
theorem what_was_written_is_read_form :
    ∃ response later html,
      ((blank.facing []).answer 1 (savingParts "DONE it")).2.response = .ok response ∧
      Saves (blank.facing []) (savingParts "DONE it") "Home" "DONE it" response.status ∧
      Keeps "Home" ((blank.facing []).answer 1 (savingParts "DONE it")).1 later ∧
      (later.answer 3 { method := "GET", path := "/Home.txt" }).2.response =
        .ok { status := 200, body := .plain "DONE it" } ∧
      HasField ((later.facing []).answer 3
        { method := "GET", path := "/api/v1/pages/Home" }).2.response "rendered" html ∧
      ((later.facing []).answer 3 viewing).2.response =
        .ok (later.display 200 (.page "Home" html)) := by
  obtain ⟨response, hresponse, hstatus⟩ :
      ((blank.facing []).answer 1 (savingParts "DONE it")).2.HasStatus 303 :=
    hasStatus_of_toOption (by decide +kernel)
  have hfits : FitsPart "\r\n--part" ("body", "DONE it") :=
    ⟨by decide, by decide +kernel, by decide +kernel⟩
  have hsaves : Saves (blank.facing []) (savingParts "DONE it") "Home" "DONE it" response.status :=
    saves_savingParts hfits (Or.inl hstatus)
  have hrefused : ((((blank.facing []).answer 1 (savingParts "DONE it")).1.facing refusing).answer 2
      (puttingInclude "http://[")).2.response.isOk = false := by
    decide +kernel
  have hlater : Keeps "Home" ((blank.facing []).answer 1 (savingParts "DONE it")).1
      ((((blank.facing []).answer 1 (savingParts "DONE it")).1.facing refusing).answer 2
        (puttingInclude "http://[")).1 := by
    refine .answer .start refusing 2 _ fun other hother => ?_
    rw [hother] at hrefused
    cases hrefused
  obtain ⟨hcontent, hhtml⟩ := what_was_written_is_read blank _ [] 1 _ response "Home" "DONE it"
    hresponse hsaves hlater
  obtain ⟨html, -, hreads⟩ := hhtml (by decide +kernel) (by decide +kernel)
  exact ⟨response, _, html, hresponse, hsaves, hlater, (hcontent _).source 3 _ rfl rfl,
    hreads.page 3 _ rfl rfl (eq_ok_of_toOption (by decide +kernel)),
    hreads.view 3 _ (by decide +kernel)⟩

end Taskbook.Site
