/-
  What a request does to the pages.

  An endpoint leaves the store alone, or changes the page of one name in its session and says so
  by the status of its answer (`handle_cases`); only three routes lead to such endpoints
  (`writes_of_route`). The end of the session commits what was done if there is an answer and
  throws it away if there is none, so between two requests a session sees just what was committed
  (`Reached.settled`).
-/
import Taskbook.Proofs.Site.Check
import Taskbook.Proofs.Site.Route
import Taskbook.Proofs.Store.Change
import Taskbook.Site.Answer

namespace Taskbook.Site

open Http

variable {site : Site} {now : Nat} {request : Request}

/-! ## Endpoints -/

/-- The page that an endpoint may change, and the statuses of its answer if it does. -/
def Endpoint.written? : Endpoint → Option (Text × List Nat)
  | .putPage name => some (name, [200])
  | .submit name => some (name, [303, 200])
  | .deletePage name => some (name, [200])
  | _ => none

/-- The answer changes at most the page of a name, and if there is a response, it has one of the
    statuses. -/
structure Answer.Writes (site : Site) (name : Text) (statuses : List Nat) (answer : Answer) :
    Prop where
  agrees : site.store.AgreesBut name answer.store
  status : ∀ response, answer.response = .ok response → response.status ∈ statuses

theorem exists_html_of_rendering {store : Store} {name content : Text} {respond : Text → Response}
    {response : Response} (h : (site.rendering store name content respond).response = .ok response) :
    ∃ html, response = respond html := by
  unfold rendering at h
  dsimp only at h
  cases hstopped : (Page.render (site.scope store) name content).stopped with
  | none =>
    rw [hstopped] at h
    exact ⟨_, (Except.ok.inj h).symm⟩
  | some fault =>
    rw [hstopped] at h
    cases h

theorem getPage_store (name : Text) : (site.getPage request name).store = site.store := by
  unfold getPage
  split
  · rfl
  · split
    · rfl
    · split <;> rfl

theorem preview_store : (site.preview request).store = site.store := by
  unfold preview
  split <;> rfl

theorem editView_store (path name : Text) : (site.editView path name).store = site.store := by
  unfold editView
  split <;> rfl

theorem pageView_store (name : Text) : (site.pageView name).store = site.store := by
  unfold pageView
  split <;> rfl

theorem putPage_cases (name : Text) :
    (site.putPage now request name).store = site.store ∨
      (site.putPage now request name).Writes site name [200] := by
  unfold putPage
  split
  · exact Or.inl rfl
  · next name' content hchecked =>
    obtain ⟨rfl, -⟩ := eq_of_checkName (eq_ok_of_checkBody hchecked)
    refine Or.inr ⟨site.store.agreesBut_save now name' content, fun response hresponse => ?_⟩
    obtain ⟨html, rfl⟩ := exists_html_of_rendering hresponse
    exact List.mem_singleton_self _

theorem deletePage_cases (name : Text) :
    (site.deletePage name).store = site.store ∨
      (site.deletePage name).Writes site name [200] := by
  unfold deletePage
  split
  · exact Or.inl rfl
  · next later hremoved =>
    refine Or.inr ⟨Store.agreesBut_of_remove? hremoved, fun response hresponse => ?_⟩
    obtain rfl := Except.ok.inj hresponse
    exact List.mem_singleton_self _

theorem submit_cases (name : Text) :
    (site.submit now request name).store = site.store ∨
      (site.submit now request name).Writes site name [303, 200] := by
  unfold submit
  split
  · exact Or.inl rfl
  · next content _ =>
    split
    · have hagrees := site.store.agreesBut_save now name content
      dsimp only
      split
      · refine Or.inr ⟨hagrees, fun response hresponse => ?_⟩
        obtain ⟨html, rfl⟩ := exists_html_of_rendering hresponse
        exact List.mem_cons_of_mem _ (List.mem_singleton_self _)
      · refine Or.inr ⟨hagrees, fun response hresponse => ?_⟩
        obtain rfl := Except.ok.inj hresponse
        exact List.mem_cons_self
    · exact Or.inl rfl

/-- An endpoint that may not change a page leaves the store as it is. -/
theorem handle_cases (endpoint : Endpoint) :
    (site.handle now request endpoint).store = site.store ∨
      ∃ name statuses, endpoint.written? = some (name, statuses) ∧
        (site.handle now request endpoint).Writes site name statuses := by
  cases endpoint with
  | putPage name => exact (putPage_cases name).imp_right fun h => ⟨name, _, rfl, h⟩
  | deletePage name => exact (deletePage_cases name).imp_right fun h => ⟨name, _, rfl, h⟩
  | submit name => exact (submit_cases name).imp_right fun h => ⟨name, _, rfl, h⟩
  | getPage name => exact Or.inl (getPage_store name)
  | preview => exact Or.inl preview_store
  | editView name => exact Or.inl (editView_store _ name)
  | pageView name => exact Or.inl (pageView_store name)
  | _ => exact Or.inl rfl

/-! ## Requests -/

/-- A request that may change the page of a name, and the status of its answer if it does. -/
inductive Writes (request : Request) : Text → Nat → Prop where
  | put {name : Text} (hmethod : request.method = "PUT")
      (hpath : request.path = pagesHead ++ name) : Writes request name 200
  | submit {name : Text} {status : Nat} (hmethod : request.method = "POST")
      (hpath : request.path = "/e/" ++ name) (hstatus : status = 303 ∨ status = 200) :
      Writes request name status
  | delete {name : Text} (hmethod : request.method = "DELETE")
      (hpath : request.path = pagesHead ++ name) : Writes request name 200

theorem writes_of_route {endpoint : Endpoint} {name : Text} {statuses : List Nat} {status : Nat}
    (h : route request.method request.path = .endpoint endpoint)
    (hwritten : endpoint.written? = some (name, statuses)) (hstatus : status ∈ statuses) :
    Writes request name status := by
  obtain ⟨found, hfound, hmethod, hfits⟩ := exists_route h
  rcases List.mem_append.mp hfound with hfound | hfound
  · simp only [documentRoutes, List.mem_cons, List.not_mem_nil, or_false] at hfound
    obtain rfl | rfl | rfl | rfl := hfound <;>
    · obtain rfl := eq_of_endpoint?_fixed hfits
      cases hwritten
  simp only [pageRoutes, List.mem_cons, List.not_mem_nil, or_false] at hfound
  -- Of the thirteen routes, three lead to endpoints that may change a page.
  obtain rfl | rfl | rfl | rfl | rfl | rfl | rfl | rfl | rfl | rfl | rfl | rfl | rfl := hfound <;>
    first
    | obtain rfl := eq_of_endpoint?_fixed hfits
      cases hwritten
    | obtain ⟨_, hname, rfl⟩ := Option.map_eq_some_iff.mp hfits
      cases hwritten
  · obtain rfl := List.mem_singleton.mp hstatus
    exact .put (List.mem_singleton.mp hmethod) (lastName?_eq_some_iff.mp hname).1
  · obtain rfl := List.mem_singleton.mp hstatus
    exact .delete (List.mem_singleton.mp hmethod) (lastName?_eq_some_iff.mp hname).1
  · have hstatus : status = 303 ∨ status = 200 := by simpa using hstatus
    exact .submit (List.mem_singleton.mp hmethod) (lastName?_eq_some_iff.mp hname).1 hstatus

/-- The answer to a request, before the session ends, changes at most one page, and says so by its
    status. -/
theorem respond_cases (site : Site) (now : Nat) (request : Request) :
    (site.respond now request).store = site.store ∨
      ∃ name, site.store.AgreesBut name (site.respond now request).store ∧
        ∀ response, (site.respond now request).response = .ok response →
          Writes request name response.status := by
  unfold respond
  split
  · next endpoint hroute =>
    refine (handle_cases endpoint).imp_right ?_
    rintro ⟨name, statuses, hwritten, hagrees, hstatus⟩
    exact ⟨name, hagrees, fun response hresponse =>
      writes_of_route hroute hwritten (hstatus response hresponse)⟩
  all_goals exact Or.inl rfl

/-! ## Sessions -/

theorem settled_answer (site : Site) (now : Nat) (request : Request) :
    (site.answer now request).1.store.Settled := by
  unfold answer
  dsimp only
  split
  · exact Store.settled_commit _
  · exact Store.settled_rollback _

theorem store_of_response {response : Response}
    (h : (site.respond now request).response = .ok response) :
    (site.answer now request).1.store = (site.respond now request).store.commit := by
  unfold answer
  dsimp only
  rw [h]
  rfl

/-- Without an answer the session is thrown away. -/
theorem store_of_no_response {fault : AddressFault}
    (h : (site.respond now request).response = .error fault) :
    (site.answer now request).1.store = (site.respond now request).store.rollback := by
  unfold answer
  dsimp only
  rw [h]
  rfl

/-- The pages are as they were, or the answer says that of one name was written. -/
theorem answer_cases (now : Nat) (request : Request) (hsettled : site.store.Settled) :
    (site.answer now request).1.store.entries = site.store.entries ∨
      ∃ name response, (site.answer now request).2.response = .ok response ∧
        Writes request name response.status ∧
        (site.answer now request).1.store.entries.filter (·.name ≠ name) =
          site.store.entries.filter (·.name ≠ name) := by
  have hrespond := respond_cases site now request
  cases hresponse : (site.respond now request).response with
  | error fault =>
    rw [store_of_no_response hresponse]
    change (site.respond now request).store.committed = site.store.entries ∨ _
    rcases hrespond with hsame | ⟨name, hagrees, -⟩
    · exact Or.inl (by rw [hsame, hsettled])
    · exact Or.inl (by rw [hagrees.committed, hsettled])
  | ok response =>
    rw [store_of_response hresponse]
    change (site.respond now request).store.entries = site.store.entries ∨ _
    rcases hrespond with hsame | ⟨name, hagrees, hwrites⟩
    · exact Or.inl (by rw [hsame])
    · exact Or.inr ⟨name, response, hresponse, hwrites response hresponse, hagrees.others⟩

/-- The wiki at a time when requests for remote texts give what a table lists. -/
def facing (site : Site) (remote : List (Text × Fetched)) : Site := { site with remote }

/-- The wikis that requests lead to, one after another, each with a session of its own. What
    remote addresses reply may be different at each. -/
inductive Reached (start : Site) : Site → Prop where
  | start : Reached start start
  | answer {site : Site} (h : Reached start site) (remote : List (Text × Fetched)) (now : Nat)
      (request : Request) : Reached start ((site.facing remote).answer now request).1

theorem Reached.settled {start : Site} (hstart : start.store.Settled) (h : Reached start site) :
    site.store.Settled := by
  cases h with
  | start => exact hstart
  | answer h remote now request => exact settled_answer _ now request

theorem Writes.method_ne_get {name : Text} {status : Nat} (h : Writes request name status) :
    request.method ≠ "GET" := by
  cases h with
  | put hmethod _ => rw [hmethod]; decide
  | submit hmethod _ _ => rw [hmethod]; decide
  | delete hmethod _ => rw [hmethod]; decide

theorem Writes.not_render {name : Text} {status : Nat} (h : Writes request name status) :
    Text.startsWith request.path "/api/v1/render" = false := by
  cases h with
  | put _ hpath => rw [hpath]; rfl
  | submit _ hpath _ => rw [hpath]; rfl
  | delete _ hpath => rw [hpath]; rfl

theorem Writes.status_mem {name : Text} {status : Nat} (h : Writes request name status) :
    status ∈ [200, 303] := by
  cases h with
  | put _ _ => decide
  | submit _ _ hstatus => obtain rfl | rfl := hstatus <;> decide
  | delete _ _ => decide

/-- On a wiki that any requests led to, the next request changes no page but the one that it puts,
    submits or deletes by name, and this only with an answer that says so. A request to get
    something, a preview, an answer with any other status, or none because a page could not be
    rendered, leaves every page as it was. With an answer all that was done in the session is
    committed, and no work is left over for the next session. -/
theorem requests_change_only_what_they_name (start site : Site) (hstart : start.store.Settled)
    (hsite : start.Reached site) (remote : List (Text × Fetched)) (now : Nat) (request : Request)
    (after : Site) (answer : Answer)
    (hanswer : (site.facing remote).answer now request = (after, answer)) :
    (after.store.entries = site.store.entries ∨
      ∃ name response, answer.response = .ok response ∧ Writes request name response.status ∧
        after.store.entries.filter (·.name ≠ name) = site.store.entries.filter (·.name ≠ name)) ∧
    (request.method = "GET" ∨ Text.startsWith request.path "/api/v1/render" = true ∨
        (∀ response, answer.response = .ok response → response.status ∉ [200, 303]) →
      after.store.entries = site.store.entries) ∧
    (∀ response, answer.response = .ok response →
      after.store.entries = ((site.facing remote).respond now request).store.entries) ∧
    after.store.committed = after.store.entries := by
  have hsettled : site.store.Settled := hsite.settled hstart
  have hcases := (site.facing remote).answer_cases now request hsettled
  have hcommitted := settled_answer (site.facing remote) now request
  rw [hanswer] at hcases hcommitted
  refine ⟨hcases, fun hidle => ?_, fun response hresponse => ?_, hcommitted.symm⟩
  · rcases hcases with hsame | ⟨name, response, hresponse, hwrites, -⟩
    · exact hsame
    · rcases hidle with hget | hrender | hstatus
      · exact absurd hget hwrites.method_ne_get
      · rw [hwrites.not_render] at hrender
        cases hrender
      · exact absurd hwrites.status_mem (hstatus response hresponse)
  · have hsession : ((site.facing remote).respond now request).response = .ok response :=
      (congrArg (fun outcome => outcome.2.response) hanswer).trans hresponse
    have hstore := store_of_response hsession
    rw [hanswer] at hstore
    rw [hstore]
    rfl

/-- An empty wiki. -/
def blank : Site where
  settings := {}

/-- A form that saves a page; the content is given as it is written in the form. -/
def savingForm (content : Text) : Request where
  method := "POST"
  path := "/e/Home"
  headers := [("Content-Type", "application/x-www-form-urlencoded")]
  body := "body=" ++ content

/-- A page put at the API that includes an address. -/
def puttingInclude (url : Text) : Request where
  method := "PUT"
  path := "/api/v1/pages/Home"
  headers := [("Content-Type", "application/json")]
  body := "\x7b\"content\": \"INCLUDE " ++ url ++ "\"\x7d"

/-- The address is refused. -/
def refusing : List (Text × Fetched) := [("http://[", .invalidAddress)]

/-- A form saves a page, and then the page is put whose rendering breaks off after it was saved in
    the session. The wiki still has what the form saved. -/
theorem requests_change_only_what_they_name_refused :
    ∃ site after answer, blank.Reached site ∧
      (site.facing refusing).answer 2 (puttingInclude "http://[") = (after, answer) ∧
      answer.response.isOk = false ∧
      site.store.entries.map (·.content) = (["DONE it"] : List Text) ∧
      after.store.entries = site.store.entries := by
  have hsite : blank.Reached (blank.answer 1 (savingForm "DONE+it")).1 :=
    .answer .start [] 1 (savingForm "DONE+it")
  have hcontent : (blank.answer 1 (savingForm "DONE+it")).1.store.entries.map (·.content) =
      (["DONE it"] : List Text) := by
    decide +kernel
  have hnone : (((blank.answer 1 (savingForm "DONE+it")).1.facing refusing).answer 2
      (puttingInclude "http://[")).2.response.isOk = false := by
    decide +kernel
  generalize (blank.answer 1 (savingForm "DONE+it")).1 = site at hsite hcontent hnone
  obtain ⟨after, answer, hanswer⟩ :
      ∃ after answer,
        (site.facing refusing).answer 2 (puttingInclude "http://[") = (after, answer) :=
    ⟨_, _, rfl⟩
  rw [hanswer] at hnone
  have hkept := (requests_change_only_what_they_name blank site rfl hsite refusing 2
    (puttingInclude "http://[") after answer hanswer).2.1
  refine ⟨site, after, answer, hsite, hanswer, hnone, hcontent, hkept (Or.inr (Or.inr ?_))⟩
  intro response hresponse
  rw [hresponse] at hnone
  cases hnone

end Taskbook.Site
