/-
  Answers that show a rendered page.

  A page is rendered to its end exactly if requests can be sent to all addresses that its
  collecting lines ask for (`render_stopped_iff`), and then there is an answer
  (`hasStatus_rendering_iff`); whatever else comes of the requests, the page is shown. So a page
  that is put is stored (`put_iff`), and a page that is stored is shown (`show_iff`), unless an
  address is refused.
-/
import Taskbook.Proofs.Include.Refusal
import Taskbook.Proofs.Site.Session

namespace Taskbook

/-! ## Pages -/

namespace Page

theorem replaceTasks_stopped_iff (scope : Scope) (name : Text) (lines : List Text) :
    (replaceTasks scope name lines).stopped = none ↔
      Sendable scope.web.reply (replaceTasks scope name lines).requested := by
  induction lines with
  | nil => exact iff_of_true rfl sendable_nil
  | cons line rest ih =>
    unfold replaceTasks
    split
    · exact ih
    · next task _ =>
      split
      · dsimp only
        have hresolve := scope.resolve_stopped_iff task
          (if task.tags.get? "recursive" = some "true" then some [pageOrigin name] else none)
        split
        · next fault hstopped =>
          rw [hstopped] at hresolve
          exact hresolve
        · next hstopped =>
          rw [sendable_append, and_iff_right (hresolve.mp hstopped)]
          exact ih
      · exact ih

theorem render_stopped_iff (scope : Scope) (name content : Text) :
    (render scope name content).stopped = none ↔
      Sendable scope.web.reply (render scope name content).requested :=
  replaceTasks_stopped_iff scope name _

end Page

namespace Site

open Http

variable {site : Site} {now : Nat} {request : Request}

/-- There is a response, and it has the status. -/
def Answer.HasStatus (answer : Answer) (status : Nat) : Prop :=
  ∃ response, answer.response = .ok response ∧ response.status = status

theorem hasStatus_of_toOption {answer : Answer} {status : Nat}
    (h : answer.response.toOption.map (·.status) = some status) : answer.HasStatus status := by
  cases hresponse : answer.response with
  | error fault =>
    rw [hresponse] at h
    cases h
  | ok response =>
    rw [hresponse] at h
    exact ⟨response, hresponse, Option.some.inj h⟩

/-! ## Answers -/

theorem status_notFound (path : Text) : (site.notFound path).status = 404 := by
  unfold notFound
  dsimp only
  split <;> rfl

/-- Where each response would have the status, there is one exactly if no address is refused that
    the page asks for. -/
theorem hasStatus_rendering_iff {store : Store} {name content : Text} {respond : Text → Response}
    {status : Nat} (hstatus : ∀ html, (respond html).status = status) :
    (site.rendering store name content respond).HasStatus status ↔
      Sendable (Web.ofFetched site.remote).reply
        (site.rendering store name content respond).requested := by
  have hrender := Page.render_stopped_iff (site.scope store) name content
  unfold rendering
  dsimp only
  cases hstopped : (Page.render (site.scope store) name content).stopped with
  | none => exact iff_of_true ⟨_, rfl, hstatus _⟩ (hrender.mp hstopped)
  | some fault =>
    refine iff_of_false (fun ⟨response, hresponse, _⟩ => nomatch hresponse) fun hsent => ?_
    rw [hrender.mpr hsent] at hstopped
    cases hstopped

/-! ## Requests -/

theorem respond_of_route {endpoint : Endpoint}
    (h : route request.method request.path = .endpoint endpoint) :
    site.respond now request = site.handle now request endpoint := by
  unfold respond
  rw [h]

/-- A page that is put is saved, and rendered in the store after that. -/
theorem respond_put (site : Site) (now : Nat) {name content : Text}
    (hmethod : request.method = "PUT") (hpath : request.path = pagesHead ++ name)
    (hchecked : checkBody request (checkName ["path", "name"] name) checkSave =
      .ok (name, content)) :
    ∃ entry : Entry, site.respond now request =
      site.rendering (site.store.save now name content).1 name content fun html =>
        { status := 200, body := .json (entryJson entry (some html)) } := by
  obtain ⟨-, hwell⟩ := eq_of_checkName (eq_ok_of_checkBody hchecked)
  obtain ⟨hne, hslash⟩ := PageName.slash_not_mem_of_wellFormed hwell
  have hroute : route request.method request.path = .endpoint (.putPage name) := by
    rw [hmethod, hpath]
    exact route_putPage hne hslash
  have hname : (site.store.save now name content).2.name = name :=
    Store.name_of_find? (Store.find?_save site.store now name content)
  refine ⟨(site.store.save now name content).2, ?_⟩
  rw [respond_of_route hroute]
  unfold handle putPage
  dsimp only
  rw [hchecked]
  dsimp only
  rw [hname, Store.content_save]

/-- A page that is put is stored and answered exactly if no address is refused. -/
theorem put_iff (site : Site) (now : Nat) {name content : Text} (hmethod : request.method = "PUT")
    (hpath : request.path = pagesHead ++ name)
    (hchecked : checkBody request (checkName ["path", "name"] name) checkSave =
      .ok (name, content)) :
    (site.answer now request).2.HasStatus 200 ∧
        ((site.answer now request).1.store.find? name).map (·.content) = some content ↔
      Sendable (Web.ofFetched site.remote).reply (site.answer now request).2.requested := by
  obtain ⟨entry, hrespond⟩ := respond_put site now hmethod hpath hchecked
  change (site.respond now request).HasStatus 200 ∧ _ ↔
    Sendable _ (site.respond now request).requested
  have hstatus (html : Text) :
      ({ status := 200, body := .json (entryJson entry (some html)) } : Response).status = 200 := rfl
  rw [hrespond, hasStatus_rendering_iff hstatus, and_iff_left_iff_imp]
  intro hsent
  obtain ⟨response, hresponse, -⟩ := (hasStatus_rendering_iff hstatus).mpr hsent
  rw [store_of_response (hrespond ▸ hresponse), hrespond]
  change ((site.store.save now name content).1.find? name).map (·.content) = some content
  rw [Store.find?_save, Option.map_some, Store.content_save]

/-- A request that asks for a page, at the API or as a browser does. -/
inductive Shows (request : Request) (name : Text) : Prop where
  | api {wanted : Bool} (hmethod : request.method = "GET") (hpath : request.path = pagesHead ++ name)
      (hname : PageName.accepted name = true) (hrender : checkRender request = .ok wanted)
  | view (hroute : route request.method request.path = .endpoint (.pageView name))

/-- A page that is there is shown exactly if no address is refused. -/
theorem show_iff (site : Site) (now : Nat) {entry : Entry}
    (hfind : site.store.find? entry.name = some entry) (hshows : Shows request entry.name) :
    (site.answer now request).2.HasStatus 200 ↔
      Sendable (Web.ofFetched site.remote).reply (site.answer now request).2.requested := by
  change (site.respond now request).HasStatus 200 ↔
    Sendable _ (site.respond now request).requested
  cases hshows with
  | @api wanted hmethod hpath hname hrender =>
    obtain ⟨hne, hslash⟩ := PageName.slash_not_mem_of_accepted hname
    have hroute : route request.method request.path = .endpoint (.getPage entry.name) := by
      rw [hmethod, hpath]
      exact route_getPage hne hslash
    rw [respond_of_route hroute]
    unfold handle getPage
    dsimp only
    rw [hrender, hfind]
    dsimp only
    cases wanted with
    | true =>
      rw [if_pos rfl]
      exact hasStatus_rendering_iff fun _ => rfl
    | false => exact iff_of_true ⟨_, rfl, rfl⟩ sendable_nil
  | view hroute =>
    rw [respond_of_route hroute]
    unfold handle pageView
    dsimp only
    rw [hfind]
    exact hasStatus_rendering_iff fun _ => rfl

/-- A collecting line leads to a task list, a page that is put is stored, and a page that is there
    is shown, unless one of the addresses asked for on the way is refused. A request that fails in
    any other way leaves only its error, and none is refused but by the table or because nothing
    can be sent to its address. -/
theorem only_refused_addresses_stop (scope : Scope) (task : Task) (visited : Option (List Text))
    (site : Site) (now : Nat) (request : Request) :
    ((scope.resolve task visited).stopped = none ↔
      Sendable scope.web.reply (scope.resolve task visited).requested) ∧
    (∀ url, task.address? = some url → scope.web.reply url = .failure →
      (scope.resolve task visited).stopped = none ∧
      (scope.resolve task visited).listing =
        { head := task, error := some ("could not fetch " ++ url) }) ∧
    (∀ name content, request.method = "PUT" → request.path = pagesHead ++ name →
      checkBody request (checkName ["path", "name"] name) checkSave = .ok (name, content) →
      ((site.answer now request).2.HasStatus 200 ∧
          ((site.answer now request).1.store.find? name).map (·.content) = some content ↔
        Sendable (Web.ofFetched site.remote).reply (site.answer now request).2.requested)) ∧
    (∀ entry : Entry, site.store.find? entry.name = some entry → Shows request entry.name →
      ((site.answer now request).2.HasStatus 200 ↔
        Sendable (Web.ofFetched site.remote).reply (site.answer now request).2.requested)) ∧
    ∀ url fault, (Web.ofFetched site.remote).reply url = .invalidAddress fault →
      (url, .invalidAddress) ∈ site.remote ∨ AddressFault.of? url = some fault := by
  refine ⟨scope.resolve_stopped_iff task visited, ?_, fun _ _ => put_iff site now,
    fun _ => show_iff site now, fun _ _ => Web.refused_of_reply_ofFetched⟩
  intro url haddress hreply
  rw [scope.resolve_of_failure task visited haddress hreply]
  exact ⟨rfl, rfl⟩

/-- An address that gives no response. -/
def failing : List (Text × Fetched) := [("http://gone", .noResponse "connection refused")]

theorem only_refused_addresses_stop_failing :
    ((blank.facing failing).answer 1 (puttingInclude "http://gone")).2.requested =
        (["http://gone"] : List Text) ∧
      ((blank.facing failing).answer 1 (puttingInclude "http://gone")).2.HasStatus 200 ∧
      (((blank.facing failing).answer 1 (puttingInclude "http://gone")).1.store.find? "Home").map
        (·.content) = some "INCLUDE http://gone" := by
  have hchecked : checkBody (puttingInclude "http://gone") (checkName ["path", "name"] "Home")
      checkSave = .ok ("Home", "INCLUDE http://gone") :=
    eq_ok_of_toOption (by decide +kernel)
  have hrequested : ((blank.facing failing).answer 1 (puttingInclude "http://gone")).2.requested =
      (["http://gone"] : List Text) := by
    decide +kernel
  have hstored := (only_refused_addresses_stop ((blank.facing failing).scope {})
    { keyword := .collect, description := "http://gone" } none (blank.facing failing) 1
    (puttingInclude "http://gone")).2.2.1 "Home" _ rfl rfl hchecked
  refine ⟨hrequested, hstored.mpr ?_⟩
  rw [hrequested]
  intro url hurl fault
  obtain rfl := List.mem_singleton.mp hurl
  have hreply : (Web.ofFetched failing).reply "http://gone" = .failure := by decide +kernel
  change (Web.ofFetched failing).reply "http://gone" ≠ _
  rw [hreply]
  nofun

/-- A browser asks for the page. -/
def viewing : Request where
  method := "GET"
  path := "/Home"

/-- An address that is refused takes down what includes it: the line has no task list, the page is
    not stored although it passes all checks, and once it is stored, it is not shown. -/
theorem refused_address_takes_page_down :
    (((blank.facing refusing).scope {}).resolve
        { keyword := .collect, description := "http://[" } none).stopped.isSome = true ∧
      checkBody (puttingInclude "http://[") (checkName ["path", "name"] "Home") checkSave =
        .ok ("Home", "INCLUDE http://[") ∧
      ((blank.facing refusing).answer 1 (puttingInclude "http://[")).2.response.isOk = false ∧
      ((blank.facing refusing).answer 1 (puttingInclude "http://[")).1.store.entries = [] ∧
      ((blank.answer 1 (savingForm "INCLUDE+http://[")).1.store.find? "Home").isSome = true ∧
      (((blank.answer 1 (savingForm "INCLUDE+http://[")).1.facing refusing).answer 2
        viewing).2.response.isOk = false := by
  refine ⟨?_, eq_ok_of_toOption ?_, ?_, ?_, ?_, ?_⟩
  all_goals decide +kernel

end Site

end Taskbook
