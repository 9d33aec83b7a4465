/-
  Pages at their addresses. A name that passes a check has no character with a meaning in addresses,
  so the path that is asked for is the name itself, whichever characters were percent coded
  (`Gets.path_eq`). Its view and its form are reached by it (`Passes.route_pageView`,
  `route_editView`), but for the names that the path of the list of all pages stands for
  (`Shadowed`). So a page that comes about is shown and edited at its address, and a form that was
  sent leads back to its page, unless its name is shadowed or is one that the forms do not take.
-/
import Taskbook.Proofs.Site.Entrance
import Taskbook.Proofs.Site.Reading
import Taskbook.Proofs.Text.Percent

namespace Taskbook.Site

open Http

variable {site : Site} {now : Nat} {request : Request} {response : Response}
  {name content : Text}

/-! ## Names in addresses -/

/-- What a name that passes a check is made of. -/
theorem Passes.word_or_newline (h : Passes name) {c : Char} (hc : c ∈ name) :
    isIdentifier c = true ∨ isWord c = true ∨ c = '-' ∨ c = '\n' := by
  rcases h with ⟨⟨-, hall⟩, -⟩ | ⟨stem, ⟨-, hall⟩, hname⟩
  · rcases hall c hc with hidentifier | hhyphen
    · exact Or.inl hidentifier
    · exact Or.inr (Or.inr (Or.inl hhyphen))
  · have hstem : c ∈ stem ∨ c = '\n' := by
      rcases hname with rfl | rfl
      · exact Or.inl hc
      · simpa using hc
    rcases hstem with hmem | hfeed
    · rcases hall c hmem with hword | hhyphen
      · exact Or.inr (Or.inl hword)
      · exact Or.inr (Or.inr (Or.inl hhyphen))
    · exact Or.inr (Or.inr (Or.inr hfeed))

/-- The characters that have a meaning in addresses. -/
def addressMarks : Text := "%?#/."

theorem Passes.notMem (h : Passes name) {c : Char} (hc : c ∈ addressMarks) : c ∉ name := by
  have hmarks : addressMarks.all
      (fun c => ¬ (isIdentifier c = true ∨ isWord c = true ∨ c = '-' ∨ c = '\n')) = true := by
    decide +kernel
  have hmark := of_decide_eq_true (List.all_eq_true.mp hmarks c hc)
  exact fun hmem => hmark (h.word_or_newline hmem)

theorem Passes.ne_nil (h : Passes name) : name ≠ [] ∧ name ≠ ['\n'] := by
  rcases h with ⟨⟨hne, hall⟩, -⟩ | ⟨stem, ⟨hne, hall⟩, hname⟩
  · refine ⟨hne, ?_⟩
    rintro rfl
    exact absurd (hall '\n' (List.mem_singleton_self _)) (by decide +kernel)
  · refine ⟨?_, ?_⟩
    · rintro rfl
      rcases hname with hname | hname
      · exact hne hname.symm
      · simp at hname
    · rintro rfl
      rcases hname with rfl | hname
      · exact absurd (hall '\n' (List.mem_singleton_self _)) (by decide +kernel)
      · exact hne (List.append_cancel_right (hname.symm.trans (List.nil_append _).symm))

/-- A request to get what is at an address on the wiki. Its path goes up to the first mark of a
    query or a fragment, and is percent decoded. -/
structure Gets (request : Request) (address : Text) : Prop where
  method : request.method = "GET"
  path : request.path = Target.askedPath (address.takeWhile fun c => c ≠ '?' && c ≠ '#')

/-- The path is the name with what stands in front of it. -/
theorem Gets.path_eq {head : Text} {keep : Char → Bool}
    (h : Gets request (head ++ Text.percentEncode keep name)) (hname : Passes name)
    (hne : head ≠ []) (hhead : head.all (· ∉ ("%?#" : Text)) = true) :
    request.path = head ++ name := by
  have hplainHead : ∀ c ∈ head, c ∉ ("%?#" : Text) := fun c hc =>
    of_decide_eq_true (List.all_eq_true.mp hhead c hc)
  have hpercent : '%' ∉ head := fun hmem => hplainHead '%' hmem (by decide)
  have hkept : ∀ c ∈ head ++ Text.percentEncode keep name, (c ≠ '?' && c ≠ '#') = true := by
    intro c hc
    have hplain : c ≠ '?' ∧ c ≠ '#' := by
      rcases List.mem_append.mp hc with hc | hc
      · have hnot := hplainHead c hc
        constructor <;> rintro rfl <;> exact hnot (by decide)
      · rcases Text.of_mem_percentEncode hc with ⟨hmem, -⟩ | rfl | halnum
        · constructor <;> rintro rfl <;> exact hname.notMem (by decide) hmem
        · decide
        · constructor <;> rintro rfl <;> exact absurd halnum (by decide)
    simpa using hplain
  have hfull : (head ++ Text.percentEncode keep name).takeWhile (fun c => c ≠ '?' && c ≠ '#') =
      head ++ Text.percentEncode keep name :=
    List.takeWhile_eq_self_iff.mpr hkept
  rw [h.path, hfull, Target.askedPath, if_neg (List.append_ne_nil_of_left_ne_nil hne _)]
  exact Text.percentDecode_append hpercent fun _ => hname.notMem (by decide)

/-! ## Views and forms -/

/-- A name that the path of the list of all pages stands for. -/
def Shadowed (name : Text) : Prop := name = "_list" ∨ name = "_list\n"

instance (name : Text) : Decidable (Shadowed name) := inferInstanceAs (Decidable (_ ∨ _))

theorem route_listView (h : Shadowed name) : route "GET" ('/' :: name) = .endpoint .listView := by
  rcases h with rfl | rfl
  · decide +kernel
  · decide +kernel

theorem Passes.route_pageView (hname : Passes name) (hshown : ¬ Shadowed name) :
    route "GET" ('/' :: name) = .endpoint (.pageView name) := by
  obtain ⟨hnil, hfeed⟩ := hname.ne_nil
  have hhome : Avoids ('/' :: name) "/" :=
    ⟨fun heq => hnil (List.cons.inj heq).2, fun heq => hfeed (List.cons.inj heq).2⟩
  have hlist : Avoids ('/' :: name) "/_list" :=
    ⟨fun heq => hshown (Or.inl (List.cons.inj heq).2),
      fun heq => hshown (Or.inr (List.cons.inj heq).2)⟩
  exact Site.route_pageView hnil (hname.notMem (by decide)) (hname.notMem (by decide)) hhome hlist

/-! ## What is at an address -/

/-- What is got at the address of a page: the page as it is rendered, if that does not break off, or
    the list of all pages where the name is shadowed. -/
structure ShowsPage (site : Site) (name content : Text) (answer : Answer) : Prop where
  page : ¬ Shadowed name →
    (Page.render (site.scope site.store) name content).stopped = none →
    answer.response = .ok (site.display 200
      (.page name (Page.render (site.scope site.store) name content).html))
  list : Shadowed name →
    answer.response = .ok (site.display 200 (.list (site.store.listing.map Entry.name)))

theorem showsPage_of_path (hname : Passes name) (h : site.store.contentOf? name = some content)
    (now : Nat) (hmethod : request.method = "GET") (hpath : request.path = '/' :: name) :
    ShowsPage site name content (site.answer now request).2 := by
  have hslash : '/' ∉ name := hname.notMem (by decide)
  refine ⟨fun hshown hstopped => ?_, fun hshadowed => ?_⟩
  · have hroute : route request.method request.path = .endpoint (.pageView name) := by
      rw [hmethod, hpath]
      exact hname.route_pageView hshown
    exact (readsHtml_of_contentOf? ⟨hname.ne_nil.1, hslash⟩ h hstopped).view now request hroute
  · have hroute : route request.method request.path = .endpoint .listView := by
      rw [hmethod, hpath]
      exact route_listView hshadowed
    show (site.respond now request).response = _
    rw [respond_of_route hroute]
    rfl

/-- The form of a page is got with its content, if its name is one that the forms take. -/
theorem editor_of_path (hname : Passes name) (h : site.store.contentOf? name = some content)
    (now : Nat) (hmethod : request.method = "GET") (hpath : request.path = "/e/" ++ name) :
    (PageName.FitsForms name → (site.answer now request).2.response =
      .ok (site.display 200 (.editor name content))) ∧
    (¬ PageName.FitsForms name → (site.answer now request).2.HasStatus 404) := by
  have hroute : route request.method request.path = .endpoint (.editView name) := by
    rw [hmethod, hpath]
    exact route_editView hname.ne_nil.1 (hname.notMem (by decide))
  show (_ → (site.respond now request).response = _) ∧
    (_ → (site.respond now request).HasStatus 404)
  rw [respond_of_route hroute, ← PageName.accepted_iff]
  unfold handle editView
  dsimp only
  refine ⟨fun haccepted => ?_, fun hrefused => ?_⟩
  · have hcontent : ((site.store.find? name).map Entry.content).getD [] = content :=
      (congrArg (·.getD []) h).trans rfl
    rw [if_pos haccepted, hcontent]
    rfl
  · rw [if_neg hrefused]
    exact hasStatus_ok.mpr (status_notFound _)

/-- A form that is answered with a redirect was taken under its name, and the redirect leads to that
    name. -/
theorem redirect_of_submit (hmethod : request.method = "POST")
    (hpath : request.path = "/e/" ++ name)
    (hresponse : (site.respond now request).response = .ok response)
    (hstatus : response.status = 303) :
    PageName.FitsForms name ∧ response = .redirect 303 ('/' :: name) ∧
      ∃ form, site.readForm request = .ok form ∧
        (site.respond now request).store = (site.store.save now name (form.text "body")).1 := by
  obtain ⟨-, haccepted, form, hform, hrespond⟩ :=
    respond_of_submit hmethod hpath hresponse (Or.inl hstatus)
  rw [hrespond] at hresponse ⊢
  split at hresponse
  · obtain ⟨html, rfl⟩ := exists_html_of_rendering hresponse
    cases hstatus
  · next hplain =>
    rw [if_neg hplain]
    exact ⟨PageName.accepted_iff.mp haccepted, (Except.ok.inj hresponse).symm, form, hform, rfl⟩

/-- In a wiki that came about in any way, each page whose name passed a check is shown at its
    address, with its content rendered, and edited at that of its form, whichever characters of the
    name are percent coded, and a form that was sent leads back to the page that it saved. Left out
    are the names that the path of the list of all pages stands for, where the list is shown, and
    names that only the API takes, of which there is no form. -/
theorem pages_at_their_addresses (site : Site) (hbuilt : Built site.settings site.store)
    (now : Nat) :
    (∀ entry ∈ site.store.entries, entry.name ≠ site.settings.homepage ∨ Passes entry.name →
      ∀ (keep : Char → Bool) (request : Request),
        (Gets request ("/" ++ Text.percentEncode keep entry.name) →
          ShowsPage site entry.name entry.content (site.answer now request).2) ∧
        (Gets request ("/e/" ++ Text.percentEncode keep entry.name) →
          (PageName.FitsForms entry.name → (site.answer now request).2.response =
            .ok (site.display 200 (.editor entry.name entry.content))) ∧
          (¬ PageName.FitsForms entry.name → (site.answer now request).2.HasStatus 404))) ∧
    ∀ (name : Text) (request : Request) (response : Response), request.method = "POST" →
      request.path = "/e/" ++ name → (site.answer now request).2.response = .ok response →
      response.status = 303 →
      ∃ location content form, response.location = some location ∧
        site.readForm request = .ok form ∧ form.text "body" = content ∧
        (site.answer now request).1.store.contentOf? name = some content ∧
        ∀ (remote : List (Text × Fetched)) (later : Nat) (follow : Request),
          Gets follow location → ShowsPage ((site.answer now request).1.facing remote) name content
            (((site.answer now request).1.facing remote).answer later follow).2 := by
  refine ⟨fun entry hentry hother keep request => ?_,
    fun name request response hmethod hpath hresponse hstatus => ?_⟩
  · have hname : Passes entry.name := (hbuilt.known hentry).elim (fun h => hother.resolve_left
      (not_not_intro h)) id
    have hcontent : site.store.contentOf? entry.name = some entry.content := by
      unfold Store.contentOf?
      rw [hbuilt.distinct.find?_of_mem hentry]
      rfl
    refine ⟨fun hgets => ?_, fun hgets => ?_⟩
    · exact showsPage_of_path hname hcontent now hgets.method
        (hgets.path_eq hname (by decide) (by decide))
    · exact editor_of_path hname hcontent now hgets.method
        (hgets.path_eq hname (by decide) (by decide))
  · have hsession : (site.respond now request).response = .ok response := hresponse
    obtain ⟨htaken, rfl, form, hform, hstore⟩ :=
      redirect_of_submit hmethod hpath hsession hstatus
    have hcontent : (site.answer now request).1.store.contentOf? name =
        some (form.text "body") := by
      rw [store_of_response hsession, hstore]
      exact (Store.contentOf?_save _ now name _ name).trans (if_pos rfl)
    refine ⟨_, _, form, rfl, hform, rfl, hcontent, fun remote later follow hgets => ?_⟩
    have hlocation : Text.percentEncode keptInLocation ('/' :: name) =
        "/" ++ Text.percentEncode keptInLocation name := rfl
    have hafter : ((site.answer now request).1.facing remote).store.contentOf? name =
        some (form.text "body") := hcontent
    rw [hlocation] at hgets
    exact showsPage_of_path (Or.inr htaken) hafter later hgets.method
      (hgets.path_eq (Or.inr htaken) (by decide) (by decide))

/-- Views whose titles begin with different letters are different responses. -/
theorem display_ne_of_head? {status : Nat} {view other : View} {a b : Char}
    (hview : view.title.head? = some a) (hother : other.title.head? = some b) (hne : a ≠ b) :
    site.display status view ≠ site.display status other := by
  intro hsame
  obtain ⟨rest, hrest⟩ := List.head?_eq_some_iff.mp hview
  obtain ⟨others, hothers⟩ := List.head?_eq_some_iff.mp hother
  have hbody : Body.html _ = Body.html _ := congrArg Response.body hsame
  have htexts := Body.html.inj hbody
  unfold View.html at htexts
  simp only [List.append_assoc, List.append_right_inj, hrest, hothers, List.cons_append] at htexts
  exact hne (List.cons.inj htexts).1

/-- A browser asks for what is at a path. -/
def asking (path : Text) : Request where
  method := "GET"
  path := path

/-- The wiki with an empty page of a name, put at the API. -/
def holdingPut (name : Text) : Site := (blank.answer 1 (putting name)).1

theorem built_holdingPut (name : Text) : Built {} (holdingPut name).store :=
  .answer .empty [] 1 (putting name)

/-- A page with an accent in its name is shown and edited where its name is percent coded. -/
theorem pages_at_their_addresses_accent :
    Built (holdingPut "Café").settings (holdingPut "Café").store ∧
      Gets (asking "/Café") "/Caf%C3%A9" ∧ Gets (asking "/e/Café") "/e/Caf%C3%A9" ∧
      ∃ html,
        ((holdingPut "Café").answer 2 (asking "/Café")).2.response =
          .ok ((holdingPut "Café").display 200 (.page "Café" html)) ∧
        ((holdingPut "Café").answer 2 (asking "/e/Café")).2.response =
          .ok ((holdingPut "Café").display 200 (.editor "Café" [])) := by
  have hview : Gets (asking "/Café") "/Caf%C3%A9" := ⟨rfl, by decide +kernel⟩
  have hedit : Gets (asking "/e/Café") "/e/Caf%C3%A9" := ⟨rfl, by decide +kernel⟩
  have hforms : PageName.FitsForms "Café" := PageName.accepted_iff.mp (by decide +kernel)
  have hstored : (holdingPut "Café").store.entries.map (fun entry => (entry.name, entry.content)) =
      [(("Café" : Text), ([] : Text))] := by decide +kernel
  obtain ⟨entry, hentries, hpair⟩ := List.map_eq_singleton_iff.mp hstored
  obtain ⟨hname, hcontent⟩ := Prod.mk.inj hpair
  have hmem : entry ∈ (holdingPut "Café").store.entries := by
    rw [hentries]
    exact List.mem_singleton_self entry
  have hpages := (pages_at_their_addresses (holdingPut "Café") (built_holdingPut "Café") 2).1 entry
    hmem (Or.inr (hname ▸ Or.inr hforms)) (fun _ => false)
  rw [hname, hcontent] at hpages
  have hshown := (hpages (asking "/Café")).1 hview
  have hedited := ((hpages (asking "/e/Café")).2 hedit).1 hforms
  exact ⟨built_holdingPut "Café", hview, hedit, _, hshown.page (by decide) (by decide +kernel),
    hedited⟩

/-- A page of the name `_list` is saved, and the list is shown at its address, also where the form
    that saved it leads back to. A page whose name has an accent as a character of its own is saved,
    and there is no form for it. -/
theorem saved_pages_are_not_reached :
    ((blank.answer 1 (putting "_list")).2.HasStatus 200 ∧ Built {} (holdingPut "_list").store ∧
      ((holdingPut "_list").store.contentOf? "_list").isSome = true ∧
      Gets (asking "/_list") "/_list" ∧
      ((holdingPut "_list").answer 2 (asking "/_list")).2.response =
        .ok ((holdingPut "_list").display 200 (.list ["_list"])) ∧
      ∀ html, (holdingPut "_list").display 200 (.list ["_list"]) ≠
        (holdingPut "_list").display 200 (.page "_list" html)) ∧
    ((blank.answer 1 (submitting "_list")).2.response = .ok (.redirect 303 "/_list") ∧
      (Response.redirect 303 "/_list").location = some ("/_list" : Text)) ∧
    ((blank.answer 1 (putting "Cafe\u0301")).2.HasStatus 200 ∧
      ((holdingPut "Cafe\u0301").store.contentOf? "Cafe\u0301").isSome = true ∧
      Gets (asking "/e/Cafe\u0301") "/e/Cafe%CC%81" ∧
      ((holdingPut "Cafe\u0301").answer 2 (asking "/e/Cafe\u0301")).2.HasStatus 404) := by
  have hroute : route (asking "/_list").method (asking "/_list").path = .endpoint .listView := by
    decide +kernel
  have hlisted : (holdingPut "_list").store.listing.map Entry.name = [("_list" : Text)] := by
    decide +kernel
  have hform : (blank.answer 1 (submitting "_list")).2.HasStatus 303 :=
    hasStatus_of_toOption (by decide +kernel)
  obtain ⟨response, hresponse, hstatus⟩ := hform
  obtain ⟨-, rfl, -⟩ := redirect_of_submit rfl rfl hresponse hstatus
  refine ⟨⟨hasStatus_of_toOption (by decide +kernel), built_holdingPut "_list", by decide +kernel,
    ⟨rfl, by decide +kernel⟩, ?_, fun html h => ?_⟩, ⟨hresponse, by decide +kernel⟩,
    hasStatus_of_toOption (by decide +kernel), by decide +kernel, ⟨rfl, by decide +kernel⟩,
    hasStatus_of_toOption (by decide +kernel)⟩
  · show ((holdingPut "_list").respond 2 (asking "/_list")).response = _
    rw [respond_of_route hroute]
    unfold handle
    dsimp only
    rw [hlisted]
    rfl
  · have htitle : (viewTitle "_list").head? = some '_' := by decide +kernel
    exact display_ne_of_head? (a := 'L') rfl htitle (by decide) h

end Taskbook.Site
