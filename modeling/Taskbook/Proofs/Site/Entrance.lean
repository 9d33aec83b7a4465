/-
  The three ways in which a page gets its name: it is put at the API, submitted by a form, or
  brought by an import.

  The forms and the import take the same names, and the API takes others: at most 255 characters,
  all of them identifier characters or hyphens, and no line feed behind them (`put_taken_iff`,
  `submit_taken_iff`). The three agree on names of at most 255 characters that do not end in a
  line feed and whose characters are in both classes of word characters or in none; on others they
  part (`entrances_part`).
-/
import Taskbook.Proofs.Site.Pages
import Taskbook.Proofs.Site.Rendering

namespace Taskbook.Site

open Http

variable {site : Site} {now : Nat} {request : Request} {name content : Text}

/-! ## Names that are refused -/

/-- A page is put at the API under a name, with a content that passes. -/
structure Puts (request : Request) (name : Text) : Prop where
  method : request.method = "PUT"
  path : request.path = pagesHead ++ name
  content : ∃ content, checkBody request (.ok ()) checkSave = .ok ((), content)

/-- A page is submitted under a name, by a form that can be read. -/
structure Submits (site : Site) (request : Request) (name : Text) : Prop where
  method : request.method = "POST"
  path : request.path = "/e/" ++ name
  form : ∃ content, checkForm (site.readForm request) = .ok content

theorem checkName_of_refused {place : List Text} {refusal : Refusal}
    (h : checkName place name = .error refusal) : ∃ problems, refusal = .problems problems := by
  unfold checkName problem at h
  split at h
  · exact ⟨_, (Except.error.inj h).symm⟩
  · split at h
    · exact ⟨_, (Except.error.inj h).symm⟩
    · split at h
      · cases h
      · exact ⟨_, (Except.error.inj h).symm⟩

theorem checkBody_of_checkName {place : List Text}
    (h : checkBody request (.ok ()) checkSave = .ok ((), content)) :
    checkBody request (checkName place name) checkSave =
      (checkName place name).map fun name => (name, content) := by
  obtain ⟨members, hjson, -, hcontent⟩ := exists_object_of_checkBody h
  rw [checkBody_of_object hjson, hcontent]
  cases checkName place name <;> rfl

theorem status_of_rendering {store : Store} {respond : Text → Response} {status : Nat}
    (hstatus : ∀ html, (respond html).status = status) {other : Nat}
    (h : (site.rendering store name content respond).HasStatus other) : other = status := by
  obtain ⟨response, hresponse, rfl⟩ := h
  obtain ⟨html, rfl⟩ := exists_html_of_rendering hresponse
  exact hstatus html

theorem hasStatus_ok {response : Response} {store : Store} {requested : List Text} {status : Nat} :
    Answer.HasStatus { response := .ok response, store, requested } status ↔
      response.status = status :=
  ⟨fun ⟨_, hsome, hstatus⟩ => Except.ok.inj hsome ▸ hstatus, fun h => ⟨response, rfl, h⟩⟩

/-- The API takes names of at most 255 characters that are made of identifier characters and
    hyphens. -/
theorem put_taken_iff (hname : name ≠ [] ∧ '/' ∉ name) (h : Puts request name) :
    ¬ (site.answer now request).2.HasStatus 422 ↔ PageName.FitsApi name := by
  obtain ⟨content, hcontent⟩ := h.content
  change ¬ (site.respond now request).HasStatus 422 ↔ _
  rw [respond_of_route (by rw [h.method, h.path]; exact route_putPage hname.1 hname.2),
    PageName.fitsApi_iff]
  unfold handle putPage
  dsimp only
  rw [checkBody_of_checkName hcontent]
  cases hcheck : checkName ["path", "name"] name with
  | ok name' =>
    obtain ⟨rfl, hpasses⟩ := checkName_eq_ok_iff.mp hcheck
    refine iff_of_true (fun hrefused => ?_) hpasses
    have hstatus : 422 = 200 := status_of_rendering (fun _ => rfl) hrefused
    cases hstatus
  | error refusal =>
    obtain ⟨problems, rfl⟩ := checkName_of_refused hcheck
    refine iff_of_false (not_not_intro (hasStatus_ok.mpr rfl)) fun hpasses => ?_
    rw [checkName_eq_ok_iff.mpr ⟨rfl, hpasses⟩] at hcheck
    cases hcheck

/-- The forms take names of word characters and hyphens, with or without a line feed behind them. -/
theorem submit_taken_iff (hname : name ≠ [] ∧ '/' ∉ name) (h : Submits site request name) :
    ¬ (site.answer now request).2.HasStatus 404 ↔ PageName.FitsForms name := by
  obtain ⟨content, hcontent⟩ := h.form
  change ¬ (site.respond now request).HasStatus 404 ↔ _
  rw [respond_of_route (by rw [h.method, h.path]; exact route_submit hname.1 hname.2),
    ← PageName.accepted_iff]
  unfold handle submit
  dsimp only
  rw [hcontent]
  dsimp only
  by_cases haccepted : PageName.accepted name = true
  · rw [if_pos haccepted]
    refine iff_of_true (fun hrefused => ?_) haccepted
    split at hrefused
    · have hstatus : 404 = 200 := status_of_rendering (fun _ => rfl) hrefused
      cases hstatus
    · have hstatus : 303 = 404 := hasStatus_ok.mp hrefused
      cases hstatus
  · rw [if_neg haccepted]
    exact iff_of_false (not_not_intro (hasStatus_ok.mpr (status_notFound _))) haccepted

theorem route_pages : route "PUT" pagesHead = .elsewhere "/api/v1/pages" := by decide

theorem route_forms : route "POST" "/e/" = .elsewhere "/e" := by decide

theorem hasStatus_of_elsewhere {path : Text}
    (hroute : route request.method request.path = .elsewhere path) :
    (site.answer now request).2.HasStatus 307 := by
  change (site.respond now request).HasStatus 307
  unfold respond
  rw [hroute]
  exact hasStatus_ok.mpr rfl

/-! ## Names that are taken -/

/-- A form and an import take the same names: those of word characters and hyphens, with or without
    a line feed behind them. The API takes names of at most 255 identifier characters and hyphens.
    So all three take the same names of at most 255 characters among which there is no line feed at
    the end and none that is in only one of the classes. A path without a name leads elsewhere. In
    every store that comes about, each page has the name of the homepage or one that the API or the
    forms take. -/
theorem names_at_the_entrances (site : Site) (now : Nat) (name : Text) (hslash : '/' ∉ name)
    (put form : Request) (hput : Puts put name) (hform : Submits site form name)
    (ground : Import.Ground) (options : Import.Options) (table : Option Store)
    (hfile : Import.Brings ground options table name) :
    (∃ later, (Import.runOptions ground options now table).table = some later ∧
      ((later.contentOf? name).isSome = true ↔ PageName.FitsForms name)) ∧
    (name ≠ [] →
      (¬ (site.answer now put).2.HasStatus 422 ↔ PageName.FitsApi name) ∧
      (¬ (site.answer now form).2.HasStatus 404 ↔ PageName.FitsForms name)) ∧
    (name = [] →
      (site.answer now put).2.HasStatus 307 ∧ (site.answer now form).2.HasStatus 307) ∧
    (PageName.Agreed name → (PageName.FitsApi name ↔ PageName.FitsForms name)) ∧
    ∀ (settings : Settings) (store : Store), Built settings store → ∀ entry ∈ store.entries,
      entry.name = settings.homepage ∨ PageName.FitsApi entry.name ∨
        PageName.FitsForms entry.name := by
  refine ⟨?_, fun hne => ⟨put_taken_iff ⟨hne, hslash⟩ hput, submit_taken_iff ⟨hne, hslash⟩ hform⟩,
    ?_, fun hagreed => ?_, fun settings store hbuilt entry => hbuilt.known⟩
  · rw [← PageName.accepted_iff]
    exact Import.isSome_runOptions_iff hfile
  · rintro rfl
    have hputRoute : route put.method put.path = .elsewhere "/api/v1/pages" := by
      rw [hput.method, hput.path]
      exact route_pages
    have hformRoute : route form.method form.path = .elsewhere "/e" := by
      rw [hform.method, hform.path]
      exact route_forms
    exact ⟨hasStatus_of_elsewhere hputRoute, hasStatus_of_elsewhere hformRoute⟩
  · rw [PageName.fitsApi_iff_accepted hagreed, PageName.accepted_iff]

/-- A page without content, put at the API. -/
def putting (name : Text) : Request where
  method := "PUT"
  path := pagesHead ++ name
  headers := [("Content-Type", "application/json")]
  body := "\x7b\"content\": \"\"\x7d"

/-- A page without content, submitted by a form. -/
def submitting (name : Text) : Request where
  method := "POST"
  path := "/e/" ++ name
  headers := [("Content-Type", "application/x-www-form-urlencoded")]

theorem puts_putting (name : Text) : Puts (putting name) name := by
  have hjson : (putting name).json? = (putting []).json? := rfl
  have hchecked : checkBody (putting []) (.ok ()) checkSave = .ok ((), []) :=
    eq_ok_of_toOption (by decide +kernel)
  refine ⟨rfl, rfl, [], ?_⟩
  unfold checkBody at hchecked ⊢
  rw [hjson]
  exact hchecked

theorem submits_submitting (name : Text) : Submits blank (submitting name) name := by
  have hsame : (submitting name).readForm = (submitting []).readForm := rfl
  have hread : (submitting []).readForm = .ok [] := eq_ok_of_toOption (by decide +kernel)
  exact ⟨rfl, rfl, [], congrArg checkForm (hsame.trans hread)⟩

/-- A wiki directory in which an empty file lies in a directory of its own. -/
def groundOf (fileName : Text) : Import.Ground where
  shown := "/wiki"
  name := "wiki"
  tree := .directory [("notes", .directory [(fileName, .file [])])]

theorem brings_groundOf (name : Text) :
    Import.Brings (groundOf (name ++ ".markdown")) { directory := "/wiki" } none name where
  real := rfl
  plain := by decide
  file := by
    have hplace : (groundOf (name ++ ".markdown")).place? "/wiki" = (groundOf []).place? "/wiki" :=
      rfl
    refine ⟨["wiki"], (groundOf (name ++ ".markdown")).tree, [], [], ?_, rfl, ?_, ?_⟩
    · dsimp only
      rw [hplace]
      decide +kernel
    · exact .deeper (List.mem_singleton_self _) (.entry (List.mem_singleton_self _))
    · unfold Text.decode Text.decodeFrom
      rfl
  new := rfl

/-- All three take an ordinary name. -/
theorem names_at_the_entrances_plain :
    ¬ (blank.answer 1 (putting "Home")).2.HasStatus 422 ∧
      ¬ (blank.answer 1 (submitting "Home")).2.HasStatus 404 ∧
      ∃ later, (Import.runOptions (groundOf "Home.markdown") { directory := "/wiki" } 1
        none).table = some later ∧ (later.contentOf? "Home").isSome = true := by
  have hagreed : PageName.Agreed "Home" :=
    PageName.agreed_of_ascii (by decide) (by decide) (by decide)
  have hforms : PageName.FitsForms "Home" := PageName.accepted_iff.mp (by decide +kernel)
  obtain ⟨⟨later, hlater, himport⟩, htaken, -, hsame, -⟩ :=
    names_at_the_entrances blank 1 "Home" (by decide) _ _ (puts_putting "Home")
      (submits_submitting "Home") _ _ _ (brings_groundOf "Home")
  obtain ⟨hput, hform⟩ := htaken (by decide)
  exact ⟨hput.mpr ((hsame hagreed).mpr hforms), hform.mpr hforms, later, hlater, himport.mpr hforms⟩

/-- The API refuses names that the forms take: one with a line feed behind it, one of 256 letters
    and one with a number in superscript. Pages of these names are in stores that come about. A name
    with an accent that is a character of its own is taken by the API and refused by the forms. -/
theorem entrances_part :
    (∀ name ∈ (["Home\n", List.replicate 256 'a', "m²"] : List Text),
      Puts (putting name) name ∧ Submits blank (submitting name) name ∧
        (blank.answer 1 (putting name)).2.HasStatus 422 ∧
        (blank.answer 1 (submitting name)).2.HasStatus 303 ∧
        Built {} (blank.answer 1 (submitting name)).1.store ∧
        ((blank.answer 1 (submitting name)).1.store.contentOf? name).isSome = true) ∧
      (blank.answer 1 (putting "Cafe\u0301")).2.HasStatus 200 ∧
      (blank.answer 1 (submitting "Cafe\u0301")).2.HasStatus 404 := by
  have hanswers : ∀ name ∈ (["Home\n", List.replicate 256 'a', "m²"] : List Text),
      (blank.answer 1 (putting name)).2.response.toOption.map (·.status) = some 422 ∧
        (blank.answer 1 (submitting name)).2.response.toOption.map (·.status) = some 303 ∧
        ((blank.answer 1 (submitting name)).1.store.contentOf? name).isSome = true := by
    decide +kernel
  refine ⟨fun name hname => ?_, hasStatus_of_toOption (by decide +kernel),
    hasStatus_of_toOption (by decide +kernel)⟩
  obtain ⟨hput, hform, hstored⟩ := hanswers name hname
  exact ⟨puts_putting name, submits_submitting name, hasStatus_of_toOption hput,
    hasStatus_of_toOption hform, .answer .empty [] 1 (submitting name), hstored⟩

end Taskbook.Site
