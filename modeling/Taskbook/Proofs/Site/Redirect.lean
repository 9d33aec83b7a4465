/-
  Where redirects lead.

  A location leads to a path, up to the first mark that ends it, which is percent decoded, and to a
  query (`LeadsTo`). The name of a page that is not there stands in the location of its form with
  its percent signs and marks as they are. So the path behind `/e/` is not the name but the name up
  to the first mark, decoded once more (`pathOf_percentEncode`), and the form is that of the page
  exactly if the name has no mark and no percent code (`Literal`). The names that a form takes are
  of this kind (`literal_of_fitsForms`), so a form that was sent leads back to its page.
-/
import Taskbook.Proofs.Site.Address
import Taskbook.Proofs.Text.PercentCode

namespace Taskbook.Site

open Http

variable {head name : Text}

/-! ## Locations -/

/-- A character of the path of a location: any but the marks that end it. -/
def inPath (c : Char) : Bool := c ≠ '?' && c ≠ '#'

/-- The path that is asked for at a location. -/
def pathOf (location : Text) : Text := Target.askedPath (location.takeWhile inPath)

/-- The query that is asked for at a location, if there is one. -/
def queryOf? (location : Text) : Option Text :=
  match location.dropWhile inPath with
  | '?' :: rest => some (rest.takeWhile (· ≠ '#'))
  | _ => none

/-- A location leads to a path, without a query. -/
structure LeadsTo (location path : Text) : Prop where
  path : pathOf location = path
  query : queryOf? location = none

/-! ## Coded locations -/

theorem inPath_eq_false_iff {c : Char} : inPath c = false ↔ c = '?' ∨ c = '#' := by
  unfold inPath
  simp [or_iff_not_imp_left]

/-- A mark stands for itself in a location. -/
theorem keptInLocation_of_mark (c : Char) (h : inPath c = false) : keptInLocation c = true := by
  rcases inPath_eq_false_iff.mp h with rfl | rfl
  · decide
  · decide

theorem inPath_of_isAsciiAlnum (c : Char) (h : isAsciiAlnum c = true) : inPath c = true := by
  by_contra hmark
  rcases inPath_eq_false_iff.mp (Bool.eq_false_iff.mpr hmark) with rfl | rfl
  · exact absurd h (by decide)
  · exact absurd h (by decide)

theorem span_location (s : Text) :
    (Text.percentEncode keptInLocation s).takeWhile inPath =
        Text.percentEncode keptInLocation (s.takeWhile inPath) ∧
      (Text.percentEncode keptInLocation s).dropWhile inPath =
        Text.percentEncode keptInLocation (s.dropWhile inPath) :=
  Text.span_percentEncode keptInLocation_of_mark (by decide) inPath_of_isAsciiAlnum s

/-- The path of a location is decoded, and its percent signs were not coded before. -/
theorem pathOf_percentEncode {s : Text} (h : s.takeWhile inPath ≠ []) :
    pathOf (Text.percentEncode keptInLocation s) = Text.percentDecode (s.takeWhile inPath) := by
  unfold pathOf Target.askedPath
  rw [(span_location s).1, if_neg (mt Text.percentEncode_eq_nil_iff.mp h)]
  unfold Text.percentDecode
  rw [Text.percentBytes_percentEncode_of_keep (by decide)]

theorem head_eq_of_dropWhile {s rest : Text} {c : Char} (h : s.dropWhile inPath = c :: rest) :
    c = '?' ∨ c = '#' := by
  have hmark := List.head?_dropWhile_not inPath s
  rw [h] at hmark
  exact inPath_eq_false_iff.mp hmark

/-- The query of a location is coded, and begins and ends where it did before. -/
theorem queryOf?_percentEncode (s : Text) :
    queryOf? (Text.percentEncode keptInLocation s) =
      (queryOf? s).map (Text.percentEncode keptInLocation) := by
  unfold queryOf?
  rw [(span_location s).2]
  cases hrest : s.dropWhile inPath with
  | nil => rfl
  | cons c rest =>
    rcases head_eq_of_dropWhile hrest with rfl | rfl
    · rw [Text.percentEncode_cons_of_kept (by decide)]
      refine congrArg some (Text.span_percentEncode (fun c hc => ?_) (by decide) ?_ rest).1
      · obtain rfl : c = '#' := by simpa using hc
        decide
      · intro c hc
        by_contra hmark
        obtain rfl : c = '#' := by simpa using hmark
        exact absurd hc (by decide)
    · rw [Text.percentEncode_cons_of_kept (by decide)]
      rfl

/-! ## Names in locations -/

/-- A name that is read as it is written: no mark in it ends a path, and it has no percent code. -/
structure Literal (name : Text) : Prop where
  marks : ∀ c ∈ name, inPath c = true
  codes : ¬ Text.HoldsCode name

instance : DecidablePred Literal := fun name =>
  decidable_of_iff (name.all inPath = true ∧ ¬ Text.HoldsCode name)
    ⟨fun h => ⟨List.all_eq_true.mp h.1, h.2⟩, fun h => ⟨List.all_eq_true.mpr h.marks, h.codes⟩⟩

/-- The head of a path that is read as it is written. -/
structure PlainHead (head : Text) : Prop where
  ne_nil : head ≠ []
  marks : ∀ c ∈ head, inPath c = true
  signs : '%' ∉ head

/-- The path of a location with a name goes up to the first mark, and is decoded. -/
theorem PlainHead.pathOf_append (h : PlainHead head) (name : Text) :
    pathOf (Text.percentEncode keptInLocation (head ++ name)) =
      head ++ Text.percentDecode (name.takeWhile inPath) := by
  have hspan : (head ++ name).takeWhile inPath = head ++ name.takeWhile inPath :=
    List.takeWhile_append_of_pos h.marks
  rw [pathOf_percentEncode, hspan, Text.percentDecode_head h.signs]
  rw [hspan]
  exact List.append_ne_nil_of_left_ne_nil h.ne_nil _

theorem PlainHead.queryOf?_append (h : PlainHead head) (name : Text) :
    queryOf? (Text.percentEncode keptInLocation (head ++ name)) =
      (queryOf? name).map (Text.percentEncode keptInLocation) := by
  have hspan : (head ++ name).dropWhile inPath = name.dropWhile inPath :=
    List.dropWhile_append_of_pos h.marks
  rw [queryOf?_percentEncode]
  unfold queryOf?
  rw [hspan]

/-- A text up to a mark is decoded to the whole text exactly if it is read as it is written. -/
theorem percentDecode_takeWhile_eq_iff :
    Text.percentDecode (name.takeWhile inPath) = name ↔ Literal name := by
  constructor
  · intro heq
    have hprefix : name.takeWhile inPath <+: name := List.takeWhile_prefix inPath
    have hlength : name.length ≤ (name.takeWhile inPath).length := by
      have := Text.length_percentDecode_le (name.takeWhile inPath)
      rwa [heq] at this
    have hwhole : name.takeWhile inPath = name := hprefix.eq_of_length_le hlength
    rw [hwhole] at heq
    exact ⟨List.takeWhile_eq_self_iff.mp hwhole, Text.percentDecode_eq_self_iff.mp heq⟩
  · rintro ⟨hmarks, hcodes⟩
    rw [List.takeWhile_eq_self_iff.mpr hmarks]
    exact Text.percentDecode_eq_self_iff.mpr hcodes

theorem Literal.queryOf?_eq_none (h : Literal name) : queryOf? name = none := by
  unfold queryOf?
  rw [List.dropWhile_eq_nil_iff.mpr h.marks]

/-- A location leads to the name in it exactly if the name is read as it is written. -/
theorem PlainHead.leadsTo_iff (h : PlainHead head) :
    LeadsTo (Text.percentEncode keptInLocation (head ++ name)) (head ++ name) ↔ Literal name := by
  constructor
  · rintro ⟨hpath, -⟩
    rw [h.pathOf_append] at hpath
    exact percentDecode_takeWhile_eq_iff.mp (List.append_cancel_left hpath)
  · intro hname
    refine ⟨?_, ?_⟩
    · rw [h.pathOf_append, percentDecode_takeWhile_eq_iff.mpr hname]
    · rw [h.queryOf?_append, hname.queryOf?_eq_none]
      rfl

theorem plainHead_form : PlainHead "/e/" :=
  ⟨by decide, List.all_eq_true.mp (by decide), by decide⟩

theorem plainHead_page : PlainHead "/" := ⟨by decide, List.all_eq_true.mp (by decide), by decide⟩

/-- The names that a form takes are read as they are written. -/
theorem literal_of_fitsForms (h : PageName.FitsForms name) : Literal name := by
  have hpasses : Passes name := Or.inr h
  refine ⟨fun c hc => ?_, ?_⟩
  · by_contra hmark
    rcases inPath_eq_false_iff.mp (Bool.eq_false_iff.mpr hmark) with rfl | rfl
    · exact hpasses.notMem (by decide) hc
    · exact hpasses.notMem (by decide) hc
  · rintro ⟨rest, hsuffix, -⟩
    exact hpasses.notMem (by decide) (hsuffix.mem List.mem_cons_self)

/-! ## Redirects -/

theorem redirect_of_missing (site : Site) (now : Nat) (request : Request)
    (hroute : route request.method request.path = .endpoint (.pageView name))
    (hnone : site.store.find? name = none) :
    (site.answer now request).2.response = .ok (.redirect 302 ("/e/" ++ name)) := by
  show (site.respond now request).response = _
  rw [respond_of_route hroute]
  unfold handle pageView
  dsimp only
  rw [hnone]
  rfl

/-- A page that is not there is answered with a redirect to its form, whose path goes up to the
    first mark in the name and is decoded once more, and whose query is what follows a question
    mark there. So it leads to the form of the page exactly if the name is read as it is written.
    A form that was sent leads back to its page under every name. -/
theorem redirect_keeps_name_iff (site : Site) (now : Nat) (request : Request) (name : Text) :
    (route request.method request.path = .endpoint (.pageView name) →
      site.store.find? name = none →
      ∃ response location, (site.answer now request).2.response = .ok response ∧
        response.status = 302 ∧ response.location = some location ∧
        pathOf location = "/e/" ++ Text.percentDecode (name.takeWhile inPath) ∧
        queryOf? location = (queryOf? name).map (Text.percentEncode keptInLocation) ∧
        (LeadsTo location ("/e/" ++ name) ↔ Literal name)) ∧
    ∀ response, request.method = "POST" → request.path = "/e/" ++ name →
      (site.answer now request).2.response = .ok response → response.status = 303 →
      ∃ location, response.location = some location ∧ LeadsTo location ("/" ++ name) := by
  refine ⟨fun hroute hnone => ?_, fun response hmethod hpath hresponse hstatus => ?_⟩
  · exact ⟨_, _, redirect_of_missing site now request hroute hnone, rfl, rfl,
      plainHead_form.pathOf_append name, plainHead_form.queryOf?_append name,
      plainHead_form.leadsTo_iff⟩
  · obtain ⟨htaken, rfl, -⟩ := redirect_of_submit hmethod hpath hresponse hstatus
    exact ⟨_, rfl, plainHead_page.leadsTo_iff.mpr (literal_of_fitsForms htaken)⟩

/-- A page with a percent sign and a blank in its name is not there, and another one is saved. -/
theorem redirect_keeps_name_iff_blank :
    (route (asking "/50% done").method (asking "/50% done").path =
        .endpoint (.pageView "50% done") ∧
      blank.store.find? "50% done" = none ∧
      ∃ response location, (blank.answer 1 (asking "/50% done")).2.response = .ok response ∧
        response.location = some location ∧ LeadsTo location "/e/50% done") ∧
    ∃ response location, (blank.answer 1 (submitting "Café")).2.response = .ok response ∧
      response.status = 303 ∧ response.location = some location ∧ LeadsTo location "/Café" := by
  have hroute : route (asking "/50% done").method (asking "/50% done").path =
      .endpoint (.pageView "50% done") := by decide +kernel
  have hnone : blank.store.find? "50% done" = none := rfl
  obtain ⟨response, location, hresponse, -, hlocation, -, -, hleads⟩ :=
    (redirect_keeps_name_iff blank 1 (asking "/50% done") "50% done").1 hroute hnone
  have hform : (blank.answer 1 (submitting "Café")).2.HasStatus 303 :=
    hasStatus_of_toOption (by decide +kernel)
  obtain ⟨saved, hsaved, hstatus⟩ := hform
  obtain ⟨back, hback, hpage⟩ :=
    (redirect_keeps_name_iff blank 1 (submitting "Café") "Café").2 saved rfl rfl hsaved hstatus
  exact ⟨⟨hroute, hnone, response, location, hresponse, hlocation, hleads.mpr (by decide)⟩,
    saved, back, hsaved, hstatus, hback, hpage⟩

/-- Where a name has a question mark, a number sign or a percent code, the redirect leads to the
    form of another page. -/
theorem redirect_loses_name :
    (route "GET" "/a?b" = .endpoint (.pageView "a?b") ∧
      (blank.answer 1 (asking "/a?b")).2.response = .ok (.redirect 302 "/e/a?b") ∧
      (Response.redirect 302 "/e/a?b").location = some ("/e/a?b" : Text) ∧
      pathOf "/e/a?b" = "/e/a" ∧ queryOf? "/e/a?b" = some ("b" : Text)) ∧
    (route "GET" "/a#b" = .endpoint (.pageView "a#b") ∧
      (blank.answer 1 (asking "/a#b")).2.response = .ok (.redirect 302 "/e/a#b") ∧
      (Response.redirect 302 "/e/a#b").location = some ("/e/a#b" : Text) ∧
      pathOf "/e/a#b" = "/e/a") ∧
    route "GET" "/%41" = .endpoint (.pageView "%41") ∧
      (blank.answer 1 (asking "/%41")).2.response = .ok (.redirect 302 "/e/%41") ∧
      (Response.redirect 302 "/e/%41").location = some ("/e/%41" : Text) ∧
      pathOf "/e/%41" = "/e/A" := by
  have hmark : route "GET" "/a?b" = .endpoint (.pageView "a?b") := by decide +kernel
  have hsign : route "GET" "/a#b" = .endpoint (.pageView "a#b") := by decide +kernel
  have hcode : route "GET" "/%41" = .endpoint (.pageView "%41") := by decide +kernel
  exact ⟨⟨hmark, redirect_of_missing blank 1 (asking "/a?b") hmark rfl, by decide +kernel,
      by decide +kernel, by decide +kernel⟩,
    ⟨hsign, redirect_of_missing blank 1 (asking "/a#b") hsign rfl, by decide +kernel,
      by decide +kernel⟩,
    hcode, redirect_of_missing blank 1 (asking "/%41") hcode rfl, by decide +kernel,
    by decide +kernel⟩

end Taskbook.Site
