/-
  Where requests lead. An endpoint is reached through a route of its method (`exists_route`), and
  of the routes of one method the first that the path fits decides (`route_eq_of_findSome?`). The
  name in a path is all that stands behind the head of the path (`lastName?_eq_some_iff`), so a
  page is put and got at the API under each name without a slash (`route_putPage`,
  `route_getPage`), and likewise its source and its form (`route_rawPage`, `route_sourceView`,
  `route_editView`, `route_submit`), and its view, unless another path stands for its name
  (`route_pageView`). Nothing but a name leads to what puts or submits a page
  (`putPage_of_route`, `submit_of_route`).
-/
import Taskbook.Site.Route

namespace Taskbook.Site

theorem name?_eq_some_iff {s name : Text} : name? s = some name ↔ s = name ∧ s ≠ [] ∧ '/' ∉ s := by
  unfold name?
  by_cases hnil : s = []
  · simp [hnil]
  · by_cases hslash : '/' ∈ s <;> simp [hnil, hslash]

theorem lastName?_eq_some_iff {head path name : Text} :
    lastName? head path = some name ↔ path = head ++ name ∧ name ≠ [] ∧ '/' ∉ name := by
  unfold lastName?
  rw [Option.bind_eq_some_iff]
  constructor
  · rintro ⟨rest, hrest, hname⟩
    obtain ⟨rfl, hne, hslash⟩ := name?_eq_some_iff.mp hname
    exact ⟨Text.dropPrefix?_eq_some_iff.mp hrest, hne, hslash⟩
  · rintro ⟨hpath, hne, hslash⟩
    exact ⟨name, Text.dropPrefix?_eq_some_iff.mpr hpath, name?_eq_some_iff.mpr ⟨rfl, hne, hslash⟩⟩

theorem lastName?_append {head name : Text} (hne : name ≠ []) (hslash : '/' ∉ name) :
    lastName? head (head ++ name) = some name :=
  lastName?_eq_some_iff.mpr ⟨rfl, hne, hslash⟩

theorem dropTail?_eq_some_iff {tail s rest : Text} :
    dropTail? tail s = some rest ↔ s = rest ++ tail := by
  unfold dropTail?
  rw [Option.map_eq_some_iff]
  constructor
  · rintro ⟨back, hback, rfl⟩
    rw [← List.reverse_reverse s, Text.dropPrefix?_eq_some_iff.mp hback, List.reverse_append,
      List.reverse_reverse]
  · rintro rfl
    refine ⟨rest.reverse, ?_, List.reverse_reverse rest⟩
    rw [Text.dropPrefix?_eq_some_iff, List.reverse_append]

/-- A fixed path is met as it is, or with a line feed behind it. -/
theorem eq_of_isFixed {fixed path : Text} (h : isFixed fixed path = true) :
    path = fixed ∨ path = fixed ++ ['\n'] := by
  unfold isFixed beforeEnd? at h
  rw [decide_eq_true_eq, Option.orElse_eq_orElse, Option.orElse_eq_or, Option.or_eq_some_iff] at h
  rcases h with hend | ⟨-, hend⟩
  · rw [dropTail?_eq_some_iff] at hend
    exact Or.inl hend
  · rw [dropTail?_eq_some_iff] at hend
    exact Or.inr hend

theorem eq_of_endpoint?_fixed {methods : List Text} {fixed path : Text} {endpoint found : Endpoint}
    (h : (Route.fixed methods fixed endpoint).endpoint? path = some found) : found = endpoint := by
  unfold Route.fixed at h
  dsimp only at h
  split at h
  · exact (Option.some.inj h).symm
  · cases h

theorem find?_fitting (method path : Text) :
    ((fitting path).find? fun found => found.1.contains method).map Prod.snd =
      (routes.filter (·.methods.contains method)).findSome? (·.endpoint? path) := by
  unfold fitting
  induction routes with
  | nil => rfl
  | cons route rest ih =>
    rw [List.filterMap_cons, List.filter_cons]
    cases hmethod : route.methods.contains method with
    | true =>
      cases hfits : route.endpoint? path with
      | none =>
        rw [if_pos rfl, List.findSome?_cons, hfits]
        exact ih
      | some endpoint =>
        rw [if_pos rfl, List.findSome?_cons, hfits]
        simp only [Option.map_some, List.find?_cons, hmethod]
    | false =>
      rw [if_neg Bool.false_ne_true]
      cases hfits : route.endpoint? path with
      | none => exact ih
      | some endpoint => simpa only [Option.map_some, List.find?_cons, hmethod] using ih

/-- Of the routes of a method, the first that the path fits says what is asked for. -/
theorem route_eq_of_findSome? {method path : Text} {endpoint : Endpoint}
    (h : (routes.filter (·.methods.contains method)).findSome? (·.endpoint? path) = some endpoint) :
    route method path = .endpoint endpoint := by
  rw [← find?_fitting] at h
  obtain ⟨found, hfound, rfl⟩ := Option.map_eq_some_iff.mp h
  unfold route
  rw [hfound]

/-- An endpoint is reached through a route of the method that the path fits. -/
theorem exists_route {method path : Text} {endpoint : Endpoint}
    (h : route method path = .endpoint endpoint) :
    ∃ route ∈ routes, method ∈ route.methods ∧ route.endpoint? path = some endpoint := by
  unfold Site.route at h
  split at h
  · next found hfound =>
    obtain rfl := Routing.endpoint.inj h
    have hmethod : method ∈ found.1 := by simpa using List.find?_some hfound
    obtain ⟨route, hroute, hfits⟩ := List.mem_filterMap.mp (List.mem_of_find?_eq_some hfound)
    obtain ⟨endpoint, hendpoint, rfl⟩ := Option.map_eq_some_iff.mp hfits
    exact ⟨route, hroute, hmethod, hendpoint⟩
  · split at h
    · cases h
    · split at h <;> cases h

/-! ## Fixed paths -/

/-- A path that a fixed one does not stand for. -/
def Avoids (path fixed : Text) : Prop := path ≠ fixed ∧ path ≠ fixed ++ ['\n']

theorem Avoids.endpoint? {methods : List Text} {path fixed : Text} {endpoint : Endpoint}
    (h : Avoids path fixed) : (Route.fixed methods fixed endpoint).endpoint? path = none :=
  if_neg fun hfixed => (eq_of_isFixed hfixed).elim h.1 h.2

theorem avoids_of_head {head fixed : Text} (h : ¬ head <+: fixed ++ ['\n']) (rest : Text) :
    Avoids (head ++ rest) fixed := by
  have hhead : head <+: head ++ rest := List.prefix_append head rest
  constructor
  · intro hpath
    rw [hpath] at hhead
    exact h (hhead.trans (List.prefix_append fixed _))
  · intro hpath
    rw [hpath] at hhead
    exact h hhead

theorem avoids_of_mem {path fixed : Text} {c : Char} (hpath : c ∈ path)
    (hfixed : c ∉ fixed ++ ['\n']) : Avoids path fixed := by
  constructor
  · rintro rfl
    exact hfixed (List.mem_append_left _ hpath)
  · rintro rfl
    exact hfixed hpath

/-- A path with one slash, at its head, is no path with more. -/
theorem avoids_of_slash {rest fixed : Text} (hrest : '/' ∉ rest) (hfixed : '/' ∈ fixed.tail) :
    Avoids ('/' :: rest) fixed := by
  cases fixed with
  | nil => cases hfixed
  | cons c inner =>
    constructor
    · intro heq
      exact hrest ((List.cons.inj heq).2 ▸ hfixed)
    · intro heq
      exact hrest ((List.cons.inj heq).2 ▸ List.mem_append_left _ hfixed)

/-- The paths of what is generated about the API. -/
def documentPaths : List Text :=
  ["/api/openapi.json", "/api/docs", "/docs/oauth2-redirect", "/api/redoc"]

theorem endpoint?_of_mem_documentRoutes {path : Text}
    (hpaths : ∀ fixed ∈ documentPaths, Avoids path fixed) {route : Route}
    (hroute : route ∈ documentRoutes) : route.endpoint? path = none := by
  simp only [documentRoutes, List.mem_cons, List.not_mem_nil, or_false] at hroute
  obtain rfl | rfl | rfl | rfl := hroute <;> exact (hpaths _ (by decide)).endpoint?

/-- The routes before the one that a path fits do not fit it. -/
theorem route_eq_of_append {method path : Text} {endpoint : Endpoint} {before after : List Route}
    {found : Route} (hpaths : ∀ fixed ∈ documentPaths, Avoids path fixed)
    (hroutes : pageRoutes.filter (·.methods.contains method) = before ++ found :: after)
    (hbefore : ∀ route ∈ before, route.endpoint? path = none)
    (hfound : found.endpoint? path = some endpoint) : route method path = .endpoint endpoint := by
  refine route_eq_of_findSome? (List.findSome?_eq_some_iff.mpr
    ⟨documentRoutes.filter (·.methods.contains method) ++ before, found, after, ?_, hfound, ?_⟩)
  · unfold routes
    rw [List.filter_append, hroutes, List.append_assoc]
  · intro route hroute
    rcases List.mem_append.mp hroute with hroute | hroute
    · exact endpoint?_of_mem_documentRoutes hpaths (List.mem_filter.mp hroute).1
    · exact hbefore route hroute

/-! ## Pages at the API -/

variable {name : Text}

/-- What stands behind the head of the paths of pages is no document. -/
theorem avoids_documents (rest : Text) :
    ∀ fixed ∈ documentPaths, Avoids (pagesHead ++ rest) fixed :=
  have hheads : ∀ fixed ∈ documentPaths, ¬ pagesHead <+: fixed ++ ['\n'] := by decide
  fun fixed hfixed => avoids_of_head (hheads fixed hfixed) rest

theorem route_putPage (hne : name ≠ []) (hslash : '/' ∉ name) :
    route "PUT" (pagesHead ++ name) = .endpoint (.putPage name) := by
  have hroutes : pageRoutes.filter (·.methods.contains ("PUT" : Text)) = [] ++
      [{ methods := ["PUT"], endpoint? := fun path => (lastName? pagesHead path).map .putPage }] :=
    rfl
  refine route_eq_of_append (avoids_documents name) hroutes (List.forall_mem_nil _) ?_
  dsimp only
  rw [lastName?_append hne hslash]
  rfl

theorem route_getPage (hne : name ≠ []) (hslash : '/' ∉ name) :
    route "GET" (pagesHead ++ name) = .endpoint (.getPage name) := by
  -- The list of all pages is tried first, and its path has no name behind it.
  obtain ⟨rest, hroutes⟩ : ∃ rest, pageRoutes.filter (·.methods.contains ("GET" : Text)) =
      [.fixed ["GET"] "/api/v1/pages" .listPages] ++
        { methods := ["GET"], endpoint? := fun path => (lastName? pagesHead path).map .getPage } ::
        rest :=
    ⟨_, rfl⟩
  refine route_eq_of_append (avoids_documents name) hroutes ?_ ?_
  · intro route hroute
    obtain rfl := List.mem_singleton.mp hroute
    exact (avoids_of_head (by decide) name).endpoint?
  · dsimp only
    rw [lastName?_append hne hslash]
    rfl

theorem beforeEnd?_append (tail rest : Text) : beforeEnd? tail (rest ++ tail) = some rest := by
  unfold beforeEnd?
  rw [dropTail?_eq_some_iff.mpr rfl]
  rfl

theorem middleName?_append {head tail : Text} (hne : name ≠ []) (hslash : '/' ∉ name) :
    middleName? head tail (head ++ (name ++ tail)) = some name := by
  unfold middleName?
  rw [Text.dropPrefix?_eq_some_iff.mpr rfl, Option.bind_some, beforeEnd?_append, Option.bind_some]
  exact name?_eq_some_iff.mpr ⟨rfl, hne, hslash⟩

theorem route_rawPage (hne : name ≠ []) (hslash : '/' ∉ name) :
    route "GET" (pagesHead ++ (name ++ "/raw")) = .endpoint (.rawPage name) := by
  obtain ⟨rest, hroutes⟩ : ∃ rest, pageRoutes.filter (·.methods.contains ("GET" : Text)) =
      [.fixed ["GET"] "/api/v1/pages" .listPages,
        { methods := ["GET"], endpoint? := fun path => (lastName? pagesHead path).map .getPage }] ++
      { methods := ["GET"], endpoint? := fun path =>
          (middleName? pagesHead "/raw" path).map .rawPage } :: rest :=
    ⟨_, rfl⟩
  refine route_eq_of_append (avoids_documents _) hroutes ?_ ?_
  · intro route hroute
    simp only [List.mem_cons, List.not_mem_nil, or_false] at hroute
    obtain rfl | rfl := hroute
    · exact (avoids_of_head (by decide) _).endpoint?
    · rw [Option.map_eq_none_iff, Option.eq_none_iff_forall_ne_some]
      intro other hother
      obtain ⟨hpath, -, hnone⟩ := lastName?_eq_some_iff.mp hother
      rw [← List.append_cancel_left hpath] at hnone
      exact hnone (List.mem_append_right _ List.mem_cons_self)
  · dsimp only
    rw [middleName?_append hne hslash]
    rfl

/-! ## Pages elsewhere -/

/-- A path with one slash, at its head, does not fit a route with more. -/
theorem dropPrefix?_of_slash {head rest : Text} (hhead : '/' ∈ head) (hrest : '/' ∉ rest) :
    Text.dropPrefix? ('/' :: head) ('/' :: rest) = none := by
  rw [Option.eq_none_iff_forall_ne_some]
  intro tail htail
  rw [Text.dropPrefix?_eq_some_iff, List.cons_append, List.cons.injEq] at htail
  rw [htail.2] at hrest
  exact hrest (List.mem_append_left _ hhead)

/-- The routes of what is got that are tried before those of a page's form, source and view. -/
def getRoutes : List Route :=
  [.fixed ["GET"] "/api/v1/pages" .listPages,
   { methods := ["GET"], endpoint? := fun path => (lastName? pagesHead path).map .getPage },
   { methods := ["GET"],
     endpoint? := fun path => (middleName? pagesHead "/raw" path).map .rawPage },
   .fixed ["GET"] "/api/health" .health,
   .fixed ["GET"] "/" .home,
   .fixed ["GET"] "/_list" .listView]

/-- The fixed paths among them. -/
def fixedPaths : List Text := ["/api/v1/pages", "/api/health", "/", "/_list"]

theorem endpoint?_of_mem_getRoutes {path : Text} (hpages : Text.dropPrefix? pagesHead path = none)
    (hfixed : ∀ fixed ∈ fixedPaths, Avoids path fixed) {route : Route}
    (hroute : route ∈ getRoutes) : route.endpoint? path = none := by
  simp only [getRoutes, List.mem_cons, List.not_mem_nil, or_false] at hroute
  obtain rfl | rfl | rfl | rfl | rfl | rfl := hroute
  · exact (hfixed _ (by decide)).endpoint?
  · simp only [lastName?, hpages, Option.bind_none, Option.map_none]
  · simp only [middleName?, hpages, Option.bind_none, Option.map_none]
  · exact (hfixed _ (by decide)).endpoint?
  · exact (hfixed _ (by decide)).endpoint?
  · exact (hfixed _ (by decide)).endpoint?

/-- The address of a form is no fixed path. -/
theorem avoids_of_editHead (rest : Text) :
    ∀ fixed ∈ fixedPaths ++ documentPaths, Avoids ("/e/" ++ rest) fixed :=
  have hheads : ∀ fixed ∈ fixedPaths ++ documentPaths, ¬ ("/e/" : Text) <+: fixed ++ ['\n'] := by
    decide
  fun fixed hfixed => avoids_of_head (hheads fixed hfixed) rest

theorem route_editView (hne : name ≠ []) (hslash : '/' ∉ name) :
    route "GET" ("/e/" ++ name) = .endpoint (.editView name) := by
  obtain ⟨rest, hroutes⟩ : ∃ rest, pageRoutes.filter (·.methods.contains ("GET" : Text)) =
      getRoutes ++
        { methods := ["GET"],
          endpoint? := fun path => (lastName? "/e/" path).map .editView } :: rest :=
    ⟨_, rfl⟩
  have hfixed : ∀ fixed ∈ fixedPaths, Avoids ("/e/" ++ name) fixed :=
    fun fixed hmem => avoids_of_editHead name fixed (List.mem_append_left _ hmem)
  have hpaths : ∀ fixed ∈ documentPaths, Avoids ("/e/" ++ name) fixed :=
    fun fixed hmem => avoids_of_editHead name fixed (List.mem_append_right _ hmem)
  refine route_eq_of_append hpaths hroutes (fun route hroute => ?_) ?_
  · exact endpoint?_of_mem_getRoutes rfl hfixed hroute
  · dsimp only
    rw [lastName?_append hne hslash]
    rfl

theorem slash_mem_documentPaths : ∀ fixed ∈ documentPaths, '/' ∈ fixed.tail := by decide

theorem route_sourceView (hne : name ≠ []) (hslash : '/' ∉ name) :
    route "GET" ('/' :: (name ++ ".txt")) = .endpoint (.sourceView name) := by
  have hdot : '.' ∈ '/' :: (name ++ (".txt" : Text)) :=
    List.mem_cons_of_mem _ (List.mem_append_right _ List.mem_cons_self)
  have hrest : '/' ∉ name ++ (".txt" : Text) := fun h =>
    (List.mem_append.mp h).elim hslash (by decide)
  have hpages : Text.dropPrefix? pagesHead ('/' :: (name ++ (".txt" : Text))) = none :=
    dropPrefix?_of_slash (by decide : '/' ∈ ("api/v1/pages/" : Text)) hrest
  have hedit : Text.dropPrefix? "/e/" ('/' :: (name ++ (".txt" : Text))) = none :=
    dropPrefix?_of_slash (by decide : '/' ∈ ("e/" : Text)) hrest
  have hdots : ∀ fixed ∈ fixedPaths, '.' ∉ fixed ++ ['\n'] := by decide
  have hpaths : ∀ fixed ∈ documentPaths, Avoids ('/' :: (name ++ (".txt" : Text))) fixed :=
    fun fixed hmem => avoids_of_slash hrest (slash_mem_documentPaths fixed hmem)
  obtain ⟨rest, hroutes⟩ : ∃ rest, pageRoutes.filter (·.methods.contains ("GET" : Text)) =
      (getRoutes ++
      [{ methods := ["GET"], endpoint? := fun path => (lastName? "/e/" path).map .editView }]) ++
      { methods := ["GET"], endpoint? := fun path =>
          (middleName? "/" ".txt" path).map .sourceView } :: rest :=
    ⟨_, rfl⟩
  refine route_eq_of_append hpaths hroutes (fun route hroute => ?_) ?_
  · rcases List.mem_append.mp hroute with hroute | hroute
    · exact endpoint?_of_mem_getRoutes hpages
        (fun fixed hfixed => avoids_of_mem hdot (hdots fixed hfixed)) hroute
    · obtain rfl := List.mem_singleton.mp hroute
      simp only [lastName?, hedit, Option.bind_none, Option.map_none]
  · have hname : middleName? "/" ".txt" ('/' :: (name ++ ".txt")) = some name :=
      middleName?_append hne hslash
    dsimp only
    rw [hname]
    rfl

/-- Nothing without a dot ends in a fixed text with one. -/
theorem beforeEnd?_of_dot {tail s : Text} (htail : '.' ∈ tail) (hs : '.' ∉ s) :
    beforeEnd? tail s = none := by
  have hnone : ∀ tail : Text, '.' ∈ tail → dropTail? tail s = none := by
    intro tail htail
    rw [Option.eq_none_iff_forall_ne_some]
    rintro rest hrest
    rw [dropTail?_eq_some_iff] at hrest
    exact hs (hrest ▸ List.mem_append_right _ htail)
  unfold beforeEnd?
  rw [hnone tail htail, hnone (tail ++ ['\n']) (List.mem_append_left _ htail)]
  rfl

/-- A page is viewed by its name, unless a fixed path or the path of a source stands for it. -/
theorem route_pageView (hne : name ≠ []) (hslash : '/' ∉ name) (hdot : '.' ∉ name)
    (hhome : Avoids ('/' :: name) "/") (hlist : Avoids ('/' :: name) "/_list") :
    route "GET" ('/' :: name) = .endpoint (.pageView name) := by
  have hpages : Text.dropPrefix? pagesHead ('/' :: name) = none :=
    dropPrefix?_of_slash (by decide : '/' ∈ ("api/v1/pages/" : Text)) hslash
  have hedit : Text.dropPrefix? "/e/" ('/' :: name) = none :=
    dropPrefix?_of_slash (by decide : '/' ∈ ("e/" : Text)) hslash
  have hroot : Text.dropPrefix? "/" ('/' :: name) = some name := rfl
  have hsource : beforeEnd? ".txt" name = none := beforeEnd?_of_dot (by decide) hdot
  have hpaths : ∀ fixed ∈ documentPaths, Avoids ('/' :: name) fixed :=
    fun fixed hmem => avoids_of_slash hslash (slash_mem_documentPaths fixed hmem)
  have hfixed : ∀ fixed ∈ fixedPaths, Avoids ('/' :: name) fixed := by
    intro fixed hmem
    simp only [fixedPaths, List.mem_cons, List.not_mem_nil, or_false] at hmem
    obtain rfl | rfl | rfl | rfl := hmem
    · exact avoids_of_slash hslash (by decide)
    · exact avoids_of_slash hslash (by decide)
    · exact hhome
    · exact hlist
  have hroutes : pageRoutes.filter (·.methods.contains ("GET" : Text)) = (getRoutes ++
      [{ methods := ["GET"], endpoint? := fun path => (lastName? "/e/" path).map .editView },
       { methods := ["GET"], endpoint? := fun path =>
           (middleName? "/" ".txt" path).map .sourceView }]) ++
      [{ methods := ["GET"], endpoint? := fun path => (lastName? "/" path).map .pageView }] := rfl
  refine route_eq_of_append hpaths hroutes (fun route hroute => ?_) ?_
  · rcases List.mem_append.mp hroute with hroute | hroute
    · exact endpoint?_of_mem_getRoutes hpages hfixed hroute
    · simp only [List.mem_cons, List.not_mem_nil, or_false] at hroute
      obtain rfl | rfl := hroute
      · simp only [lastName?, hedit, Option.bind_none, Option.map_none]
      · simp only [middleName?, hroot, hsource, Option.bind_some, Option.bind_none,
          Option.map_none]
  · have hname : lastName? "/" ('/' :: name) = some name := lastName?_append hne hslash
    dsimp only
    rw [hname]
    rfl

theorem route_submit (hne : name ≠ []) (hslash : '/' ∉ name) :
    route "POST" ("/e/" ++ name) = .endpoint (.submit name) := by
  have hpaths : ∀ fixed ∈ documentPaths, Avoids ("/e/" ++ name) fixed :=
    fun fixed hmem => avoids_of_editHead name fixed (List.mem_append_right _ hmem)
  have hroutes : pageRoutes.filter (·.methods.contains ("POST" : Text)) =
      [.fixed ["POST"] "/api/v1/render" .preview] ++
        [{ methods := ["POST"], endpoint? := fun path => (lastName? "/e/" path).map .submit }] :=
    rfl
  refine route_eq_of_append hpaths hroutes ?_ ?_
  · intro route hroute
    obtain rfl := List.mem_singleton.mp hroute
    exact (avoids_of_head (by decide) name).endpoint?
  · dsimp only
    rw [lastName?_append hne hslash]
    rfl

/-! ## What leads to a write -/

variable {path : Text} {endpoint : Endpoint}

theorem exists_mem_filter {method : Text} (h : route method path = .endpoint endpoint) :
    ∃ route ∈ routes.filter (·.methods.contains method), route.endpoint? path = some endpoint := by
  obtain ⟨route, hroute, hmethod, hfits⟩ := exists_route h
  exact ⟨route, List.mem_filter.mpr ⟨hroute, List.contains_iff_mem.mpr hmethod⟩, hfits⟩

theorem putPage_of_route (h : route "PUT" path = .endpoint endpoint) :
    ∃ name, endpoint = .putPage name ∧ path = pagesHead ++ name ∧ name ≠ [] ∧ '/' ∉ name := by
  have hroutes : routes.filter (·.methods.contains ("PUT" : Text)) =
      [{ methods := ["PUT"], endpoint? := fun path => (lastName? pagesHead path).map .putPage }] :=
    rfl
  obtain ⟨route, hroute, hfits⟩ := exists_mem_filter h
  rw [hroutes] at hroute
  obtain rfl := List.mem_singleton.mp hroute
  obtain ⟨name, hname, rfl⟩ := Option.map_eq_some_iff.mp hfits
  exact ⟨name, rfl, lastName?_eq_some_iff.mp hname⟩

theorem submit_of_route (h : route "POST" ("/e/" ++ name) = .endpoint endpoint) :
    endpoint = .submit name ∧ name ≠ [] ∧ '/' ∉ name := by
  have hroutes : routes.filter (·.methods.contains ("POST" : Text)) =
      [.fixed ["POST"] "/api/v1/render" .preview,
       { methods := ["POST"], endpoint? := fun path => (lastName? "/e/" path).map .submit }] := rfl
  obtain ⟨route, hroute, hfits⟩ := exists_mem_filter h
  rw [hroutes] at hroute
  simp only [List.mem_cons, List.not_mem_nil, or_false] at hroute
  obtain rfl | rfl := hroute
  · have hfixed : Avoids ("/e/" ++ name) "/api/v1/render" := avoids_of_head (by decide) name
    rw [hfixed.endpoint?] at hfits
    cases hfits
  · obtain ⟨other, hother, rfl⟩ := Option.map_eq_some_iff.mp hfits
    obtain ⟨hpath, hne, hslash⟩ := lastName?_eq_some_iff.mp hother
    obtain rfl := List.append_cancel_left hpath
    exact ⟨rfl, hne, hslash⟩

end Taskbook.Site
