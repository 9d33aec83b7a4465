/-
  How the pages of a wiki come about.

  A request leaves the pages of its session alone, saves a page whose name one of the checks takes,
  or removes one (`respond_edits`). So what single saves and removals, and the ends of sessions, keep
  is kept by requests, imports and the start of the wiki, however they follow each other
  (`Built.keeps`): there is one page of each name (`Built.distinct`), and each name but that of the
  homepage passed one of the checks (`Built.known`).
-/
import Taskbook.Proofs.Import.Run
import Taskbook.Proofs.PageName.Check
import Taskbook.Proofs.Site.Session

namespace Taskbook.Site

open Http

variable {site : Site} {now : Nat} {request : Request} {settings : Settings} {store : Store}

/-! ## Steps of a session -/

/-- A name that passes the check at the API, or the one at the forms and at the import. -/
def Passes (name : Text) : Prop := PageName.FitsApi name ∨ PageName.FitsForms name

/-- A session leaves the pages alone, saves one or removes one. -/
inductive Edits (store : Store) : Store → Prop where
  | none : Edits store store
  | save (now : Nat) {name : Text} (content : Text) (hname : Passes name) :
      Edits store (store.save now name content).1
  | remove {name : Text} {later : Store} (h : store.remove? name = some later) : Edits store later

theorem putPage_edits (name : Text) : Edits site.store (site.putPage now request name).store := by
  unfold putPage
  split
  · exact .none
  · next hchecked =>
    obtain ⟨rfl, hname⟩ := checkName_eq_ok_iff.mp (eq_ok_of_checkBody hchecked)
    exact .save now _ (Or.inl (PageName.fitsApi_iff.mpr hname))

theorem deletePage_edits (name : Text) : Edits site.store (site.deletePage name).store := by
  unfold deletePage
  split
  · exact .none
  · next hremoved => exact .remove hremoved

theorem submit_edits (name : Text) : Edits site.store (site.submit now request name).store := by
  unfold submit
  split
  · exact .none
  · split
    · next haccepted =>
      dsimp only
      split <;> exact .save now _ (Or.inr (PageName.accepted_iff.mp haccepted))
    · exact .none

theorem handle_edits (endpoint : Endpoint) :
    Edits site.store (site.handle now request endpoint).store := by
  have hsame {answer : Answer} (h : answer.store = site.store) : Edits site.store answer.store :=
    h ▸ .none
  cases endpoint with
  | putPage name => exact putPage_edits name
  | deletePage name => exact deletePage_edits name
  | submit name => exact submit_edits name
  | getPage name => exact hsame (getPage_store name)
  | preview => exact hsame preview_store
  | editView name => exact hsame (editView_store _ name)
  | pageView name => exact hsame (pageView_store name)
  | _ => exact .none

theorem respond_edits (site : Site) (now : Nat) (request : Request) :
    Edits site.store (site.respond now request).store := by
  unfold respond
  split
  · exact handle_edits _
  all_goals exact .none

/-! ## Wikis that come about -/

/-- The stores of a wiki: it is empty at first, and then it is started, gets requests and has files
    imported, in any order. -/
inductive Built (settings : Settings) : Store → Prop where
  | empty : Built settings {}
  | start {store : Store} (h : Built settings store) (now : Nat) :
      Built settings (({ settings, store } : Site).seed now).store
  | answer {store : Store} (h : Built settings store) (remote : List (Text × Fetched)) (now : Nat)
      (request : Request) :
      Built settings (({ settings, store, remote } : Site).answer now request).1.store
  | fill {store later : Store} (h : Built settings store) (ground : Import.Ground)
      (arguments : List Text) (now : Nat)
      (hlater : (Import.runCommand ground arguments now (some store)).table = some later) :
      Built settings later

/-- The name of the homepage, or one that passes a check. -/
def Known (settings : Settings) (name : Text) : Prop := name = settings.homepage ∨ Passes name

/-- A property of stores that each step of a session and its end keep. -/
structure Kept (settings : Settings) (P : Store → Prop) : Prop where
  empty : P {}
  save : ∀ (store : Store) (now : Nat) (name content : Text), Known settings name → P store →
    P (store.save now name content).1
  remove : ∀ {store later : Store} {name : Text}, store.remove? name = some later → P store → P later
  commit : ∀ store : Store, P store → P store.commit
  rollback : ∀ store : Store, P store → P store.rollback

namespace Kept

variable {P : Store → Prop}

theorem edits (hkept : Kept settings P) {later : Store} (h : Edits store later) (hstore : P store) :
    P later := by
  cases h with
  | none => exact hstore
  | save now content hname => exact hkept.save _ now _ content (Or.inr hname) hstore
  | remove hremoved => exact hkept.remove hremoved hstore

theorem imports (hkept : Kept settings P) : Import.Keeps P where
  save store now name content haccepted :=
    hkept.save store now name content (Or.inr (Or.inr (PageName.accepted_iff.mp haccepted)))
  commit := hkept.commit

end Kept

theorem Built.keeps {P : Store → Prop} (hkept : Kept settings P) (h : Built settings store) :
    P store := by
  induction h with
  | empty => exact hkept.empty
  | @start store h now ih =>
    unfold seed
    split
    · exact ih
    · exact hkept.commit _ (hkept.save _ now _ welcome (Or.inl rfl) ih)
  | @answer store h remote now request ih =>
    have hedited := hkept.edits (respond_edits { settings, store, remote } now request) ih
    unfold Site.answer
    dsimp only
    split
    · exact hkept.commit _ hedited
    · exact hkept.rollback _ hedited
  | fill h ground arguments now hlater ih => exact Import.keeps_runCommand hkept.imports ih hlater

theorem kept_distinct (settings : Settings) : Kept settings Store.Distinct where
  empty := Store.distinct_empty
  save _ now name content _ h := h.save now name content
  remove hremoved h := h.remove hremoved
  commit _ h := h.commit
  rollback _ h := h.rollback

/-- There is one page of each name. -/
theorem Built.distinct (h : Built settings store) : store.Distinct :=
  h.keeps (kept_distinct settings)

theorem mem_of_mem_save {name content : Text} {entry : Entry}
    (hentry : entry ∈ (store.save now name content).1.entries) :
    entry.name = name ∨ entry ∈ store.entries := by
  by_cases hname : entry.name = name
  · exact Or.inl hname
  · have hothers := (store.agreesBut_save now name content).others
    have hmem : entry ∈ (store.save now name content).1.entries.filter (·.name ≠ name) :=
      List.mem_filter.mpr ⟨hentry, decide_eq_true hname⟩
    rw [hothers] at hmem
    exact Or.inr ((List.mem_filter.mp hmem).1)

theorem kept_known (settings : Settings) : Kept settings fun store =>
    (∀ entry ∈ store.entries, Known settings entry.name) ∧
      ∀ entry ∈ store.committed, Known settings entry.name where
  empty := ⟨nofun, nofun⟩
  save store now name content hname h := by
    refine ⟨fun entry hentry => ?_, ?_⟩
    · rcases mem_of_mem_save hentry with heq | hmem
      · exact heq ▸ hname
      · exact h.1 entry hmem
    · rw [(store.agreesBut_save now name content).committed]
      exact h.2
  remove hremoved h := by
    obtain ⟨removed, -, rfl⟩ := Option.map_eq_some_iff.mp hremoved
    exact ⟨fun entry hentry => h.1 entry ((List.mem_filter.mp hentry).1), h.2⟩
  commit _ h := ⟨h.1, h.1⟩
  rollback _ h := ⟨h.2, h.2⟩

/-- Each name is that of the homepage or passed a check. -/
theorem Built.known (h : Built settings store) {entry : Entry} (hentry : entry ∈ store.entries) :
    Known settings entry.name :=
  (h.keeps (kept_known settings)).1 entry hentry

end Taskbook.Site
