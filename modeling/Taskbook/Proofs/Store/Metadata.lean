/-
  Identifiers and times of pages.

  Each page that is made gets a number that no page before it had, whatever was removed or thrown
  away since, so no identifier is given twice (`numbers_inserts`, `id_injective`). A page comes from
  one making, whose number, name and time it keeps (`Traced`). What else it has it has from its
  saves, those aside that were thrown away: `History` has them as the store has its pages, and
  `MadeBy` says which of them made the page, which only met it and which changed it last.

  What one action does is said once (`Step`). Each invariant is shown for one step and from it, by
  induction on the actions, for a session (`traced_performAll`, `told_performAll`,
  `timely_performAll`).
-/
import Taskbook.Html.CharacterReference
import Taskbook.Proofs.Store.Maps

namespace Taskbook

/-! ## Identifiers -/

namespace Text

theorem hexValue?_digitChar : ∀ n < 16, hexValue? (Nat.digitChar n) = some n := by decide

theorem hexNumeral_append (s t : Text) :
    Html.hexNumeral (s ++ t) =
      t.foldl (fun n c => 16 * n + (hexValue? c).getD 0) (Html.hexNumeral s) :=
  List.foldl_append

theorem hexNumeral_toDigits (n : Nat) : Html.hexNumeral (Nat.toDigits 16 n) = n := by
  induction n using Nat.strongRecOn with
  | ind n ih =>
    rw [Nat.toDigits_eq_if (by decide)]
    split
    · next hsmall => simp [Html.hexNumeral, hexValue?_digitChar n hsmall]
    · next hlarge =>
      rw [hexNumeral_append, ih (n / 16) (by omega), List.foldl_cons, List.foldl_nil,
        hexValue?_digitChar _ (Nat.mod_lt n (by decide)), Option.getD_some]
      omega

theorem hexNumeral_replicate (k : Nat) : Html.hexNumeral (List.replicate k '0') = 0 := by
  induction k with
  | zero => rfl
  | succ k ih =>
    rw [List.replicate_succ', hexNumeral_append, ih]
    rfl

/-- Digits are read as the number they were written for. -/
theorem hexNumeral_hexPadded (width n : Nat) : Html.hexNumeral (hexPadded width n) = n := by
  unfold hexPadded
  rw [hexNumeral_append, hexNumeral_replicate]
  exact hexNumeral_toDigits n

end Text

namespace Entry

variable {entry other : Entry}

/-- Pages with one identifier have one number. -/
theorem number_eq_of_id (h : entry.id = other.id) : entry.number = other.number := by
  have hdigits : Text.hexPadded 12 entry.number = Text.hexPadded 12 other.number := by
    unfold id at h
    exact List.append_cancel_left h
  rw [← Text.hexNumeral_hexPadded 12 entry.number, hdigits, Text.hexNumeral_hexPadded]

/-- What a page keeps as long as it is there: its number, its name and the time it was made. -/
def birth (entry : Entry) : Nat × Text × Nat := (entry.number, entry.name, entry.created)

end Entry

namespace Store

variable {store later : Store} {name : Text} {entry : Entry} {action : Action} {reply : Reply}

theorem nodup_ids {entries : List Entry} (h : (entries.map Entry.number).Nodup) :
    (entries.map Entry.id).Nodup := by
  refine List.Nodup.map_on (fun entry hentry other hother hid => ?_) (List.Nodup.of_map _ h)
  exact List.inj_on_of_nodup_map h hentry hother (Entry.number_eq_of_id hid)

/-! ## What one action does -/

/-- Whether an action leaves everything as it is. -/
def Action.looks : Action → Bool
  | .find _ | .findOrNone _ | .list | .snapshot => true
  | _ => false

/-- An action, its reply and the store behind it. -/
inductive Step (store : Store) : Action → Reply → Store → Prop where
  | insert {now : Nat} {name content : Text} (h : store.find? name = none) :
    Step store (.save now name content) (.page (store.create now name content).2)
      (store.create now name content).1
  | edit {now : Nat} {entry : Entry} {content : Text} (h : store.find? entry.name = some entry)
      (hcontent : entry.content ≠ content) :
    Step store (.save now entry.name content) (.page (store.replace now entry content).2)
      (store.replace now entry content).1
  | same {now : Nat} {entry : Entry} (h : store.find? entry.name = some entry) :
    Step store (.save now entry.name entry.content) (.page entry) store
  | remove {name : Text} {later : Store} (h : store.remove? name = some later) :
    Step store (.remove name) .done later
  | miss {name : Text} : Step store (.remove name) (.unknown (unknownPage name)) store
  | commit : Step store .commit .done store.commit
  | rollback : Step store .rollback .done store.rollback
  | look {action : Action} {reply : Reply} (h : action.looks) : Step store action reply store

theorem save_of_none {now : Nat} {content : Text} (h : store.find? name = none) :
    store.save now name content = store.create now name content := by
  rw [save, h]

theorem save_of_changed {now : Nat} {content : Text} (h : store.find? entry.name = some entry)
    (hcontent : entry.content ≠ content) :
    store.save now entry.name content = store.replace now entry content := by
  rw [save, h]
  exact if_neg hcontent

/-- To save the content that a page has already changes nothing. -/
theorem save_same (now : Nat) (h : store.find? entry.name = some entry) :
    store.save now entry.name entry.content = (store, entry) := by
  rw [save, h]
  exact if_pos rfl

theorem step_perform (store : Store) (action : Action) :
    store.Step action (store.perform action).2 (store.perform action).1 := by
  cases action with
  | save now name content =>
    change store.Step _ (.page (store.save now name content).2) (store.save now name content).1
    cases hfind : store.find? name with
    | none =>
      rw [save_of_none hfind]
      exact .insert hfind
    | some entry =>
      obtain rfl := name_of_find? hfind
      by_cases hcontent : entry.content = content
      · subst hcontent
        rw [save_same now hfind]
        exact .same hfind
      · rw [save_of_changed hfind hcontent]
        exact .edit hfind hcontent
  | remove name =>
    cases hremove : store.remove? name with
    | none =>
      rw [show store.perform (.remove name) = (store, .unknown (unknownPage name)) by
        rw [perform, hremove]]
      exact .miss
    | some later =>
      rw [show store.perform (.remove name) = (later, .done) by rw [perform, hremove]]
      exact .remove hremove
  | find name => exact .look rfl
  | findOrNone name => exact .look rfl
  | list => exact .look rfl
  | snapshot => exact .look rfl
  | commit => exact .commit
  | rollback => exact .rollback

/-- The pages as the session sees them and as they were committed. -/
def pages (store : Store) : List Entry := store.entries ++ store.committed

/-- A page behind a step was there before it, or it is what the step answers. -/
theorem Step.mem_pages (h : store.Step action reply later) {page : Entry}
    (hpage : page ∈ later.pages) : page ∈ store.pages ∨ reply = .page page := by
  unfold pages at hpage ⊢
  rw [List.mem_append] at hpage ⊢
  cases h with
  | insert =>
    rw [create, List.mem_append, List.mem_singleton] at hpage
    obtain (hpage | rfl) | hpage := hpage
    · exact .inl (.inl hpage)
    · exact .inr rfl
    · exact .inl (.inr hpage)
  | edit =>
    rw [replace, List.mem_map] at hpage
    obtain ⟨old, hold, rfl⟩ | hpage := hpage
    · split
      · exact .inr rfl
      · exact .inl (.inl hold)
    · exact .inl (.inr hpage)
  | same => exact .inl hpage
  | remove hremove =>
    obtain ⟨-, -, rfl⟩ := Option.map_eq_some_iff.mp hremove
    exact .inl (hpage.imp_left List.mem_of_mem_filter)
  | miss => exact .inl hpage
  | commit => exact .inl (.inl (or_self_iff.mp hpage))
  | rollback => exact .inl (.inr (or_self_iff.mp hpage))
  | look => exact .inl hpage

theorem mem_pages_of_find? (h : store.find? name = some entry) : entry ∈ store.pages :=
  List.mem_append_left _ (List.mem_of_find?_eq_some h)

/-! ## The makings of pages -/

/-- The page that an action makes, if it makes one. -/
def insert? (store : Store) : Action → Option Entry
  | .save now name content =>
    if store.find? name = none then some (store.save now name content).2 else none
  | _ => none

/-- The pages that actions make, one after another. -/
def inserts (store : Store) : List Action → List Entry
  | [] => []
  | action :: rest => (store.insert? action).toList ++ (store.perform action).1.inserts rest

/-- The pages that were made so far have the first numbers, and each page comes from one of them. -/
structure Traced (store : Store) (made : List Entry) : Prop where
  numbers : made.map Entry.number = List.range' 1 store.issued
  births : ∀ page ∈ store.pages, page.birth ∈ made.map Entry.birth

theorem traced_empty : ({} : Store).Traced [] where
  numbers := rfl
  births _ hpage := absurd hpage List.not_mem_nil

theorem insert?_of_some {now : Nat} {content : Text} (h : store.find? name = some entry) :
    store.insert? (.save now name content) = none := by
  rw [insert?, h]
  exact if_neg (Option.some_ne_none _)

theorem insert?_of_none {now : Nat} {content : Text} (h : store.find? name = none) :
    store.insert? (.save now name content) = some (store.create now name content).2 := by
  rw [insert?, if_pos h, save_of_none h]

/-- A step that makes no page answers only with pages that keep what they had. -/
theorem Step.birth_of_insert?_eq_none (h : store.Step action reply later)
    (hinsert : store.insert? action = none) :
    later.issued = store.issued ∧
      ∀ page ∈ later.pages, ∃ old ∈ store.pages, old.birth = page.birth := by
  have hold : ∀ {page : Entry}, page ∈ store.pages → ∃ old ∈ store.pages, old.birth = page.birth :=
    fun hpage => ⟨_, hpage, rfl⟩
  refine ⟨?_, fun page hpage => (h.mem_pages hpage).elim hold fun hreply => ?_⟩
  · cases h with
    | insert hfind => exact absurd hinsert (insert?_of_none hfind ▸ Option.some_ne_none _)
    | remove hremove =>
      obtain ⟨-, -, rfl⟩ := Option.map_eq_some_iff.mp hremove
      rfl
    | edit | same | miss | commit | rollback | look => rfl
  · cases h with
    | insert hfind => exact absurd hinsert (insert?_of_none hfind ▸ Option.some_ne_none _)
    | edit hfind =>
      cases hreply
      exact ⟨_, mem_pages_of_find? hfind, rfl⟩
    | same hfind =>
      cases hreply
      exact hold (mem_pages_of_find? hfind)
    | remove | miss | commit | rollback => cases hreply
    | look => exact hold hpage

theorem insert?_eq_some {new : Entry} (h : store.insert? action = some new) :
    ∃ now name content, action = .save now name content ∧ store.find? name = none ∧
      new = (store.create now name content).2 := by
  cases action with
  | save now name content =>
    cases hfind : store.find? name with
    | none =>
      rw [insert?_of_none hfind] at h
      exact ⟨now, name, content, rfl, hfind, (Option.some.inj h).symm⟩
    | some entry =>
      rw [insert?_of_some hfind] at h
      cases h
  | find | findOrNone | remove | list | snapshot | commit | rollback => cases h

theorem Traced.perform {made : List Entry} (h : store.Traced made) (action : Action) :
    (store.perform action).1.Traced (made ++ (store.insert? action).toList) := by
  cases hinsert : store.insert? action with
  | none =>
    obtain ⟨hissued, hbirths⟩ := (store.step_perform action).birth_of_insert?_eq_none hinsert
    rw [Option.toList_none, List.append_nil]
    refine ⟨hissued ▸ h.numbers, fun page hpage => ?_⟩
    obtain ⟨old, hold, hbirth⟩ := hbirths page hpage
    exact hbirth ▸ h.births old hold
  | some new =>
    obtain ⟨now, name, content, rfl, hfind, rfl⟩ := insert?_eq_some hinsert
    have hperform : (store.perform (.save now name content)).1 =
        (store.create now name content).1 :=
      congrArg Prod.fst (save_of_none hfind)
    rw [hperform, Option.toList_some]
    constructor
    · rw [List.map_append, h.numbers]
      simp [create, List.range'_1_concat, Nat.add_comm]
    · intro page hpage
      rw [List.map_append, List.mem_append]
      rw [pages, create, List.mem_append, List.mem_append, List.mem_singleton] at hpage
      obtain (hpage | rfl) | hpage := hpage
      · exact .inl (h.births page (List.mem_append_left _ hpage))
      · exact .inr (List.mem_singleton_self _)
      · exact .inl (h.births page (List.mem_append_right _ hpage))

theorem Traced.performAll {made : List Entry} (h : store.Traced made) (actions : List Action) :
    (store.performAll actions).1.Traced (made ++ store.inserts actions) := by
  induction actions generalizing store made with
  | nil =>
    rw [inserts, List.append_nil]
    exact h
  | cons action rest ih =>
    rw [inserts, ← List.append_assoc]
    exact ih (h.perform action)

theorem Traced.nodup_numbers {made : List Entry} (h : store.Traced made) :
    (made.map Entry.number).Nodup := by
  rw [h.numbers]
  exact List.nodup_range'

/-- Pages of one number come from one making. -/
theorem Traced.birth_eq_of_number {made : List Entry} (h : store.Traced made) {page page' : Entry}
    (hpage : page ∈ store.pages) (hpage' : page' ∈ store.pages)
    (hnumber : page.number = page'.number) : page.birth = page'.birth := by
  obtain ⟨new, hnew, hbirth⟩ := List.mem_map.mp (h.births page hpage)
  obtain ⟨new', hnew', hbirth'⟩ := List.mem_map.mp (h.births page' hpage')
  have hsame : new.number = new'.number := by
    rw [(Prod.mk.inj hbirth).1, (Prod.mk.inj hbirth').1, hnumber]
  rw [← hbirth, ← hbirth', List.inj_on_of_nodup_map h.nodup_numbers hnew hnew' hsame]

theorem Traced.nodup_ids {made : List Entry} (h : store.Traced made) (hdistinct : store.Distinct) :
    (store.entries.map Entry.id).Nodup := by
  refine List.Nodup.map_on (fun page hpage page' hpage' hid => ?_)
    (List.Nodup.of_map _ hdistinct.entries)
  have hbirth := h.birth_eq_of_number (List.mem_append_left _ hpage) (List.mem_append_left _ hpage')
    (Entry.number_eq_of_id hid)
  exact List.inj_on_of_nodup_map hdistinct.entries hpage hpage'
    (Prod.mk.inj (Prod.mk.inj hbirth).2).1

/-! ## The saves of a page -/

/-- A save, with the page it was answered with. -/
structure Write where
  now : Nat
  content : Text
  answer : Entry

/-- The saves of a name since it was last removed, one step on. -/
def note (name : Text) (writes : List Write) : Action × Reply → List Write
  | (.save now other content, .page entry) =>
    if other = name then writes ++ [{ now, content, answer := entry }] else writes
  | (.remove other, .done) => if other = name then [] else writes
  | _ => writes

/-- The saves of a name since it was last removed. -/
def writesOf (name : Text) (steps : List (Action × Reply)) : List Write :=
  steps.foldl (note name) []

/-- The actions with their replies, those aside that were thrown away: what led to the pages as the
    session sees them, and what led to those that were committed. -/
structure History where
  working : List (Action × Reply) := []
  committed : List (Action × Reply) := []

namespace History

def after (past : History) (action : Action) (reply : Reply) : History :=
  match action with
  | .commit => { past with committed := past.working }
  | .rollback => { past with working := past.committed }
  | _ => { past with working := past.working ++ [(action, reply)] }

/-- The history behind actions on a store. -/
def afterAll (past : History) (store : Store) : List Action → History
  | [] => past
  | action :: rest =>
    (past.after action (store.perform action).2).afterAll (store.perform action).1 rest

end History

/-- The saves made the page what it is: it was made at the time of the first one, all of them
    answered with its number, its name and that time, and it was changed last by the last one that
    has another content than the one in front of it. -/
structure MadeBy (entry : Entry) (writes : List Write) : Prop where
  first : writes.head?.map Write.now = some entry.created
  kept : ∀ write ∈ writes, write.answer.birth = entry.birth
  changed : ∃ before last after, writes = before ++ last :: after ∧ last.now = entry.updated ∧
    last.content = entry.content ∧ (∀ write ∈ after, write.content = entry.content) ∧
    ∀ write ∈ before.getLast?, write.content ≠ entry.content

/-- What the saves of a name say of its page. A name without a page has none. -/
def Accounts : Option Entry → List Write → Prop
  | some entry, writes => MadeBy entry writes
  | none, writes => writes = []

/-- The history accounts for the pages that the session sees and for those that were committed. -/
structure Told (store : Store) (past : History) : Prop where
  working : ∀ name, Accounts (store.find? name) (writesOf name past.working)
  committed : ∀ name, Accounts (store.rollback.find? name) (writesOf name past.committed)

theorem told_empty : ({} : Store).Told {} where
  working _ := rfl
  committed _ := rfl

namespace MadeBy

variable {writes : List Write}

/-- The first save makes the page. -/
theorem create (store : Store) (now : Nat) (name content : Text) :
    MadeBy (store.create now name content).2
      [{ now, content, answer := (store.create now name content).2 }] where
  first := rfl
  kept write hwrite := by rw [List.mem_singleton.mp hwrite]
  changed := ⟨[], _, [], rfl, rfl, rfl, by simp, by simp⟩

/-- A save of the content that the page has is none that changed it. -/
theorem same (h : MadeBy entry writes) (now : Nat) :
    MadeBy entry (writes ++ [{ now, content := entry.content, answer := entry }]) where
  first := by
    rw [List.head?_append, Option.map_or, h.first]
    rfl
  kept write hwrite := by
    obtain hwrite | hwrite := List.mem_append.mp hwrite
    · exact h.kept write hwrite
    · rw [List.mem_singleton.mp hwrite]
  changed := by
    obtain ⟨before, last, after, hwrites, hnow, hcontent, hafter, hbefore⟩ := h.changed
    refine ⟨before, last, after ++ [{ now, content := entry.content, answer := entry }], ?_, hnow,
      hcontent, fun write hwrite => ?_, hbefore⟩
    · rw [hwrites, List.append_assoc, List.cons_append]
    · obtain hwrite | hwrite := List.mem_append.mp hwrite
      · exact hafter write hwrite
      · rw [List.mem_singleton.mp hwrite]

/-- A save of another content is the last one that changed the page. -/
theorem replace (h : MadeBy entry writes) (store : Store) (now : Nat) {content : Text}
    (hcontent : entry.content ≠ content) :
    MadeBy (store.replace now entry content).2
      (writes ++ [{ now, content, answer := (store.replace now entry content).2 }]) where
  first := by
    rw [List.head?_append, Option.map_or, h.first]
    rfl
  kept write hwrite := by
    obtain hwrite | hwrite := List.mem_append.mp hwrite
    · exact h.kept write hwrite
    · rw [List.mem_singleton.mp hwrite]
  changed := by
    refine ⟨writes, _, [], rfl, rfl, rfl, by simp, fun write hwrite => ?_⟩
    obtain ⟨before, last, after, rfl, -, hlast, hafter, -⟩ := h.changed
    rw [List.getLast?_append_of_ne_nil _ (List.cons_ne_nil last after)] at hwrite
    obtain rfl | hmem := List.mem_cons.mp (List.mem_of_getLast? hwrite)
    · exact hlast ▸ hcontent
    · exact hafter write hmem ▸ hcontent

end MadeBy

theorem writesOf_append (name : Text) (steps : List (Action × Reply)) (step : Action × Reply) :
    writesOf name (steps ++ [step]) = note name (writesOf name steps) step := by
  rw [writesOf, List.foldl_append]
  rfl

theorem note_save_self (name : Text) (writes : List Write) (now : Nat) (content : Text)
    (entry : Entry) : note name writes (.save now name content, .page entry) =
      writes ++ [{ now, content, answer := entry }] := if_pos rfl

theorem note_save_of_ne {other : Text} (hother : other ≠ name) (writes : List Write) (now : Nat)
    (content : Text) (entry : Entry) :
    note other writes (.save now name content, .page entry) = writes := if_neg hother.symm

theorem note_look (name : Text) (writes : List Write) (h : action.looks) (reply : Reply) :
    note name writes (action, reply) = writes := by
  cases action with
  | find | findOrNone | list | snapshot => rfl
  | save | remove | commit | rollback => cases h

/-- A step that commits nothing, changes the page of one name at most and is noted for that name
    alone. -/
theorem Told.of_agreesBut {past : History} (h : store.Told past)
    (hagrees : store.AgreesBut name later)
    (hafter : past.after action reply = { past with working := past.working ++ [(action, reply)] })
    (hself : Accounts (later.find? name) (note name (writesOf name past.working) (action, reply)))
    (hothers : ∀ other, other ≠ name → ∀ writes, note other writes (action, reply) = writes) :
    later.Told (past.after action reply) := by
  rw [hafter]
  constructor
  · intro other
    rw [writesOf_append]
    by_cases hother : other = name
    · exact hother ▸ hself
    · rw [hothers other hother, find?_of_filter hagrees.others hother]
      exact h.working other
  · intro other
    have hcommitted : later.rollback.find? other = store.rollback.find? other := by
      unfold find? rollback
      rw [hagrees.committed]
    rw [hcommitted]
    exact h.committed other

theorem Told.step {past : History} (h : store.Told past) (hstep : store.Step action reply later) :
    later.Told (past.after action reply) := by
  cases hstep with
  | @insert now name content hfind =>
    refine h.of_agreesBut (store.agreesBut_create now name content) rfl ?_
      fun other hother writes => note_save_of_ne hother writes now content _
    have hnone : writesOf name past.working = [] := by simpa [Accounts, hfind] using h.working name
    have hnew := store.find?_save now name content
    rw [save_of_none hfind] at hnew
    rw [hnew, note_save_self, hnone]
    exact MadeBy.create store now name content
  | @edit now entry content hfind hcontent =>
    refine h.of_agreesBut (store.agreesBut_replace now content entry) rfl ?_
      fun other hother writes => note_save_of_ne hother writes now content _
    have hmade : MadeBy entry (writesOf entry.name past.working) := by
      simpa [Accounts, hfind] using h.working entry.name
    rw [find?_replace now content hfind, note_save_self]
    exact hmade.replace store now hcontent
  | @same now entry hfind =>
    refine h.of_agreesBut (store.agreesBut_self entry.name) rfl ?_
      fun other hother writes => note_save_of_ne hother writes now _ _
    have hmade : MadeBy entry (writesOf entry.name past.working) := by
      simpa [Accounts, hfind] using h.working entry.name
    rw [hfind, note_save_self]
    exact hmade.same now
  | @remove name _ hremove =>
    refine h.of_agreesBut (agreesBut_of_remove? hremove) rfl ?_
      fun other hother writes => if_neg hother.symm
    have hnone : later.find? name = none := by
      have hcontent := contentOf?_of_remove? hremove name
      rw [if_pos rfl] at hcontent
      exact Option.map_eq_none_iff.mp hcontent
    rw [hnone]
    exact if_pos rfl
  | @miss name =>
    exact h.of_agreesBut (store.agreesBut_self name) rfl (h.working name) fun _ _ _ => rfl
  | commit => exact ⟨h.working, h.working⟩
  | rollback => exact ⟨h.committed, h.committed⟩
  | look hlooks =>
    have hafter : past.after action reply =
        { past with working := past.working ++ [(action, reply)] } := by
      cases action with
      | find | findOrNone | list | snapshot => rfl
      | save | remove | commit | rollback => cases hlooks
    refine h.of_agreesBut (store.agreesBut_self []) hafter ?_
      fun other _ writes => note_look other writes hlooks reply
    rw [note_look _ _ hlooks]
    exact h.working []

theorem Told.performAll {past : History} (h : store.Told past) (actions : List Action) :
    (store.performAll actions).1.Told (past.afterAll store actions) := by
  induction actions generalizing store past with
  | nil => exact h
  | cons action rest ih => exact ih (h.step (store.step_perform action))

/-! ## Times -/

/-- The time that an action carries. -/
def Action.time? : Action → Option Nat
  | .save now _ _ => some now
  | _ => none

/-- No page was changed before it was made, and none after a moment. -/
def Timely (store : Store) (moment : Nat) : Prop :=
  ∀ page ∈ store.pages, page.created ≤ page.updated ∧ page.updated ≤ moment

theorem timely_empty : ({} : Store).Timely 0 := fun _ hpage => absurd hpage List.not_mem_nil

theorem Timely.step {moment : Nat} (h : store.Timely moment) (hstep : store.Step action reply later)
    (htime : ∀ now ∈ action.time?, moment ≤ now) : later.Timely (action.time?.getD moment) := by
  have hlater : moment ≤ action.time?.getD moment := by
    cases htime? : action.time? with
    | none => exact Nat.le_refl moment
    | some now => exact htime now htime?
  have hold : ∀ page ∈ store.pages,
      page.created ≤ page.updated ∧ page.updated ≤ action.time?.getD moment :=
    fun page hpage => ⟨(h page hpage).1, (h page hpage).2.trans hlater⟩
  refine fun page hpage => (hstep.mem_pages hpage).elim (hold page) fun hreply => ?_
  cases hstep with
  | insert =>
    cases hreply
    exact ⟨Nat.le_refl _, Nat.le_refl _⟩
  | edit hfind =>
    cases hreply
    obtain ⟨hcreated, hupdated⟩ := hold _ (mem_pages_of_find? hfind)
    exact ⟨hcreated.trans hupdated, Nat.le_refl _⟩
  | same hfind =>
    cases hreply
    exact hold _ (mem_pages_of_find? hfind)
  | remove | miss | commit | rollback => cases hreply
  | look => exact hold page hpage

theorem timely_performAll {moment : Nat} (h : store.Timely moment) (actions : List Action)
    (hclock : (moment :: actions.filterMap Action.time?).Pairwise (· ≤ ·)) :
    ∃ last, (store.performAll actions).1.Timely last := by
  induction actions generalizing store moment with
  | nil => exact ⟨moment, h⟩
  | cons action rest ih =>
    have hstep := store.step_perform action
    rw [List.filterMap_cons] at hclock
    cases htime : action.time? with
    | none =>
      rw [htime] at hclock
      have hnext := h.step hstep (by simp [htime])
      rw [htime] at hnext
      exact ih hnext hclock
    | some now =>
      rw [htime] at hclock
      obtain ⟨hbefore, hrest⟩ := List.pairwise_cons.mp hclock
      have hnext := h.step hstep (by simpa [htime] using hbefore now (by simp))
      rw [htime] at hnext
      exact ih hnext hrest

/-! ## Sessions -/

/-- A session on an empty store, whatever it does in which order while its clock does not go back,
    has at each moment one page of each name and one of each identifier, and no number, so no
    identifier either, is given to two of the pages it makes, those included that are removed or
    thrown away. Each page has the number, the name and the time of one making, and its time of
    change is not before that time. The saves of a name since it was last removed, those aside that
    were thrown away, are none exactly if it has no page; else they made the page what it is
    (`MadeBy`): the first one gives the time it was made, all of them answer with its number and
    that time, and the last one that changed its content gives the time it was changed. To save the
    content that a page has already changes nothing. -/
theorem metadata_of_session (actions : List Action) (store : Store) (past : History)
    (hstore : store = (performAll {} actions).1) (hpast : past = History.afterAll {} {} actions)
    (hclock : (actions.filterMap Action.time?).Pairwise (· ≤ ·)) :
    ((store.entries.map Entry.name).Nodup ∧ (store.entries.map Entry.id).Nodup) ∧
    (((inserts {} actions).map Entry.number).Nodup ∧ ((inserts {} actions).map Entry.id).Nodup) ∧
    (∀ entry ∈ store.entries, entry.birth ∈ (inserts {} actions).map Entry.birth ∧
      entry.created ≤ entry.updated ∧ MadeBy entry (writesOf entry.name past.working) ∧
      ∀ now, store.save now entry.name entry.content = (store, entry)) ∧
    ∀ name, writesOf name past.working = [] ↔ store.find? name = none := by
  have hdistinct : store.Distinct := hstore ▸ distinct_performAll actions
  have htraced : store.Traced (inserts {} actions) := hstore ▸ traced_empty.performAll actions
  have htold : store.Told past := by
    rw [hstore, hpast]
    exact told_empty.performAll actions
  have htimely : ∃ last, store.Timely last := by
    rw [hstore]
    exact timely_performAll timely_empty actions
      (List.pairwise_cons.mpr ⟨fun _ _ => Nat.zero_le _, hclock⟩)
  refine ⟨⟨hdistinct.entries, htraced.nodup_ids hdistinct⟩,
    ⟨htraced.nodup_numbers, nodup_ids htraced.nodup_numbers⟩, fun entry hentry => ?_,
    fun name => ?_⟩
  · have hpage : entry ∈ store.pages := List.mem_append_left _ hentry
    have hfind : store.find? entry.name = some entry := hdistinct.find?_of_mem hentry
    obtain ⟨last, hlast⟩ := htimely
    have hmade : Accounts (some entry) (writesOf entry.name past.working) :=
      hfind ▸ htold.working entry.name
    exact ⟨htraced.births entry hpage, (hlast entry hpage).1, hmade,
      fun now => save_same now hfind⟩
  · have haccounts := htold.working name
    cases hfind : store.find? name with
    | none =>
      rw [hfind] at haccounts
      exact iff_of_true haccounts rfl
    | some entry =>
      rw [hfind] at haccounts
      refine iff_of_false (fun hnone => ?_) (Option.some_ne_none entry)
      have hfirst := haccounts.first
      rw [hnone] at hfirst
      cases hfirst

/-- A page is made, saved as it is, committed, removed and made anew; what comes after the second
    commit is thrown away, a third page among it. -/
def mixedSession : List Action :=
  [.save 1 "A" "a", .save 2 "A" "a", .commit, .remove "A", .save 4 "A" "b", .save 5 "A" "b",
    .save 6 "A" "c", .save 9 "A" "c", .commit, .save 10 "A" "d", .save 10 "B" "x", .rollback,
    .save 12 "B" "y"]

/-- The page that is there behind the session has the second number and the times of the fifth and
    the seventh action. -/
theorem metadata_of_mixedSession :
    (mixedSession.filterMap Action.time?).Pairwise (· ≤ ·) ∧
    (performAll {} mixedSession).1.entries = [
      { number := 2, name := "A", content := "c", created := 4, updated := 6 },
      { number := 4, name := "B", content := "y", created := 12, updated := 12 }] ∧
    ((inserts {} mixedSession).map Entry.id).Nodup ∧
    ∀ entry ∈ (performAll {} mixedSession).1.entries,
      MadeBy entry (writesOf entry.name (History.afterAll {} {} mixedSession).working) := by
  have hclock : (mixedSession.filterMap Action.time?).Pairwise (· ≤ ·) := by decide
  obtain ⟨-, ⟨-, hids⟩, hentries, -⟩ := metadata_of_session mixedSession _ _ rfl rfl hclock
  exact ⟨hclock, by decide, hids, fun entry hentry => (hentries entry hentry).2.2.1⟩

end Store

end Taskbook
