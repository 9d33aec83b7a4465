/-
  The store as two maps from names to contents.

  What a session sees is one map, and what was committed is another (`Refines`). Each action of a
  session does to the two maps what `PageMaps.after` says and answers as they say
  (`refines_perform`): saving sets a name, removing takes a name away or finds none, committing and
  rolling back copy one map over the other, and the rest only looks. From this follows the same of
  all sequences of actions (`session_is_two_maps`, by induction on the actions).
-/
import Mathlib.Data.Finmap
import Taskbook.Proofs.Store.Names

namespace Taskbook

/-! ## Sessions -/

/-- What a session asks of its store; what saves carries the time. -/
inductive Store.Action where
  | save (now : Nat) (name content : Text)
  | find (name : Text)
  | findOrNone (name : Text)
  | remove (name : Text)
  | list
  | snapshot
  | commit
  | rollback
  deriving DecidableEq, Repr

/-- What the store answers. -/
inductive Store.Reply where
  | done
  | page (entry : Entry)
  | none
  /-- There is no page of the name that was given; the message says so. -/
  | unknown (message : Text)
  | pages (entries : List Entry)
  | notebook (book : Notebook)

namespace Store

/-- A page, or what stands for a page that is not there. -/
def replyOf (found : Option Entry) (otherwise : Reply) : Reply :=
  match found with
  | some entry => .page entry
  | .none => otherwise

/-- One action. -/
def perform (store : Store) : Action → Store × Reply
  | .save now name content =>
    let (later, entry) := store.save now name content
    (later, .page entry)
  | .find name => (store, replyOf (store.find? name) (.unknown (unknownPage name)))
  | .findOrNone name => (store, replyOf (store.find? name) .none)
  | .remove name =>
    match store.remove? name with
    | some later => (later, .done)
    | .none => (store, .unknown (unknownPage name))
  | .list => (store, .pages store.listing)
  | .snapshot => (store, .notebook store.notebook)
  | .commit => (store.commit, .done)
  | .rollback => (store.rollback, .done)

/-- Actions one after another, with the replies in the same order. -/
def performAll (store : Store) : List Action → Store × List Reply
  | [] => (store, [])
  | action :: rest =>
    let (later, reply) := store.perform action
    let (last, replies) := later.performAll rest
    (last, reply :: replies)

end Store

/-! ## Two maps -/

/-- Contents by names. -/
abbrev PageMap := Finmap fun _ : Text => Text

/-- The pages show each name of the map once, with its content, and no other name. -/
structure PageMap.ShownBy (map : PageMap) (pages : List (Text × Text)) : Prop where
  once : (pages.map Prod.fst).Nodup
  mem_iff : ∀ name content, (name, content) ∈ pages ↔ map.lookup name = some content

theorem PageMap.ShownBy.of_perm {map : PageMap} {pages pages' : List (Text × Text)}
    (h : map.ShownBy pages) (hperm : pages'.Perm pages) : map.ShownBy pages' where
  once := (hperm.map Prod.fst).nodup_iff.mpr h.once
  mem_iff name content := hperm.mem_iff.trans (h.mem_iff name content)

/-- What a session works on, and what was committed. -/
structure PageMaps where
  working : PageMap := ∅
  committed : PageMap := ∅

namespace PageMaps

/-- The maps after an action. -/
def after (maps : PageMaps) : Store.Action → PageMaps
  | .save _ name content => { maps with working := maps.working.insert name content }
  | .remove name =>
    if name ∈ maps.working then { maps with working := maps.working.erase name } else maps
  | .commit => { maps with committed := maps.working }
  | .rollback => { maps with working := maps.committed }
  | _ => maps

/-- The reply to a question for a page: a page with the content that the map has, or what stands
    for a page where the map has none. -/
def Finds (maps : PageMaps) (name : Text) (otherwise reply : Store.Reply) : Prop :=
  (∃ entry : Entry, reply = .page entry ∧ entry.name = name ∧
    maps.working.lookup name = some entry.content) ∨ name ∉ maps.working ∧ reply = otherwise

/-- What is answered, as the maps have it. -/
def Answers (maps : PageMaps) : Store.Action → Store.Reply → Prop
  | .save _ name content, .page entry => entry.name = name ∧ entry.content = content
  | .find name, reply => maps.Finds name (.unknown (unknownPage name)) reply
  | .findOrNone name, reply => maps.Finds name .none reply
  | .remove name, .done => name ∈ maps.working
  | .remove name, .unknown message => name ∉ maps.working ∧ message = unknownPage name
  | .list, .pages entries => maps.working.ShownBy (entries.map Entry.page)
  | .snapshot, .notebook book =>
    maps.working.ShownBy book.listing ∧ ∀ name, book.find? name = maps.working.lookup name
  | .commit, .done => True
  | .rollback, .done => True
  | _, _ => False

/-- Actions one after another, each answered as the maps have it at that moment. -/
inductive Run : PageMaps → List Store.Action → List Store.Reply → PageMaps → Prop where
  | nil {maps : PageMaps} : Run maps [] [] maps
  | cons {maps last : PageMaps} {action : Store.Action} {reply : Store.Reply}
      {actions : List Store.Action} {replies : List Store.Reply} (h : maps.Answers action reply)
      (rest : Run (maps.after action) actions replies last) :
      Run maps (action :: actions) (reply :: replies) last

end PageMaps

/-! ## The store refines the maps -/

namespace Store

/-- The maps hold the contents of the store. -/
structure Refines (store : Store) (maps : PageMaps) : Prop where
  distinct : store.Distinct
  working : ∀ name, store.contentOf? name = maps.working.lookup name
  committed : ∀ name, store.rollback.contentOf? name = maps.committed.lookup name

variable {store later : Store} {maps : PageMaps} {name : Text}

theorem refines_empty : ({} : Store).Refines {} where
  distinct := distinct_empty
  working _ := rfl
  committed _ := rfl

namespace Refines

theorem shownBy (h : store.Refines maps) : maps.working.ShownBy (store.entries.map Entry.page) where
  once := by
    rw [map_fst_page]
    exact h.distinct.entries
  mem_iff name content := by
    rw [← h.working, List.mem_map]
    unfold contentOf?
    rw [Option.map_eq_some_iff]
    constructor
    · rintro ⟨entry, hentry, hpage⟩
      obtain ⟨rfl, rfl⟩ := Prod.mk.inj hpage
      exact ⟨entry, h.distinct.find?_of_mem hentry, rfl⟩
    · rintro ⟨entry, hfind, rfl⟩
      obtain rfl := name_of_find? hfind
      exact ⟨entry, List.mem_of_find?_eq_some hfind, rfl⟩

theorem notMem_iff (h : store.Refines maps) :
    name ∉ maps.working ↔ store.contentOf? name = none := by
  rw [h.working, Finmap.lookup_eq_none]

theorem finds (h : store.Refines maps) (otherwise : Reply) :
    maps.Finds name otherwise (replyOf (store.find? name) otherwise) := by
  cases hfind : store.find? name with
  | none =>
    refine Or.inr ⟨?_, rfl⟩
    rw [h.notMem_iff, contentOf?, hfind]
    rfl
  | some entry =>
    refine Or.inl ⟨entry, rfl, name_of_find? hfind, ?_⟩
    rw [← h.working, contentOf?, hfind]
    rfl

theorem save (h : store.Refines maps) (now : Nat) (name content : Text) :
    (store.save now name content).1.Refines (maps.after (.save now name content)) where
  distinct := h.distinct.save now name content
  working other := by
    rw [contentOf?_save, PageMaps.after]
    by_cases hother : other = name
    · rw [if_pos hother, hother, Finmap.lookup_insert]
    · rw [if_neg hother, Finmap.lookup_insert_of_ne _ hother, h.working]
  committed other := by
    change _ = maps.committed.lookup other
    rw [← h.committed]
    unfold contentOf? find? rollback
    rw [(store.agreesBut_save now name content).committed]

theorem remove (h : store.Refines maps) (hremove : store.remove? name = some later) :
    name ∈ maps.working ∧ later.Refines (maps.after (.remove name)) := by
  have hmem : name ∈ maps.working := by
    refine Decidable.not_not.mp fun hnot => ?_
    rw [remove?_eq_none_iff.mpr (h.notMem_iff.mp hnot)] at hremove
    cases hremove
  refine ⟨hmem, ?_⟩
  rw [PageMaps.after, if_pos hmem]
  constructor
  · exact h.distinct.remove hremove
  · intro other
    rw [contentOf?_of_remove? hremove]
    by_cases hother : other = name
    · rw [if_pos hother, hother, Finmap.lookup_erase]
    · rw [if_neg hother, Finmap.lookup_erase_ne hother, h.working]
  · intro other
    rw [← h.committed]
    unfold contentOf? find? rollback
    rw [(agreesBut_of_remove? hremove).committed]

theorem commit (h : store.Refines maps) : store.commit.Refines (maps.after .commit) where
  distinct := h.distinct.commit
  working := h.working
  committed := h.working

theorem rollback (h : store.Refines maps) : store.rollback.Refines (maps.after .rollback) where
  distinct := h.distinct.rollback
  working := h.committed
  committed := h.committed

end Refines

/-- One action is answered as the maps have it, and goes on with the maps after it. -/
theorem refines_perform (h : store.Refines maps) (action : Action) :
    maps.Answers action (store.perform action).2 ∧
      (store.perform action).1.Refines (maps.after action) := by
  cases action with
  | save now name content =>
    exact ⟨⟨name_of_find? (find?_save store now name content), content_save store now name content⟩,
      h.save now name content⟩
  | find name => exact ⟨h.finds _, h⟩
  | findOrNone name => exact ⟨h.finds _, h⟩
  | remove name =>
    cases hremove : store.remove? name with
    | none =>
      have hperform : store.perform (.remove name) = (store, .unknown (unknownPage name)) := by
        rw [perform, hremove]
      have hnot : name ∉ maps.working := h.notMem_iff.mpr (remove?_eq_none_iff.mp hremove)
      rw [hperform, PageMaps.after, if_neg hnot]
      exact ⟨⟨hnot, rfl⟩, h⟩
    | some later =>
      have hperform : store.perform (.remove name) = (later, .done) := by
        rw [perform, hremove]
      rw [hperform]
      exact h.remove hremove
  | list =>
    have hperm : (store.listing.map Entry.page).Perm (store.entries.map Entry.page) :=
      (List.mergeSort_perm _ _).map _
    exact ⟨h.shownBy.of_perm hperm, h⟩
  | snapshot =>
    have hperm : store.notebook.listing.Perm (store.entries.map Entry.page) := by
      rw [← pages_notebook h.distinct]
      exact List.mergeSort_perm _ _
    refine ⟨⟨h.shownBy.of_perm hperm, fun name => ?_⟩, h⟩
    rw [find?_notebook h.distinct, h.working]
  | commit => exact ⟨trivial, h.commit⟩
  | rollback => exact ⟨trivial, h.rollback⟩

theorem refines_performAll (h : store.Refines maps) (actions : List Action) :
    ∃ last, maps.Run actions (store.performAll actions).2 last ∧
      (store.performAll actions).1.Refines last := by
  induction actions generalizing store maps with
  | nil => exact ⟨maps, .nil, h⟩
  | cons action rest ih =>
    obtain ⟨hanswer, hafter⟩ := refines_perform h action
    obtain ⟨last, hrun, hlast⟩ := ih hafter
    exact ⟨last, .cons hanswer hrun, hlast⟩

theorem distinct_performAll (actions : List Action) : (performAll {} actions).1.Distinct := by
  obtain ⟨last, -, hrefines⟩ := refines_performAll refines_empty actions
  exact hrefines.distinct

/-- A session on an empty store gives the answers of two maps, whatever it does in which order, and
    ends with a store that holds what they hold. -/
theorem session_is_two_maps (actions : List Action) :
    ∃ last, PageMaps.Run {} actions (performAll {} actions).2 last ∧
      (performAll {} actions).1.Refines last :=
  refines_performAll refines_empty actions

/-- A page is saved, committed, removed, made anew and thrown away again. -/
example :
    (performAll {} [.save 1 "A" "old", .commit, .remove "A", .save 2 "A" "new", .rollback,
      .find "A"]).1.entries.map Entry.page =
      ([("A", "old")] : List (Text × Text)) := by decide

end Store

end Taskbook
