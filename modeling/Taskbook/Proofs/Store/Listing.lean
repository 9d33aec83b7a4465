/-
  Two listings of the pages in a store: the store lists its pages by their names with the capitals
  of ASCII taken for small letters, and its notebook lists them by the lower case of their names.

  Both list each page once. Names that the first order does not tell apart have the same lower case,
  so where no two names have, both orders are strict, and the listings are the same exactly if the
  orders compare every two names alike (`map_page_listing_eq_iff`). They do where all names are of
  ASCII. A capital beyond ASCII is taken for its small letter in the notebook alone
  (`capital_is_listed_elsewhere`).
-/
import Taskbook.Proofs.Include.Order
import Taskbook.Proofs.Store.Maps
import Taskbook.Proofs.Text.Case

namespace Taskbook.Store

variable {store : Store} {name other : Text}

/-- The order of names with the capitals of ASCII taken for small letters. -/
def asciiBefore (name other : Text) : Bool :=
  Text.le (Text.asciiLower name) (Text.asciiLower other)

/-- The order of names by their lower case. -/
def lowerBefore (name other : Text) : Bool := Text.le name.lower other.lower

/-- No two pages have names with the same lower case. -/
def LowerDistinct (store : Store) : Prop := (store.entries.map fun entry => entry.name.lower).Nodup

instance (store : Store) : Decidable store.LowerDistinct :=
  inferInstanceAs (Decidable (List.Nodup _))

/-- Both orders compare the names of pages alike. -/
def OrdersAgree (store : Store) : Prop :=
  ∀ entry ∈ store.entries, ∀ entry' ∈ store.entries,
    asciiBefore entry.name entry'.name = lowerBefore entry.name entry'.name

/-! ## The two orders -/

/-- Names that are the same but for the case of ASCII letters have the same lower case. -/
theorem lower_eq_of_asciiBefore (h : asciiBefore name other = true)
    (h' : asciiBefore other name = true) : name.lower = other.lower := by
  have hascii : Text.asciiLower name = Text.asciiLower other := Text.le_antisymm h h'
  rw [← Text.lower_asciiLower name, hascii, Text.lower_asciiLower]

theorem lower_eq_of_lowerBefore (h : lowerBefore name other = true)
    (h' : lowerBefore other name = true) : name.lower = other.lower :=
  Text.le_antisymm h h'

/-- On names of ASCII the orders are the same. -/
theorem asciiBefore_eq_lowerBefore (hname : ∀ c ∈ name, c.toNat < 0x80)
    (hother : ∀ c ∈ other, c.toNat < 0x80) : asciiBefore name other = lowerBefore name other := by
  unfold asciiBefore lowerBefore
  rw [Text.lower_of_ascii hname, Text.lower_of_ascii hother]

/-- Where names have different lower case, orders that have them the one way do not have them the
    other way. -/
theorem alike_of_before (h : name.lower = other.lower → name = other)
    (hascii : asciiBefore name other = true) (hlower : lowerBefore name other = true) :
    asciiBefore other name = lowerBefore other name := by
  by_cases hsame : name = other
  · subst hsame
    rw [hascii, hlower]
  · have hnot : ¬ asciiBefore other name = true := fun hback =>
      hsame (h (lower_eq_of_asciiBefore hascii hback))
    have hnot' : ¬ lowerBefore other name = true := fun hback =>
      hsame (h (lower_eq_of_lowerBefore hlower hback))
    rw [Bool.not_eq_true] at hnot hnot'
    rw [hnot, hnot']

/-! ## The two listings -/

theorem listing_perm (store : Store) : store.listing.Perm store.entries :=
  List.mergeSort_perm _ _

theorem listing_notebook_perm (h : store.Distinct) :
    store.notebook.listing.Perm (store.entries.map Entry.page) := by
  rw [← pages_notebook h]
  exact List.mergeSort_perm _ _

theorem pairwise_listing (store : Store) :
    store.listing.Pairwise fun entry entry' => asciiBefore entry.name entry'.name = true := by
  apply List.pairwise_mergeSort
  · intro a b c
    exact Text.le_trans _ _ _
  · intro a b
    exact Text.le_total _ _

theorem pairwise_map_page (store : Store) : (store.listing.map Entry.page).Pairwise
    fun page page' => asciiBefore page.1 page'.1 = true := by
  rw [List.pairwise_map]
  exact store.pairwise_listing

/-- Pages of a store whose names have the same lower case are one page. -/
theorem LowerDistinct.eq_of_lower (h : store.LowerDistinct) {page page' : Text × Text}
    (hpage : page ∈ store.entries.map Entry.page) (hpage' : page' ∈ store.entries.map Entry.page)
    (hsame : page.1.lower = page'.1.lower) : page = page' := by
  obtain ⟨entry, hentry, rfl⟩ := List.mem_map.mp hpage
  obtain ⟨entry', hentry', rfl⟩ := List.mem_map.mp hpage'
  rw [List.inj_on_of_nodup_map h hentry hentry' hsame]

/-- Where one list of the pages is sorted by both orders, these agree. -/
theorem ordersAgree_of_pairwise (h : store.LowerDistinct) {pages : List (Text × Text)}
    (hpages : pages.Perm (store.entries.map Entry.page))
    (hascii : pages.Pairwise fun page page' => asciiBefore page.1 page'.1 = true)
    (hlower : pages.Pairwise fun page page' => lowerBefore page.1 page'.1 = true) :
    store.OrdersAgree := by
  have hboth := hascii.and hlower
  have hagree : ∀ page ∈ pages, ∀ page' ∈ pages,
      asciiBefore page.1 page'.1 = lowerBefore page.1 page'.1 := by
    apply List.Pairwise.forall_of_forall_of_flip
    · intro page _
      have hrefl (s : Text) : Text.le s s = true := Text.le_iff.mpr (List.lt_irrefl s)
      exact (hrefl _).trans (hrefl _).symm
    · apply hboth.imp
      rintro page page' ⟨hfirst, hsecond⟩
      rw [hfirst, hsecond]
    · apply hboth.imp_of_mem
      rintro page page' hpage hpage' ⟨hfirst, hsecond⟩
      refine alike_of_before (fun hsame => ?_) hfirst hsecond
      rw [h.eq_of_lower (hpages.mem_iff.mp hpage) (hpages.mem_iff.mp hpage') hsame]
  intro entry hentry entry' hentry'
  exact hagree entry.page (hpages.mem_iff.mpr (List.mem_map_of_mem hentry)) entry'.page
    (hpages.mem_iff.mpr (List.mem_map_of_mem hentry'))

/-- The notebook's listing is the only one of the pages that is sorted by its order. -/
theorem eq_listing_notebook (hdistinct : store.Distinct) (h : store.LowerDistinct)
    {pages : List (Text × Text)} (hpages : pages.Perm (store.entries.map Entry.page))
    (hsorted : pages.Pairwise fun page page' => lowerBefore page.1 page'.1 = true) :
    pages = store.notebook.listing := by
  have hperm := listing_notebook_perm hdistinct
  refine (hpages.trans hperm.symm).eq_of_pairwise (fun page page' hpage hpage' hle hge => ?_)
    hsorted store.notebook.pairwise_listing
  exact h.eq_of_lower (hpages.mem_iff.mp hpage) (hperm.mem_iff.mp hpage')
    (lower_eq_of_lowerBefore hle hge)

/-- The listings are the same exactly if the orders agree. -/
theorem map_page_listing_eq_iff (hdistinct : store.Distinct) (h : store.LowerDistinct) :
    store.listing.map Entry.page = store.notebook.listing ↔ store.OrdersAgree := by
  have hperm : (store.listing.map Entry.page).Perm (store.entries.map Entry.page) :=
    store.listing_perm.map _
  constructor
  · intro hsame
    apply ordersAgree_of_pairwise h hperm store.pairwise_map_page
    rw [hsame]
    exact store.notebook.pairwise_listing
  · intro hagree
    have hlower : (store.listing.map Entry.page).Pairwise
        fun page page' => lowerBefore page.1 page'.1 = true := by
      rw [List.pairwise_map]
      apply store.pairwise_listing.imp_of_mem
      intro entry entry' hentry hentry' hbefore
      rw [hagree entry (store.listing_perm.mem_iff.mp hentry) entry'
        (store.listing_perm.mem_iff.mp hentry')] at hbefore
      exact hbefore
    exact eq_listing_notebook hdistinct h hperm hlower

/-- A session on an empty store, whatever it does in which order, has a store that lists each of its
    pages once, in ascending order of their names with the capitals of ASCII taken for small
    letters; its notebook lists each of them once, in ascending order of the lower case of their
    names. Where no two names have the same lower case, these are the same pages in the same order
    exactly if the two orders compare every two names alike, so they are if all names are of
    ASCII. -/
theorem listings_agree_iff (actions : List Action) (store : Store)
    (hstore : store = (performAll {} actions).1) (h : store.LowerDistinct) :
    ((store.entries.map Entry.name).Nodup ∧ store.listing.Perm store.entries ∧
      store.notebook.listing.Perm (store.entries.map Entry.page)) ∧
    (store.listing.Pairwise fun entry entry' => asciiBefore entry.name entry'.name = true) ∧
    (store.notebook.listing.Pairwise fun page page' => lowerBefore page.1 page'.1 = true) ∧
    (store.listing.map Entry.page = store.notebook.listing ↔ store.OrdersAgree) ∧
    ((∀ entry ∈ store.entries, ∀ c ∈ entry.name, c.toNat < 0x80) →
      store.listing.map Entry.page = store.notebook.listing) := by
  have hdistinct : store.Distinct := hstore ▸ distinct_performAll actions
  have hsame := map_page_listing_eq_iff hdistinct h
  refine ⟨⟨hdistinct.entries, store.listing_perm, listing_notebook_perm hdistinct⟩,
    store.pairwise_listing, store.notebook.pairwise_listing, hsame, fun hascii => ?_⟩
  apply hsame.mpr
  intro entry hentry entry' hentry'
  exact asciiBefore_eq_lowerBefore (hascii entry hentry) (hascii entry' hentry')

/-- Pages are saved, one of them is removed, and the others are listed as they are in the
    notebook. -/
theorem listings_agree_iff_mixed :
    (performAll {} [.save 0 "beta" [], .save 1 "Alpha" [], .save 2 "gamma" [],
      .remove "beta"]).1.LowerDistinct ∧
    (performAll {} [.save 0 "beta" [], .save 1 "Alpha" [], .save 2 "gamma" [],
        .remove "beta"]).1.listing.map Entry.page =
      (performAll {} [.save 0 "beta" [], .save 1 "Alpha" [], .save 2 "gamma" [],
        .remove "beta"]).1.notebook.listing := by
  have hlower : (performAll {} [.save 0 "beta" [], .save 1 "Alpha" [], .save 2 "gamma" [],
      .remove "beta"]).1.LowerDistinct := by decide +kernel
  have hnames : (performAll {} [.save 0 "beta" [], .save 1 "Alpha" [], .save 2 "gamma" [],
      .remove "beta"]).1.entries.all (fun entry => entry.name.all (·.toNat < 0x80)) = true := by
    decide +kernel
  obtain ⟨-, -, -, -, hascii⟩ := listings_agree_iff _ _ rfl hlower
  refine ⟨hlower, hascii fun entry hentry c hc => ?_⟩
  have hname := List.all_eq_true.mp hnames entry hentry
  exact of_decide_eq_true (List.all_eq_true.mp hname c hc)

/-- The store lists a name with a capital beyond ASCII in front of one with its small letter, and
    the notebook lists them the other way round. -/
theorem capital_is_listed_elsewhere :
    (performAll {} [.save 0 "Éz" "x", .save 1 "éa" "y"]).1.LowerDistinct ∧
    (performAll {} [.save 0 "Éz" "x", .save 1 "éa" "y"]).1.listing.map Entry.page =
      ([("Éz", "x"), ("éa", "y")] : List (Text × Text)) ∧
    (performAll {} [.save 0 "Éz" "x", .save 1 "éa" "y"]).1.notebook.listing =
      ([("éa", "y"), ("Éz", "x")] : List (Text × Text)) := by
  have hlower : (performAll {} [.save 0 "Éz" "x", .save 1 "éa" "y"]).1.LowerDistinct := by
    decide +kernel
  refine ⟨hlower, ?_, ?_⟩
  · unfold listing
    rw [List.mergeSort_of_pairwise (by decide +kernel)]
    decide +kernel
  · refine (eq_listing_notebook (distinct_performAll _) hlower ?_ (by decide +kernel)).symm
    exact List.Perm.swap _ _ _

end Taskbook.Store
