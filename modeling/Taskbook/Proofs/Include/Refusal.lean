/-
  Addresses to which no request can be sent.

  A run breaks off at the first such address that it asks for, and at nothing else: an address
  that fails otherwise only leaves an error behind (`resolve_of_failure`). So a run comes to its end
  exactly if requests can be sent to all addresses that it asked for (`Runs.stopped_eq_none_iff`).
-/
import Taskbook.Include.Fetch
import Taskbook.Proofs.Include.Find
import Taskbook.Proofs.Include.Run

namespace Taskbook

/-- Requests can be sent to all the addresses. -/
def Sendable (reply : Text → Reply) (urls : List Text) : Prop :=
  ∀ url ∈ urls, ∀ fault, reply url ≠ .invalidAddress fault

variable {reply : Text → Reply}

theorem sendable_nil : Sendable reply [] := nofun

theorem sendable_append {urls more : List Text} :
    Sendable reply (urls ++ more) ↔ Sendable reply urls ∧ Sendable reply more :=
  List.forall_mem_append

namespace World

variable {world : World}

/-- A task can be asked for its sources unless it asks for an address that is refused. -/
theorem sendable_address?_iff {task : Task} :
    Sendable world.reply task.address?.toList ↔ ∀ fault, world.find task ≠ .invalidAddress fault := by
  constructor
  · intro h fault hfind
    obtain ⟨url, hurl, hreply⟩ := find_eq_invalidAddress_iff.mp hfind
    exact h url (Option.mem_toList.mpr hurl) fault hreply
  · intro h url hurl fault hreply
    exact h fault (find_eq_invalidAddress_iff.mpr ⟨url, Option.mem_toList.mp hurl, hreply⟩)

theorem Runs.stopped_eq_none_iff {visited : Option (List Text)} {items : List Item}
    {found : Expansion} (h : world.Runs visited items found) :
    found.stopped = none ↔ Sendable world.reply found.requested := by
  induction h with
  | done visited => exact iff_of_true rfl sendable_nil
  | keep _ _ ih => exact ih
  | expand _ _ ih => exact ih
  | found hfind _ ih =>
    rw [sendable_append, sendable_address?_iff, hfind, and_iff_right nofun]
    exact ih
  | missed hfind _ ih =>
    rw [sendable_append, sendable_address?_iff, hfind, and_iff_right nofun]
    exact ih
  | stopped hfind =>
    rw [sendable_address?_iff, hfind]
    exact iff_of_false nofun fun h => h _ rfl
  | skip _ _ ih => exact ih
  | enter _ _ ih => exact ih

end World

namespace Scope

variable (scope : Scope) (task : Task) (visited : Option (List Text))

theorem resolveWithin_depth :
    scope.world.resolveWithin (scope.depth visited) task visited =
      some (scope.resolve task visited) :=
  (Option.some_get _).symm

theorem resolve_stopped_iff :
    (scope.resolve task visited).stopped = none ↔
      Sendable scope.web.reply (scope.resolve task visited).requested :=
  (World.runs_of_resolveWithin (scope.resolveWithin_depth task visited)).stopped_eq_none_iff

/-- A failed request leaves its error and nothing else. -/
theorem resolve_of_failure {url : Text} (haddress : task.address? = some url)
    (hreply : scope.web.reply url = .failure) :
    scope.resolve task visited =
      { listing := { head := task, error := some ("could not fetch " ++ url) }
        visited, requested := [url], stopped := none } := by
  have hfind : scope.world.find task = .error (.unreachable url) := by
    rw [World.find_of_address? haddress]
    exact World.remote_of_failure hreply
  have hresolve := scope.resolveWithin_depth task visited
  unfold depth World.resolveWithin World.expandWithin at hresolve
  simp only [hfind, haddress] at hresolve
  exact (Option.some.inj hresolve).symm

end Scope

/-- A request is refused only if the table says so of its address, or if the address is one to
    which none can be sent. -/
theorem Fetched.refused_of_reply {url : Text} {fetched : Fetched} {fault : Http.AddressFault}
    (h : fetched.reply url = .invalidAddress fault) :
    fetched = .invalidAddress ∨ Http.AddressFault.of? url = some fault := by
  cases fetched with
  | response status text =>
    unfold reply at h
    dsimp only at h
    split at h
    · next hfault => exact Or.inr (hfault.trans (congrArg some (Reply.invalidAddress.inj h)))
    · split at h <;> cases h
  | noResponse reason => cases h
  | invalidAddress => exact Or.inl rfl

theorem Web.refused_of_reply_ofFetched {table : List (Text × Fetched)} {url : Text}
    {fault : Http.AddressFault} (h : (Web.ofFetched table).reply url = .invalidAddress fault) :
    (url, .invalidAddress) ∈ table ∨ Http.AddressFault.of? url = some fault := by
  change ((List.lookup url (table.map fun entry => (entry.1, entry.2.reply entry.1))).getD
    .failure) = .invalidAddress fault at h
  cases hlookup : List.lookup url (table.map fun entry => (entry.1, entry.2.reply entry.1)) with
  | none =>
    rw [hlookup] at h
    cases h
  | some reply =>
    rw [hlookup] at h
    obtain ⟨before, after, htable, -⟩ := List.lookup_eq_some_iff.mp hlookup
    obtain ⟨entry, hentry, heq⟩ := List.mem_map.mp
      (htable ▸ List.mem_append_right before (List.mem_cons_self (l := after)))
    obtain ⟨rfl, rfl⟩ := Prod.mk.inj heq
    rcases Fetched.refused_of_reply h with hrefused | hfault
    · exact Or.inl (hrefused ▸ hentry)
    · exact Or.inr hfault

end Taskbook
