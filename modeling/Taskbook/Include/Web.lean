/-
  Remote texts. Each address has one reply while a page is rendered: a text, a failure, or the
  refusal of the address itself. Only finitely many addresses answer with a text, which is why the
  expansion of collecting lines comes to an end.
-/
import Taskbook.Http.Address

namespace Taskbook

/-- What becomes of a request. -/
inductive Reply where
  | body (content : Text)
  /-- No text could be got. -/
  | failure
  /-- No request can be sent to the address; the run that asked for it ends. -/
  | invalidAddress (fault : Http.AddressFault)
  deriving DecidableEq, Repr

/-- The replies of all addresses. -/
structure Web where
  reply : Text → Reply
  answering : List Text
  mem_answering : ∀ url content, reply url = .body content → url ∈ answering

namespace Web

/-- The reply that a table gives; what it does not list fails. -/
def replyIn (table : List (Text × Reply)) (url : Text) : Reply := (table.lookup url).getD .failure

theorem mem_keys_of_replyIn {table : List (Text × Reply)} {url content : Text}
    (h : replyIn table url = .body content) : url ∈ table.map Prod.fst := by
  unfold replyIn at h
  induction table with
  | nil => cases h
  | cons entry rest ih =>
    obtain ⟨key, value⟩ := entry
    rw [List.lookup_cons] at h
    split at h
    · next hk => simp [beq_iff_eq.mp hk]
    · exact List.mem_cons_of_mem _ (ih h)

/-- The web in which just the addresses of a table reply. -/
def ofTable (table : List (Text × Reply)) : Web where
  reply := replyIn table
  answering := table.map Prod.fst
  mem_answering _ _ := mem_keys_of_replyIn

/-- The web in which nothing can be reached. -/
def silent : Web := ofTable []

end Web

end Taskbook
