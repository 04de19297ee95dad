import Rowbind.StatementCache.Basic

/-!
# Using the statement cache

A **session** is a cache together with the world in which statements are prepared and closed. A
request for a text answers with a **lease** on its statement: the statement is not closed until the
lease is given back.

A request begins the use of the text's entry, closes what has retired, and prepares the statement if
the entry has none. Preparing may itself use the session. Where preparing fails, the entry stays,
without a statement, and the next request for the text prepares again.

That a statement fails to close is nobody's concern: it is closed once, and forgotten.
-/

namespace Rowbind

/-- **The right to use a statement**, until it is given back. -/
structure Lease (τ : Type) where
  entry : Nat
  statement : τ
  deriving DecidableEq, Repr

/-- **A cache, and the world around it.** -/
structure CacheSession (τ ω : Type) where
  cache : StatementCache τ
  world : ω

namespace CacheSession

variable {τ ω : Type}

/-- Closes what has retired. -/
def closeRetired (close : τ → Step ω Unit) (s : CacheSession τ ω) : CacheSession τ ω :=
  let (statements, cache) := s.cache.takeRetired
  { cache := cache, world := statements.foldl (fun w t => (close t).swallow w) s.world }

/-- **Begins a request for a text**: the use of the text's entry, whose number is the answer. -/
def start (close : τ → Step ω Unit) (sql : String) (s : CacheSession τ ω) :
    Nat × CacheSession τ ω :=
  let (n, cache) := s.cache.checkOut sql
  (n, closeRetired close { s with cache := cache })

/-- **Ends a request** with what came of preparing the statement of its entry. -/
def finish (n : Nat) : Except Error τ × CacheSession τ ω → Except Error (Lease τ) × CacheSession τ ω
  | (.ok t, s) => (.ok ⟨n, t⟩, { s with cache := s.cache.fulfil n t })
  | (.error e, s) => (.error e, { s with cache := s.cache.release n })

/-- **A lease on the statement of a text**, prepared if need be. -/
def request (close : τ → Step ω Unit) (sql : String) (prepare : Step (CacheSession τ ω) τ) :
    Step (CacheSession τ ω) (Lease τ) := fun s =>
  let (n, s) := start close sql s
  match s.cache.statement? n with
  | some t => (.ok ⟨n, t⟩, s)
  | none => finish n (prepare s)

/-- **Gives a lease back.** -/
def giveBack (l : Lease τ) (s : CacheSession τ ω) : CacheSession τ ω :=
  { s with cache := s.cache.release l.entry }

/-- **Evicts every entry** and closes the statements that nobody uses. -/
def clear (close : τ → Step ω Unit) (s : CacheSession τ ω) : CacheSession τ ω :=
  closeRetired close { s with cache := s.cache.evictAll }

end CacheSession

end Rowbind
