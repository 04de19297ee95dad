import Mathlib.Order.Defs.Unbundled
import Rowbind.MySql.Pool
import Rowbind.Proofs.Database.Erasure

/-!
# The calls that a pool makes

A pool asks its server for a few things, and which ones is told here, once for two laws.

A server may do what another one does, and keep books besides (`Server.Mimics`). A pool on it does
what a pool on the other one does, and so does whatever is done with the pool
(`Pool.follows_execOn` and what stands beside it).

A relation between the states before and after a step may hold of every call. If it is a preorder it
then holds of running a statement, which is one call after another (`Pool.moves_execOn`,
`Pool.moves_fetchOn`).
-/

namespace Rowbind.MySql

open Step (Follows)

variable {σ τ α β : Type}

/-- **Whether a server does what another does**, its states seen as `view` shows them. -/
structure Server.Mimics [Server τ] [Server σ] (view : τ → σ) : Prop where
  prepare : ∀ on sql, Follows id view (Server.prepare on sql) (Server.prepare on sql)
  execute : ∀ on sql values,
    Follows id view (Server.execute on sql values) (Server.execute on sql values)
  command : ∀ on sql, Follows id view (Server.command on sql) (Server.command on sql)
  ping : ∀ on, Follows id view (Server.ping on) (Server.ping on)

namespace Pool

/-! ## A pool that is seen on another server -/

/-- **A pool, its server seen as `view` shows it.** -/
def seen (view : τ → σ) (p : Pool τ) : Pool σ where
  server := view p.server
  idle := p.idle
  detached := p.detached
  opened := p.opened
  closed := p.closed

theorem follows_onServer {view : τ → σ} {x : Step τ α} {y : Step σ α} (h : Follows id view x y) :
    Follows id (seen view) (onServer x) (onServer y) :=
  h.zoom (fun _ => rfl) fun _ _ => rfl

theorem follows_acquire (view : τ → σ) : Follows id (seen view) acquire acquire := by
  rintro ⟨server, idle, detached, opened, _ | _⟩
  · cases idle with
    | nil => rfl
    | cons c idle => rfl
  · rfl

theorem follows_withConnection {view : τ → σ} {f : Connection → Step (Pool τ) α}
    {k : Connection → Step (Pool σ) α} (h : ∀ c, Follows id (seen view) (f c) (k c)) :
    Follows id (seen view) (withConnection f) (withConnection k) := by
  intro p
  have hlent := follows_acquire view p
  unfold withConnection
  rcases hacquire : acquire p with ⟨e | c, lent⟩
  · simp only [hlent, hacquire]
    rfl
  · have hf := h c lent
    simp only [hlent, hacquire, Except.map, id_eq, hf]
    rfl

section Mimics

variable [Server τ] [Server σ] {view : τ → σ} (h : Server.Mimics view)
include h

theorem follows_runOn (c : Connection) (sql : String) (values : List Value) :
    Follows id (seen view) (runOn c sql values) (runOn c sql values) := by
  refine (Follows.ofExcept _).bind fun bound => ?_
  refine (follows_onServer (h.prepare c sql)).bind fun _ => ?_
  exact follows_onServer (h.execute c sql bound)

theorem follows_execOn (c : Connection) (sql : String) (values : List Value) :
    Follows id (seen view) (execOn c sql values) (execOn c sql values) := by
  refine (follows_runOn h c sql values).bind fun outcome => ?_
  cases outcome with
  | report r => exact fun _ => rfl
  | rows columns rows => exact fun _ => rfl

theorem follows_fetchOn (c : Connection) (sql : String) (values : List Value) :
    Follows id (seen view) (fetchOn c sql values) (fetchOn c sql values) := by
  have hcolumns : Follows id (seen view)
      (do let columns ← onServer (Server.prepare c sql)
          return (columns.map (·.name), ([] : List (List Value))))
      (do let columns ← onServer (Server.prepare c sql)
          return (columns.map (·.name), [])) :=
    (follows_onServer (h.prepare c sql)).bind fun _ _ => rfl
  refine (follows_runOn h c sql values).bind fun outcome => ?_
  match outcome with
  | .report r => exact hcolumns
  | .rows columns [] => exact hcolumns
  | .rows columns (row :: rows) =>
    exact (Follows.ofExcept (decodeRows columns (row :: rows))).bind fun _ _ => rfl

theorem follows_commandAll (c : Connection) (sqls : List String) :
    Follows id (seen view) (commandAll c sqls) (commandAll c sqls) := by
  induction sqls with
  | nil => exact fun _ => rfl
  | cons sql sqls ih => exact (follows_onServer (h.command c sql)).bind fun _ => ih

/-- **Beginning a transaction** on a server that mimics another. -/
theorem follows_begin (o : TransactionOptions) :
    Follows id (seen view) (begin o) (begin o) := by
  intro p
  have hlent := follows_acquire view p
  unfold begin
  rcases hacquire : acquire p with ⟨e | c, lent⟩
  · simp only [hlent, hacquire]
    rfl
  · have hsent := follows_commandAll h c (openings o) lent
    simp only [hlent, hacquire, Except.map, id_eq, hsent]
    rcases commandAll c (openings o) lent with ⟨e | a, p'⟩
    · rfl
    · rfl

end Mimics

end Pool

/-! ## Moves -/

/-- **Whether a step makes moves of a kind only**, whatever comes of it. -/
def Moves {π : Type} (R : π → π → Prop) (x : Step π α) : Prop := ∀ s, R s (x s).2

namespace Moves

variable {π : Type} {R : π → π → Prop} [IsPreorder π R]

theorem ofExcept (r : Except Error α) : Moves R (.ofExcept r) := fun s => refl_of R s

theorem pure (a : α) : Moves R (Pure.pure a) := fun s => refl_of R s

theorem bind {x : Step π α} {f : α → Step π β} (hx : Moves R x) (hf : ∀ a, Moves R (f a)) :
    Moves R (x >>= f) := by
  intro s
  have h := hx s
  rcases hrun : x s with ⟨e | a, s'⟩
  · rw [Step.bind_error hrun]
    rwa [hrun] at h
  · rw [Step.bind_ok hrun]
    rw [hrun] at h
    exact trans_of R h (hf a s')

end Moves

namespace Pool

section Moves

variable [Server σ] {R : Pool σ → Pool σ → Prop} [IsPreorder (Pool σ) R] {c : Connection}
  {sql : String} (hprepare : Moves R (onServer (Server.prepare c sql)))
  (hexecute : ∀ bound, Moves R (onServer (Server.execute c sql bound)))
include hprepare hexecute

theorem moves_runOn (values : List Value) : Moves R (runOn c sql values) :=
  (Moves.ofExcept _).bind fun bound => hprepare.bind fun _ => hexecute bound

/-- **Running a statement for its report** prepares it, and runs it prepared. -/
theorem moves_execOn (values : List Value) : Moves R (execOn c sql values) := by
  refine (moves_runOn hprepare hexecute values).bind fun outcome => ?_
  cases outcome with
  | report r => exact .pure _
  | rows columns rows => exact .pure _

/-- **Running a statement for its rows** prepares it, and runs it prepared. -/
theorem moves_fetchOn (values : List Value) : Moves R (fetchOn c sql values) := by
  refine (moves_runOn hprepare hexecute values).bind fun outcome => ?_
  -- without a row the columns are asked for, and the statement is prepared once more
  match outcome with
  | .report r => exact hprepare.bind fun _ => .pure _
  | .rows columns [] => exact hprepare.bind fun _ => .pure _
  | .rows columns (row :: rows) => exact (Moves.ofExcept _).bind fun _ => .pure _

end Moves

end Pool

end Rowbind.MySql
