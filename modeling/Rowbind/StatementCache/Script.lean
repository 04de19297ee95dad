import Rowbind.StatementCache.Session

/-!
# Scripts of cache use

A **script** is a run of everything that can be done with a statement cache: requests, whose
preparation may run a script of its own before it succeeds or fails, leases kept under names and
given back, and clearing. Its world is the plainest one: a statement is known by the serial number
of its preparation, and preparing and closing are written into a log.

Every step answers with what came of it and with the part of the log written since the last answer.
-/

namespace Rowbind

/-- **A step of a script.** -/
inductive CacheUse where
  /-- Asks for a statement. The lease is kept under a name, or given back at once. `during` runs
  while the statement is prepared. -/
  | request (sql : String) (hold : Option String) (fails failsToClose : Bool)
    (during : List CacheUse)
  /-- Looks at a kept lease. -/
  | inspect (hold : String)
  | release (hold : String)
  | clear

instance : Inhabited CacheUse := ⟨.clear⟩

/-- A statement of a script. -/
structure ScriptedStatement where
  serial : Nat
  sql : String
  failsToClose : Bool
  deriving DecidableEq, Repr

/-- **What a script's log holds.** -/
inductive CacheEvent
  | prepared (serial : Nat) (sql : String)
  | closed (serial : Nat)
  deriving DecidableEq, Repr

/-- **What a step of a script finds.** -/
inductive CacheFinding
  | leased (serial : Nat) (sql : String)
  /-- No lease is kept under the name. -/
  | notKept
  /-- Whether a lease was given back. -/
  | released (kept : Bool)
  | done
  deriving DecidableEq, Repr

/-- **The answer of a step**: its finding, the log since the last answer, how many entries are held
then, and, where a statement was prepared, the answers of what ran meanwhile. -/
inductive CacheAnswer where
  | mk (finding : Except Error CacheFinding) (log : List CacheEvent) (size : Nat)
    (during : Option (List CacheAnswer))

/-- **The world of a script.** -/
structure ScriptWorld where
  serials : Nat := 0
  log : List CacheEvent := []
  leases : List (String × Lease ScriptedStatement) := []
  deriving DecidableEq, Repr

/-- A cache in use by a script. -/
abbrev ScriptSession := CacheSession ScriptedStatement ScriptWorld

namespace ScriptWorld

/-- Closes a statement. -/
def close (t : ScriptedStatement) : Step ScriptWorld Unit := fun w =>
  (if t.failsToClose then .error (.driver "close failed") else .ok (),
    { w with log := w.log ++ [.closed t.serial] })

/-- Prepares a statement. -/
def prepare (sql : String) (fails failsToClose : Bool) : Step ScriptWorld ScriptedStatement :=
  fun w =>
    if fails then (.error (.driver "prepare failed"), w)
    else
      let serial := w.serials + 1
      (.ok ⟨serial, sql, failsToClose⟩,
        { w with serials := serial, log := w.log ++ [.prepared serial sql] })

/-- The lease kept under a name. -/
def lease? (w : ScriptWorld) (hold : String) : Option (Lease ScriptedStatement) :=
  w.leases.lookup hold

/-- Keeps no lease under a name. -/
def forget (w : ScriptWorld) (hold : String) : ScriptWorld :=
  { w with leases := w.leases.filter (·.1 ≠ hold) }

/-- Keeps a lease under a name. -/
def keep (w : ScriptWorld) (hold : String) (l : Lease ScriptedStatement) : ScriptWorld :=
  { w with leases := (hold, l) :: (w.forget hold).leases }

end ScriptWorld

namespace CacheUse

/-- Gives back the lease kept under a name, and says whether there was one. -/
def giveBackKept (hold : String) (s : ScriptSession) : Bool × ScriptSession :=
  match s.world.lease? hold with
  | none => (false, s)
  | some l => (true, { s.giveBack l with world := s.world.forget hold })

/-- Keeps a new lease under a name, an earlier one being given back after; with no name, the new
lease is given back at once. -/
def settle (hold : Option String) (l : Lease ScriptedStatement) (s : ScriptSession) :
    ScriptSession :=
  match hold with
  | none => s.giveBack l
  | some name =>
    let earlier := s.world.lease? name
    let kept := { s with world := s.world.keep name l }
    earlier.elim kept kept.giveBack

/-- Puts the answer of a step together, and begins a new stretch of the log. -/
def answer (finding : Except Error CacheFinding) (during : Option (List CacheAnswer))
    (s : ScriptSession) : CacheAnswer × ScriptSession :=
  (.mk finding s.world.log s.cache.size during,
    { s with world := { s.world with log := [] } })

/-- Closes a statement, beside the answers of what ran during a preparation. -/
def closeBeside (t : ScriptedStatement) : Step (ScriptWorld × Option (List CacheAnswer)) Unit :=
  (ScriptWorld.close t).zoom Prod.fst fun w p => (w, p.2)

mutual

/-- **Runs one step.** -/
def run : CacheUse → ScriptSession → CacheAnswer × ScriptSession
  | .request sql hold fails failsToClose during, s =>
    -- the answers of what runs during the preparation are kept beside the session
    let prepare : Step (CacheSession ScriptedStatement (ScriptWorld × Option (List CacheAnswer)))
        ScriptedStatement := fun t =>
      let (answers, u) := runAll during ⟨t.cache, t.world.1⟩
      let (prepared, w) := ScriptWorld.prepare sql fails failsToClose u.world
      (prepared, ⟨u.cache, (w, some answers)⟩)
    let (leased, t) := CacheSession.request closeBeside sql prepare ⟨s.cache, (s.world, none)⟩
    let s : ScriptSession := ⟨t.cache, t.world.1⟩
    match leased with
    | .ok l => answer (.ok (.leased l.statement.serial l.statement.sql)) t.world.2 (settle hold l s)
    | .error e => answer (.error e) t.world.2 s
  | .inspect hold, s =>
    let found := (s.world.lease? hold).elim .notKept fun l =>
      .leased l.statement.serial l.statement.sql
    answer (.ok found) none s
  | .release hold, s =>
    let (kept, s) := giveBackKept hold s
    answer (.ok (.released kept)) none s
  | .clear, s => answer (.ok .done) none (s.clear ScriptWorld.close)

/-- **Runs steps in order.** -/
def runAll : List CacheUse → ScriptSession → List CacheAnswer × ScriptSession
  | [], s => ([], s)
  | u :: us, s =>
    let (a, s) := run u s
    let (as, s) := runAll us s
    (a :: as, s)

end

end CacheUse

end Rowbind
