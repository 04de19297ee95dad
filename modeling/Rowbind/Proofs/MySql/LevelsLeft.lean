import Rowbind.Proofs.MySql.Levels

/-!
# Levels that are left to others

A pool is used by many, and each is lent a connection that others have used before. A run of a pool
is told by its turns (`PoolInUse.play`), each with the pool that a use found and the pool that it
left.

On a levelled server the invariant of a run is that between its turns no level is set over any
connection. Every use keeps it but one: beginning a transaction breaks it where setting the level is
taken and starting is refused (`Turn.Strands`), which puts a connection back with the level set. So
a run leaves no level to others just when no turn of it comes to that
(`PoolInUse.levels_left_iff`).
-/

namespace Rowbind.MySql

open Step (Follows)

/-- **What can be done with a pool**, by any of those who use it. -/
inductive PoolUse where
  | exec (sql : String) (values : List Value)
  | query (sql : String) (values : List Value)
  | prepare (sql : String)
  | ping
  | close
  | begin (o : TransactionOptions)
  /-- Uses the transaction in a place among those begun. -/
  | within (n : Nat) (u : TransactionUse)
  /-- Drops the transaction in a place among those begun. -/
  | abandon (n : Nat)

/-- **What a use of a pool is answered with.** -/
inductive PoolReply where
  | answered (r : TransactionReply)
  | done

/-- **A pool in use**, with the transactions begun so far. -/
structure PoolInUse (σ : Type) where
  pool : Pool σ
  transactions : List Transaction := []

variable {σ τ α : Type}

namespace PoolInUse

/-- A pool in use, its server seen as `view` shows it. -/
def seen (view : τ → σ) (s : PoolInUse τ) : PoolInUse σ := ⟨s.pool.seen view, s.transactions⟩

/-- The same pool, with the level of each connection from now on. -/
def levelled (s : PoolInUse σ) : PoolInUse (Levelled σ) :=
  ⟨s.pool.seen fun server => { server }, s.transactions⟩

/-- A step of the pool. -/
def onPool (x : Step (Pool σ) α) (reply : α → PoolReply) : Step (PoolInUse σ) PoolReply := fun s =>
  let (answer, p) := x s.pool
  (answer.map reply, { s with pool := p })

end PoolInUse

namespace PoolUse

/-- The level that a use asks for. -/
def level : PoolUse → Isolation
  | begin o => o.isolation
  | _ => .serverDefault

/-- **Uses a pool.** -/
def run [Server σ] : PoolUse → Step (PoolInUse σ) PoolReply
  | exec sql values => PoolInUse.onPool (Pool.exec sql values) fun r => .answered (.report r)
  | query sql values =>
    PoolInUse.onPool (Pool.query sql values) fun (columns, rows) => .answered (.rows columns rows)
  | prepare sql => PoolInUse.onPool (Pool.prepare sql) fun _ => .done
  | ping => PoolInUse.onPool Pool.ping fun _ => .done
  | close => PoolInUse.onPool Pool.close fun _ => .done
  | begin o => fun s =>
    match Pool.begin o s.pool with
    | (.ok x, p) => (.ok .done, ⟨p, s.transactions ++ [x]⟩)
    | (.error e, p) => (.error e, { s with pool := p })
  | within n u => fun s =>
    match s.transactions[n]? with
    | none => (.ok .done, s)
    | some x =>
      let (answer, x, p) := u.run (x, s.pool)
      (answer.map .answered, ⟨p, s.transactions.set n x⟩)
  | abandon n => fun s =>
    match s.transactions[n]? with
    | none => (.ok .done, s)
    | some x => (.ok .done, ⟨x.abandon s.pool, s.transactions.set n ⟨none⟩⟩)

end PoolUse

/-- **A turn of a pool's run**: the use, what it found, its answer, and what it left. -/
structure Turn (σ : Type) where
  use : PoolUse
  found : PoolInUse σ
  answer : Except Error PoolReply
  left : PoolInUse σ

/-- A turn, its server seen as `view` shows it. -/
def Turn.seen (view : τ → σ) (t : Turn τ) : Turn σ :=
  ⟨t.use, t.found.seen view, t.answer, t.left.seen view⟩

/-- **Uses a pool again and again.** -/
def PoolInUse.play [Server σ] (s : PoolInUse σ) : List PoolUse → List (Turn σ)
  | [] => []
  | u :: asked =>
    let (answer, left) := u.run s
    ⟨u, s, answer, left⟩ :: play left asked

/-! ## Without the levels -/

theorem PoolInUse.follows_onPool {view : τ → σ} {x : Step (Pool τ) α} {y : Step (Pool σ) α}
    (h : Follows id (Pool.seen view) x y) (reply : α → PoolReply) :
    Follows id (seen view) (onPool x reply) (onPool y reply) := by
  rintro ⟨p, transactions⟩
  have hp := h p
  simp only [onPool, seen, hp, Except.map_id, id_eq]

section Mimics

variable [Server τ] [Server σ] {view : τ → σ} (h : Server.Mimics view)
include h

/-- **A use** of a pool on a server that mimics another is the use on the other one. -/
theorem PoolUse.follows_run (u : PoolUse) :
    Follows id (PoolInUse.seen view) (run u) (run u) := by
  cases u with
  | exec sql values =>
    exact PoolInUse.follows_onPool
      (Pool.follows_withConnection fun c => Pool.follows_execOn h c sql values) _
  | query sql values =>
    exact PoolInUse.follows_onPool
      (Pool.follows_withConnection fun c => Pool.follows_fetchOn h c sql values) _
  | prepare sql =>
    refine PoolInUse.follows_onPool (Pool.follows_withConnection fun c => ?_) _
    have hprepare := Pool.follows_onServer (h.prepare c sql)
    exact hprepare.bind fun _ _ => rfl
  | ping =>
    exact PoolInUse.follows_onPool
      (Pool.follows_withConnection fun c => Pool.follows_onServer (h.ping c)) _
  | close =>
    have hclose : Follows id (Pool.seen view) Pool.close Pool.close := Follows.modify fun _ => rfl
    exact PoolInUse.follows_onPool hclose _
  | begin o =>
    rintro ⟨p, transactions⟩
    have hbegin := Pool.follows_begin h o p
    simp only [run, PoolInUse.seen, hbegin]
    rcases Pool.begin o p with ⟨e | x, p'⟩
    · rfl
    · rfl
  | within n u =>
    rintro ⟨p, transactions⟩
    simp only [run, PoolInUse.seen]
    cases transactions[n]? with
    | none => rfl
    | some x =>
      have hrun := Transaction.follows_run h u (x, p)
      simp only [Prod.map, id_eq] at hrun
      simp only [hrun, Except.map_id, id_eq]
  | abandon n =>
    rintro ⟨p, transactions⟩
    simp only [run, PoolInUse.seen]
    cases transactions[n]? with
    | none => rfl
    | some x =>
      obtain ⟨_ | c⟩ := x
      · rfl
      · rfl

/-- **A run** of a pool on a server that mimics another is the run on the other one. -/
theorem PoolInUse.play_seen (s : PoolInUse τ) (asked : List PoolUse) :
    (s.seen view).play asked = (s.play asked).map (Turn.seen view) := by
  induction asked generalizing s with
  | nil => rfl
  | cons u asked ih =>
    have hrun : u.run (s.seen view) = _ := PoolUse.follows_run h u s
    simp only [play, hrun, Except.map_id, id_eq, ih]
    rfl

end Mimics

/-! ## Uses without a beginning -/

section Uneventful

variable [Server σ]

/-- **A use of a transaction** is uneventful: it runs statements, and finishing sets no level. -/
theorem Transaction.uneventful_run (u : TransactionUse) (x : Transaction)
    (p : Pool (Levelled σ)) : Pool.Uneventful p (u.run (x, p)).2.2 := by
  obtain ⟨_ | c⟩ := x
  · rw [run_finished]
    exact refl_of Pool.Uneventful p
  obtain ⟨sql, hu⟩ | ⟨sql, hu⟩ := u.statement_or_command
  · cases u with
    | exec sql values => exact Pool.uneventful_execOn c sql values p
    | query sql values => exact Pool.uneventful_fetchOn c sql values p
    | commit => cases hu
    | rollback => cases hu
  · have hsent := Pool.uneventful_command c sql (Message.level?_finishing hu) p
    rw [run_eq_finish u hu]
    simp only [finish]
    -- where the connection goes is no matter of levels
    rcases hanswer : Pool.onServer (Server.command c sql) p with ⟨e | a, p'⟩
    · rw [hanswer] at hsent
      exact hsent
    · rw [hanswer] at hsent
      exact hsent

/-- **A use of a pool** is uneventful, unless it begins a transaction. -/
theorem PoolUse.uneventful_run {u : PoolUse} (hu : ∀ o, u ≠ begin o)
    (s : PoolInUse (Levelled σ)) : Pool.Uneventful s.pool (u.run s).2.pool := by
  cases u with
  | exec sql values =>
    exact Pool.uneventful_withConnection (fun c => Pool.uneventful_execOn c sql values) s.pool
  | query sql values =>
    exact Pool.uneventful_withConnection (fun c => Pool.uneventful_fetchOn c sql values) s.pool
  | prepare sql =>
    have hprepare := fun c => (Pool.uneventful_prepare (σ := σ) c sql).bind fun _ =>
      Moves.pure (Statement.mk sql)
    exact Pool.uneventful_withConnection hprepare s.pool
  | ping =>
    exact Pool.uneventful_withConnection Pool.uneventful_ping s.pool
  | close => exact .of_server rfl
  | begin o => exact absurd rfl (hu o)
  | within n u =>
    simp only [run]
    cases s.transactions[n]? with
    | none => exact refl_of Pool.Uneventful s.pool
    | some x => exact Transaction.uneventful_run u x s.pool
  | abandon n =>
    simp only [run]
    cases s.transactions[n]? with
    | none => exact refl_of Pool.Uneventful s.pool
    | some x =>
      obtain ⟨_ | c⟩ := x
      · exact .of_server rfl
      · exact .of_server rfl

end Uneventful

/-! ## Turns -/

namespace Turn

/-- The messages heard in a turn. -/
def heard (t : Turn (Levelled σ)) : List Heard :=
  t.left.pool.server.heard.drop t.found.pool.server.heard.length

/-- **Whether a turn leaves no level to others**, and takes none from others: the connections that
can be lent next have none set, and what makes a transaction is heard under the level that the use
itself asks for. -/
structure Clean (t : Turn (Levelled σ)) : Prop where
  idle : ∀ c ∈ t.left.pool.idle, t.left.pool.server.level c = .serverDefault
  heard : ∀ h ∈ t.heard, h.message.transacts = true → h.level = t.use.level

/-- **Whether a turn strands a level**: it begins a transaction, setting the level is taken, and
starting is refused. -/
def Strands (t : Turn (Levelled σ)) : Prop :=
  ∃ o c sql before, t.use = .begin o ∧ Pool.setting? o.isolation = some sql ∧
    t.heard = [⟨c, .command sql, before, true⟩,
      ⟨c, .command (Pool.starting o.readOnly), o.isolation, false⟩]

theorem heard_eq {t : Turn (Levelled σ)} {hs : List Heard}
    (h : t.left.pool.server.heard = t.found.pool.server.heard ++ hs) : t.heard = hs := by
  rw [heard, h, List.drop_left]

end Turn

section Turns

variable [Server σ]

/-- What a beginning does to the pool in use. -/
theorem PoolUse.pool_run_begin (o : TransactionOptions) (s : PoolInUse σ) :
    ((begin o).run s).2.pool = (Pool.begin o s.pool).2 := by
  simp only [run]
  rcases Pool.begin o s.pool with ⟨e | x, p⟩
  · rfl
  · rfl

/-- The level that a use asks for, unless it begins a transaction. -/
theorem PoolUse.level_of_ne {u : PoolUse} (hu : ∀ o, u ≠ begin o) : u.level = .serverDefault := by
  cases u with
  | begin o => exact absurd rfl (hu o)
  | _ => rfl

variable {t : Turn (Levelled σ)} (ht : t.left = (t.use.run t.found).2)
include ht

/-- **A turn that strands no level leaves none**, where none was. -/
theorem Turn.clean_of_unset (hunset : t.found.pool.server.Unset) (hstrands : ¬ t.Strands) :
    t.left.pool.server.Unset ∧ t.Clean := by
  suffices h : t.left.pool.server.Unset ∧
      ∀ h ∈ t.heard, h.message.transacts = true → h.level = t.use.level from
    ⟨h.1, fun c _ => h.1 c, h.2⟩
  by_cases hbegin : ∃ o, t.use = .begin o
  · obtain ⟨o, ho⟩ := hbegin
    obtain ⟨hs, hheard, hbeginning⟩ := Pool.begin_spec o t.found.pool
    rw [← PoolUse.pool_run_begin, ← ho, ← ht] at hheard hbeginning
    rw [Turn.heard_eq hheard]
    obtain hclean | ⟨c, sql, before, hset, rfl⟩ := hbeginning.clean_or_strands hunset
    · rw [ho]
      exact hclean
    · exact absurd ⟨o, c, sql, before, ho, hset, Turn.heard_eq hheard⟩ hstrands
  · have hother : ∀ o, t.use ≠ .begin o := fun o ho => hbegin ⟨o, ho⟩
    have huneventful := PoolUse.uneventful_run hother t.found
    rw [← ht] at huneventful
    obtain ⟨hunset', hs, hheard, hlevel⟩ := huneventful hunset
    rw [Turn.heard_eq hheard, PoolUse.level_of_ne hother]
    exact ⟨hunset', fun h hh _ => hlevel h hh⟩

/-- **A turn that strands a level leaves it** to whoever is lent the connection next. -/
theorem Turn.left_of_strands (hstrands : t.Strands) :
    ∃ c ∈ t.left.pool.idle, t.left.pool.server.level c = t.use.level ∧
      t.use.level ≠ .serverDefault := by
  obtain ⟨o, c, sql, before, ho, -, hhs⟩ := hstrands
  obtain ⟨hs, hheard, hbeginning⟩ := Pool.begin_spec o t.found.pool
  rw [← PoolUse.pool_run_begin, ← ho, ← ht] at hheard hbeginning
  rw [← Turn.heard_eq hheard, hhs] at hbeginning
  rw [ho]
  exact hbeginning.left_of_refused rfl

end Turns

/-! ## Runs -/

namespace PoolInUse

variable [Server σ]

/-- A turn is the use of what it found. -/
theorem left_of_mem_play {s : PoolInUse σ} {asked : List PoolUse} :
    ∀ t ∈ s.play asked, t.left = (t.use.run t.found).2 := by
  induction asked generalizing s with
  | nil => exact fun _ ht => absurd ht List.not_mem_nil
  | cons u asked ih => exact List.forall_mem_cons.mpr ⟨rfl, ih⟩

/-- **A run that strands no level leaves none.** The induction carries that none is set between its
turns. -/
theorem clean_of_play {s : PoolInUse (Levelled σ)} (hunset : s.pool.server.Unset)
    {asked : List PoolUse} (hstrands : ∀ t ∈ s.play asked, ¬ t.Strands) :
    ∀ t ∈ s.play asked, t.Clean := by
  induction asked generalizing s with
  | nil => exact fun _ ht => absurd ht List.not_mem_nil
  | cons u asked ih =>
    obtain ⟨hturn, hturns⟩ := List.forall_mem_cons.mp hstrands
    obtain ⟨hunset', hclean⟩ := Turn.clean_of_unset rfl hunset hturn
    exact List.forall_mem_cons.mpr ⟨hclean, ih hunset' hturns⟩

/-- **Which runs leave no level to others.** Keeping levels changes nothing of a run. Every turn of
it is clean just when none strands a level; and a turn that strands one leaves it on a connection
that can be lent next. -/
theorem levels_left_iff (s : PoolInUse σ) (asked : List PoolUse) :
    let turns := s.levelled.play asked
    turns.map (Turn.seen Levelled.server) = s.play asked ∧
      ((∀ t ∈ turns, t.Clean) ↔ ∀ t ∈ turns, ¬ t.Strands) ∧
      ∀ t ∈ turns, t.Strands → ∃ c ∈ t.left.pool.idle,
        t.left.pool.server.level c = t.use.level ∧ t.use.level ≠ .serverDefault := by
  have hleft : ∀ t ∈ s.levelled.play asked, t.Strands → _ := fun t ht =>
    Turn.left_of_strands (left_of_mem_play t ht)
  refine ⟨(play_seen Levelled.mimics s.levelled asked).symm, ⟨fun hclean t ht hstrands => ?_, ?_⟩,
    hleft⟩
  · obtain ⟨c, hidle, hlevel, hset⟩ := hleft t ht hstrands
    exact hset (hlevel.symm.trans ((hclean t ht).idle c hidle))
  · exact clean_of_play fun _ => rfl

/-- A transaction that cannot be started: its level stays on the connection, and the next statement
is run under it. -/
theorem serializable_left_behind :
    let server : ScriptedServer := { answers := [("START TRANSACTION", .refused)] }
    let s : PoolInUse ScriptedServer := { pool := { server } }
    let turns := s.levelled.play [.begin { isolation := .serializable }, .exec "DELETE FROM t" []]
    turns.map (fun t => (t.left.pool.idle, t.left.pool.server.level ⟨0⟩)) =
        [([⟨0⟩], .serializable), ([⟨0⟩], .serverDefault)] ∧
      turns.map Turn.heard =
        [[⟨⟨0⟩, .command "SET TRANSACTION ISOLATION LEVEL SERIALIZABLE", .serverDefault, true⟩,
            ⟨⟨0⟩, .command "START TRANSACTION", .serializable, false⟩],
          [⟨⟨0⟩, .prepare "DELETE FROM t", .serializable, true⟩,
            ⟨⟨0⟩, .execute "DELETE FROM t" [], .serializable, true⟩]] ∧
      ¬ ∀ t ∈ turns, t.Clean := by
  refine ⟨rfl, rfl, fun hclean => ?_⟩
  have hleft := (hclean _ List.mem_cons_self).idle ⟨0⟩ List.mem_cons_self
  exact absurd (show Isolation.serializable = .serverDefault from hleft) (by decide)

end PoolInUse

end Rowbind.MySql
