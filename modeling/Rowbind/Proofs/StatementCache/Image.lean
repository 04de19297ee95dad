import Rowbind.Proofs.StatementCache.Upkeep
import Rowbind.StatementCache.Session

/-!
# A cache does not look at its statements

The moves of a cache look at texts and numbers, never at the statements that entries have. So a
cache whose statements are replaced by others (`StatementCache.map`) makes the same moves, and what
it leaves is what the first one leaves, replaced in the same way. Likewise a session in one world
does what a session in another does (`CacheSession.follows_request`), if preparing and closing do.
-/

namespace Rowbind

/-- **Whether a step does what another does**, its answers seen as `f` shows them and its states
as `g` does. -/
def Step.Follows {σ σ' α β : Type} (f : α → β) (g : σ → σ') (x : Step σ α) (y : Step σ' β) : Prop :=
  ∀ s, y (g s) = ((x s).1.map f, g (x s).2)

/-- An entry with its statement replaced. -/
def CacheEntry.map {τ τ' : Type} (f : τ → τ') (e : CacheEntry τ) : CacheEntry τ' where
  number := e.number
  sql := e.sql
  statement := e.statement.map f
  users := e.users
  evicted := e.evicted

/-- A lease with its statement replaced. -/
def Lease.map {τ τ' : Type} (f : τ → τ') (l : Lease τ) : Lease τ' := ⟨l.entry, f l.statement⟩

namespace StatementCache

variable {τ τ' : Type} (f : τ → τ') (c : StatementCache τ)

/-- **A cache with its statements replaced.** -/
def map : StatementCache τ' where
  capacity := c.capacity
  capacity_pos := c.capacity_pos
  keyOf := c.keyOf
  entries := c.entries.map (CacheEntry.map f)
  held := c.held
  retired := c.retired
  made := c.made

theorem entryAt?_map (n : Nat) : (c.map f).entryAt? n = (c.entryAt? n).map (CacheEntry.map f) :=
  List.find?_map ..

theorem statement?_map (n : Nat) : (c.map f).statement? n = (c.statement? n).map f := by
  unfold statement?
  rw [entryAt?_map]
  cases c.entryAt? n <;> rfl

theorem find?_map (sql : String) : (c.map f).find? sql = c.find? sql := by
  apply congrArg (fun p => (c.held.lookup (c.keyOf sql)).filter p)
  funext n
  rw [entryAt?_map]
  cases c.entryAt? n <;> rfl

/-! ## The moves -/

theorem edit_map (g : CacheEntry τ → CacheEntry τ) (g' : CacheEntry τ' → CacheEntry τ')
    (h : ∀ e, g' (e.map f) = (g e).map f) (n : Nat) :
    (c.map f).edit n g' = (c.edit n g).map f := by
  unfold edit map
  simp only [List.map_map, mk.injEq, true_and, and_true]
  apply List.map_congr_left
  intro e _
  show (if e.number = n then g' (e.map f) else e.map f) = (if e.number = n then g e else e).map f
  split
  · exact h e
  · rfl

theorem retireIfDone_map (n : Nat) : (c.map f).retireIfDone n = (c.retireIfDone n).map f := by
  unfold retireIfDone
  rw [entryAt?_map]
  cases c.entryAt? n with
  | none => rfl
  | some e =>
    show (if e.evicted && e.users == 0 then _ else _) =
      map f (if e.evicted && e.users == 0 then _ else _)
    split <;> rfl

theorem evict_map (n : Nat) : (c.map f).evict n = (c.evict n).map f := by
  have hedit := edit_map f c CacheEntry.markEvicted CacheEntry.markEvicted (fun _ => rfl) n
  exact (congrArg (retireIfDone n) hedit).trans (retireIfDone_map f _ n)

theorem release_map (n : Nat) : (c.map f).release n = (c.release n).map f := by
  have hedit := edit_map f c CacheEntry.leave CacheEntry.leave (fun _ => rfl) n
  exact (congrArg (retireIfDone n) hedit).trans (retireIfDone_map f _ n)

theorem fulfil_map (n : Nat) (t : τ) : (c.map f).fulfil n (f t) = (c.fulfil n t).map f :=
  edit_map f c (CacheEntry.give t) (CacheEntry.give (f t)) (fun _ => rfl) n

theorem insert_map (sql : String) :
    (c.map f).insert sql = ((c.insert sql).1, (c.insert sql).2.map f) := by
  have hadopt : ∀ out, (c.map f).adopt sql out = (c.adopt sql out).map f := by
    intro out
    unfold adopt map
    simp only [List.map_append]
    rfl
  show (c.made, ((c.replaced? (c.keyOf sql)).elim ((c.map f).adopt sql (c.replaced? (c.keyOf sql)))
    fun h => ((c.map f).adopt sql (c.replaced? (c.keyOf sql))).evict h.2)) = (c.made, map f
      ((c.replaced? (c.keyOf sql)).elim (c.adopt sql (c.replaced? (c.keyOf sql)))
        fun h => (c.adopt sql (c.replaced? (c.keyOf sql))).evict h.2))
  rw [hadopt]
  cases c.replaced? (c.keyOf sql) with
  | none => rfl
  | some h => exact congrArg (Prod.mk c.made) (evict_map f _ h.2)

theorem checkOut_map (sql : String) :
    (c.map f).checkOut sql = ((c.checkOut sql).1, (c.checkOut sql).2.map f) := by
  unfold checkOut
  rw [find?_map]
  cases c.find? sql with
  | some n =>
    exact congrArg (Prod.mk n)
      (edit_map f (c.promote (c.keyOf sql) n) CacheEntry.join CacheEntry.join (fun _ => rfl) n)
  | none =>
    simp only [insert_map]
    exact congrArg (Prod.mk _)
      (edit_map f (c.insert sql).2 CacheEntry.join CacheEntry.join (fun _ => rfl) _)

theorem evictAll_map : (c.map f).evictAll = c.evictAll.map f := by
  have heach : ∀ (places : List (UInt64 × Nat)) (c : StatementCache τ),
      places.foldl (fun c h => c.evict h.2) (c.map f) =
        (places.foldl (fun c h => c.evict h.2) c).map f := by
    intro places
    induction places with
    | nil => exact fun c => rfl
    | cons h places ih =>
      intro c
      rw [List.foldl_cons, evict_map, ih, List.foldl_cons]
  exact heach c.held.reverse { c with held := [] }

theorem takeRetired_map :
    (c.map f).takeRetired = (c.takeRetired.1.map f, c.takeRetired.2.map f) := by
  refine Prod.ext ?_ ?_
  · show c.retired.filterMap (c.map f).statement? = (c.retired.filterMap c.statement?).map f
    rw [List.map_filterMap]
    exact List.filterMap_congr fun n _ => statement?_map f c n
  · unfold takeRetired map
    simp only [List.filter_map, mk.injEq, true_and, and_true]
    rfl

end StatementCache

namespace CacheSession

variable {τ τ' ω ω' : Type}

/-- A session with its statements replaced, in another world. -/
def map (f : τ → τ') (g : ω → ω') (s : CacheSession τ ω) : CacheSession τ' ω' :=
  ⟨s.cache.map f, g s.world⟩

variable {f : τ → τ'} {g : ω → ω'} {close : τ → Step ω Unit} {close' : τ' → Step ω' Unit}
  (hclose : ∀ t w, (close' (f t)).swallow (g w) = g ((close t).swallow w))
include hclose

theorem closeRetired_map (s : CacheSession τ ω) :
    closeRetired close' (s.map f g) = (closeRetired close s).map f g := by
  have hworld : ∀ (ts : List τ) (w : ω), (ts.map f).foldl (fun w t => (close' t).swallow w) (g w) =
      g (ts.foldl (fun w t => (close t).swallow w) w) := by
    intro ts
    induction ts with
    | nil => exact fun w => rfl
    | cons t ts ih =>
      intro w
      rw [List.map_cons, List.foldl_cons, hclose, ih, List.foldl_cons]
  unfold closeRetired map
  rw [StatementCache.takeRetired_map]
  exact congrArg (CacheSession.mk _) (hworld _ _)

theorem start_map (sql : String) (s : CacheSession τ ω) :
    start close' sql (s.map f g) = ((start close sql s).1, (start close sql s).2.map f g) := by
  unfold start
  have hcheckOut : (s.map f g).cache.checkOut sql =
      ((s.cache.checkOut sql).1, (s.cache.checkOut sql).2.map f) :=
    StatementCache.checkOut_map f s.cache sql
  rw [hcheckOut]
  exact congrArg (Prod.mk _) (closeRetired_map hclose ⟨(s.cache.checkOut sql).2, s.world⟩)

theorem clear_map (s : CacheSession τ ω) :
    clear close' (s.map f g) = (clear close s).map f g := by
  unfold clear
  have hevictAll : (s.map f g).cache.evictAll = s.cache.evictAll.map f :=
    StatementCache.evictAll_map f s.cache
  rw [hevictAll]
  exact closeRetired_map hclose ⟨s.cache.evictAll, s.world⟩

/-- **A request in another world** does the same, if preparing does. -/
theorem follows_request (sql : String) {prepare : Step (CacheSession τ ω) τ}
    {prepare' : Step (CacheSession τ' ω') τ'}
    (hprepare : Step.Follows f (map f g) prepare prepare') :
    Step.Follows (Lease.map f) (map f g) (request close sql prepare)
      (request close' sql prepare') := by
  intro s
  unfold request
  rw [start_map hclose]
  rcases start close sql s with ⟨n, t⟩
  have hstatement : (t.map f g).cache.statement? n = (t.cache.statement? n).map f :=
    StatementCache.statement?_map f t.cache n
  simp only [hstatement]
  cases t.cache.statement? n with
  | some st => rfl
  | none =>
    simp only [Option.map_none, hprepare t]
    rcases prepare t with ⟨e | st, u⟩
    · exact congrArg (Prod.mk _) (congrArg (CacheSession.mk · _) (StatementCache.release_map ..))
    · exact congrArg (Prod.mk _) (congrArg (CacheSession.mk · _) (StatementCache.fulfil_map ..))

end CacheSession

end Rowbind
