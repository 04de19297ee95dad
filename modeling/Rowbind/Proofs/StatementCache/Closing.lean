import Rowbind.Proofs.StatementCache.Uses
import Rowbind.StatementCache.Script

/-!
# When statements are closed

A **desk** is a session of the statement cache with all who use it: the requests whose statement is
being prepared, and the leases that were not given back. Its steps are what a session can go through
(`Desk.Step`). A request begins, finds its statement or has it prepared, and ends; while it is being
prepared, any other step may happen, so long as no text is asked for that is being prepared. A
request that runs inside the preparation of another is a case of this, and so are requests that
overlap.

However the steps are ordered, a statement that somebody has a lease on, or that the request it was
prepared for has not delivered, is not closed; no statement is closed twice; and once no lease is
left, clearing the cache closes what is left of the statements delivered (`Desk.closing`).

What carries this is an account (`Desk.Inv.account`): the statements delivered are those closed,
each once, and those that stand. A closed statement does not stand, and a leased one does.
-/

namespace Rowbind

/-- **A request whose statement is being prepared**, and the statement once it has been. -/
structure Preparation where
  entry : Nat
  sql : String
  made : Option ScriptedStatement

/-- **A session and those who use it.** `delivered` are the statements that requests have ended
with. -/
structure Desk where
  session : ScriptSession
  preparing : List Preparation := []
  leases : List (Lease ScriptedStatement) := []
  delivered : List ScriptedStatement := []

namespace Desk

/-- The cache of the session. -/
def cache (D : Desk) : StatementCache ScriptedStatement := D.session.cache

/-- What has been prepared and closed. -/
def log (D : Desk) : List CacheEvent := D.session.world.log

/-- Whether a text may be asked for: no preparation of it is running. -/
def Free (D : Desk) (sql : String) : Prop := ∀ p ∈ D.preparing, p.sql ≠ sql

/-- **What a session can go through.** -/
inductive Step : Desk → Desk → Prop
  /-- A request finds its statement. -/
  | found {D : Desk} {sql : String} {n : Nat} {s : ScriptSession} {t : ScriptedStatement}
      (hfree : D.Free sql) (hstart : D.session.start ScriptWorld.close sql = (n, s))
      (hstatement : s.cache.statement? n = some t) :
      Step D { D with session := s, leases := ⟨n, t⟩ :: D.leases }
  /-- A request does not find its statement, and begins to prepare it. -/
  | begin {D : Desk} {sql : String} {n : Nat} {s : ScriptSession}
      (hfree : D.Free sql) (hstart : D.session.start ScriptWorld.close sql = (n, s))
      (hstatement : s.cache.statement? n = none) :
      Step D { D with session := s, preparing := ⟨n, sql, none⟩ :: D.preparing }
  /-- A statement is prepared, and its request goes on. -/
  | prepare {D : Desk} {before after : List Preparation} {p : Preparation} {failsToClose : Bool}
      {t : ScriptedStatement} {w : ScriptWorld}
      (hpreparing : D.preparing = before ++ p :: after) (hmade : p.made = none)
      (hprepare : ScriptWorld.prepare p.sql false failsToClose D.session.world = (.ok t, w)) :
      Step D { D with
        session := { D.session with world := w }
        preparing := before ++ { p with made := some t } :: after }
  /-- A request ends with the statement prepared. -/
  | deliver {D : Desk} {before after : List Preparation} {p : Preparation}
      {t : ScriptedStatement} {l : Lease ScriptedStatement} {s : ScriptSession}
      (hpreparing : D.preparing = before ++ p :: after) (hmade : p.made = some t)
      (hfinish : CacheSession.finish p.entry (.ok t, D.session) = (.ok l, s)) :
      Step D { session := s, preparing := before ++ after, leases := l :: D.leases,
               delivered := t :: D.delivered }
  /-- A request fails. -/
  | fail {D : Desk} {before after : List Preparation} {p : Preparation} {e : Error}
      {s : ScriptSession} (hpreparing : D.preparing = before ++ p :: after)
      (hfinish : CacheSession.finish p.entry (.error e, D.session) = (.error e, s)) :
      Step D { D with session := s, preparing := before ++ after }
  /-- A lease is given back. -/
  | giveBack {D : Desk} {before after : List (Lease ScriptedStatement)}
      {l : Lease ScriptedStatement} (hleases : D.leases = before ++ l :: after) :
      Step D { D with session := D.session.giveBack l, leases := before ++ after }
  /-- The cache is cleared. -/
  | clear {D : Desk} : Step D { D with session := D.session.clear ScriptWorld.close }

/-- **The desks that a new cache's session can come to.** -/
inductive Reachable (capacity : Nat) (keyOf : String → UInt64) : Desk → Prop
  | new {c : StatementCache ScriptedStatement}
      (hnew : StatementCache.new? capacity keyOf = some c) :
      Reachable capacity keyOf { session := ⟨c, {}⟩ }
  | step {D D' : Desk} (hreachable : Reachable capacity keyOf D) (hstep : Step D D') :
      Reachable capacity keyOf D'

/-- The serial numbers of the statements closed, in order. -/
def closedSerials (log : List CacheEvent) : List Nat :=
  log.filterMap fun
    | .closed serial => some serial
    | .prepared _ _ => none

/-- The statements that have been prepared for requests that have not ended. -/
def made (D : Desk) : List ScriptedStatement := D.preparing.filterMap Preparation.made

/-- How many use an entry. -/
def usersOf (D : Desk) (n : Nat) : Nat :=
  D.leases.countP (·.entry == n) + D.preparing.countP (·.entry == n)

/-- **What holds of every reachable desk.** -/
structure Inv (capacity : Nat) (D : Desk) : Prop where
  sound : D.cache.Sound
  capacity_eq : D.cache.capacity = capacity
  users : ∀ n u, D.cache.use? n = some u → u.users = D.usersOf n
  leased : ∀ l ∈ D.leases, ∃ u, D.cache.use? l.entry = some u ∧ u.statement = some l.statement
  preparing : ∀ p ∈ D.preparing, ∃ u, D.cache.use? p.entry = some u ∧ u.sql = p.sql ∧
    u.statement = none
  texts : (D.preparing.map Preparation.sql).Nodup
  distinct : ((D.delivered ++ D.made).map ScriptedStatement.serial).Nodup
  numbered : ∀ t ∈ D.delivered ++ D.made, t.serial ≤ D.session.world.serials
  account : (closedSerials D.log ++ D.cache.standing.map ScriptedStatement.serial).Perm
    (D.delivered.map ScriptedStatement.serial)

/-! ## Users -/

section Users

variable {capacity : Nat} {D : Desk}

theorem usersOf_pos_of_lease {l : Lease ScriptedStatement} (h : l ∈ D.leases) :
    0 < D.usersOf l.entry := by
  have hpos : 0 < D.leases.countP (·.entry == l.entry) :=
    List.countP_pos_iff.mpr ⟨l, h, beq_self_eq_true l.entry⟩
  exact Nat.lt_of_lt_of_le hpos (Nat.le_add_right _ _)

theorem usersOf_pos_of_preparation {p : Preparation} (h : p ∈ D.preparing) :
    0 < D.usersOf p.entry := by
  have hpos : 0 < D.preparing.countP (·.entry == p.entry) :=
    List.countP_pos_iff.mpr ⟨p, h, beq_self_eq_true p.entry⟩
  exact Nat.lt_of_lt_of_le hpos (Nat.le_add_left _ _)

theorem usersOf_lease (leases : List (Lease ScriptedStatement)) (preparing : List Preparation)
    (n : Nat) (t : ScriptedStatement) (m : Nat) :
    leases.countP (·.entry == m) + preparing.countP (·.entry == m) + (if m = n then 1 else 0) =
      ((⟨n, t⟩ : Lease ScriptedStatement) :: leases).countP (·.entry == m) +
        preparing.countP (·.entry == m) := by
  rw [List.countP_cons]
  simp only [beq_iff_eq, eq_comm (a := m)]
  omega

theorem usersOf_preparation (leases : List (Lease ScriptedStatement))
    (preparing : List Preparation) (n : Nat) (sql : String) (m : Nat) :
    leases.countP (·.entry == m) + preparing.countP (·.entry == m) + (if m = n then 1 else 0) =
      leases.countP (·.entry == m) +
        ((⟨n, sql, none⟩ : Preparation) :: preparing).countP (·.entry == m) := by
  rw [List.countP_cons]
  simp only [beq_iff_eq, eq_comm (a := m)]
  omega

/-- Nobody uses an entry that is not there. -/
theorem Inv.usersOf_eq_zero (h : Inv capacity D) {n : Nat} (hn : D.cache.use? n = none) :
    D.usersOf n = 0 := by
  refine Nat.add_eq_zero_iff.mpr ⟨List.countP_eq_zero.mpr ?_, List.countP_eq_zero.mpr ?_⟩
  · intro l hl hentry
    obtain ⟨u, hu, -⟩ := h.leased l hl
    rw [beq_iff_eq.mp hentry, hn] at hu
    cases hu
  · intro p hp hentry
    obtain ⟨u, hu, -⟩ := h.preparing p hp
    rw [beq_iff_eq.mp hentry, hn] at hu
    cases hu

/-- An entry in use is not taken out. -/
theorem Inv.use?_of_used (h : Inv capacity D) {n : Nat} (hn : 0 < D.usersOf n) :
    D.cache.takeRetired.2.use? n = D.cache.use? n := by
  rcases StatementCache.use?_takeRetired h.sound n with hsame | ⟨-, u, hu, hzero⟩
  · exact hsame
  · have := h.users n u hu
    omega

end Users

/-! ## Closing what has retired -/

/-- Closing statements writes into the log that they are closed, and nothing else. -/
theorem closeAll_eq (ts : List ScriptedStatement) (w : ScriptWorld) :
    ts.foldl (fun w t => (ScriptWorld.close t).swallow w) w =
      { w with log := w.log ++ ts.map fun t => .closed t.serial } := by
  induction ts generalizing w with
  | nil => simp
  | cons t ts ih =>
    rw [List.foldl_cons, ih]
    show ({ w with log := w.log ++ [.closed t.serial] ++ _ } : ScriptWorld) = _
    simp

theorem closedSerials_closeAll (ts : List ScriptedStatement) (w : ScriptWorld) :
    closedSerials (ts.foldl (fun w t => (ScriptWorld.close t).swallow w) w).log =
      closedSerials w.log ++ ts.map ScriptedStatement.serial := by
  rw [closeAll_eq]
  simp [closedSerials, List.filterMap_eq_map']

/-- **Closing what has retired** moves statements from those that stand to those closed. -/
theorem Inv.closeRetired {capacity : Nat} {D : Desk} (h : Inv capacity D) :
    Inv capacity { D with session := D.session.closeRetired ScriptWorld.close } := by
  have hlog := closedSerials_closeAll D.cache.takeRetired.1 D.session.world
  have hserials := congrArg ScriptWorld.serials
    (closeAll_eq D.cache.takeRetired.1 D.session.world)
  exact {
    sound := h.sound.takeRetired
    capacity_eq := h.capacity_eq
    users := by
      intro n u hu
      rcases StatementCache.use?_takeRetired h.sound n with hsame | ⟨hnone, -⟩
      · exact h.users n u (hsame.symm.trans hu)
      · cases hnone.symm.trans hu
    leased := by
      intro l hl
      obtain ⟨u, hu, hstatement⟩ := h.leased l hl
      exact ⟨u, (h.use?_of_used (usersOf_pos_of_lease hl)).trans hu, hstatement⟩
    preparing := by
      intro p hp
      obtain ⟨u, hu, hsql⟩ := h.preparing p hp
      exact ⟨u, (h.use?_of_used (usersOf_pos_of_preparation hp)).trans hu, hsql⟩
    texts := h.texts
    distinct := h.distinct
    numbered := by
      intro t ht
      exact hserials.symm ▸ h.numbered t ht
    account := by
      show (closedSerials (D.cache.takeRetired.1.foldl
        (fun w t => (ScriptWorld.close t).swallow w) D.session.world).log ++
          D.cache.takeRetired.2.standing.map ScriptedStatement.serial).Perm _
      rw [hlog, List.append_assoc, ← List.map_append]
      exact (((StatementCache.standing_takeRetired h.sound).map _).append_left _).trans h.account }

/-! ## Requests that begin -/

section CheckOut

variable {capacity : Nat} {D : Desk} (h : Inv capacity D) (sql : String)
include h

/-- A request uses one entry more than is used without it. -/
theorem Inv.users_checkOut {m : Nat} {u : EntryUse ScriptedStatement}
    (hu : (D.cache.checkOut sql).2.use? m = some u) :
    u.users = D.usersOf m + if m = (D.cache.checkOut sql).1 then 1 else 0 := by
  obtain ⟨statement, users, hbefore, hafter⟩ := StatementCache.use?_checkOut h.sound sql
  rw [hafter] at hu
  by_cases hm : m = (D.cache.checkOut sql).1
  · rw [if_pos hm] at hu
    cases hu
    rw [if_pos hm, hm]
    rcases hbefore with hsome | ⟨hnone, -, rfl⟩
    · rw [← h.users _ _ hsome]
    · rw [h.usersOf_eq_zero hnone]
  · rw [if_neg hm] at hu ⊢
    exact h.users m u hu

/-- What the users of an entry see of it but their number stays. -/
theorem Inv.use?_checkOut_of_some {m : Nat} {u : EntryUse ScriptedStatement}
    (hu : D.cache.use? m = some u) :
    ∃ u', (D.cache.checkOut sql).2.use? m = some u' ∧ u'.sql = u.sql ∧
      u'.statement = u.statement := by
  obtain ⟨statement, users, hbefore, hafter⟩ := StatementCache.use?_checkOut h.sound sql
  rw [hafter]
  by_cases hm : m = (D.cache.checkOut sql).1
  · rw [if_pos hm]
    rw [hm] at hu
    rcases hbefore with hsome | ⟨hnone, -⟩
    · rw [hsome] at hu
      cases hu
      exact ⟨_, rfl, rfl, rfl⟩
    · cases hnone.symm.trans hu
  · rw [if_neg hm]
    exact ⟨u, hu, rfl, rfl⟩

/-- A request's entry is one for its text. -/
theorem Inv.use?_checkOut_self :
    ∃ u, (D.cache.checkOut sql).2.use? (D.cache.checkOut sql).1 = some u ∧ u.sql = sql ∧
      u.statement = (D.cache.checkOut sql).2.statement? (D.cache.checkOut sql).1 := by
  obtain ⟨statement, users, -, hafter⟩ := StatementCache.use?_checkOut h.sound sql
  have hself := hafter (D.cache.checkOut sql).1
  rw [if_pos rfl] at hself
  refine ⟨_, hself, rfl, ?_⟩
  rw [StatementCache.statement?_eq, hself]
  rfl

/-- Closing what has retired leaves a request its entry. -/
theorem Inv.statement?_start {n : Nat} {s : ScriptSession}
    (hstart : D.session.start ScriptWorld.close sql = (n, s)) :
    n = (D.cache.checkOut sql).1 ∧ s = CacheSession.closeRetired ScriptWorld.close
        { D.session with cache := (D.cache.checkOut sql).2 } ∧
      (D.cache.checkOut sql).2.statement? n = s.cache.statement? n := by
  cases hstart
  refine ⟨rfl, rfl, ?_⟩
  obtain ⟨statement, users, -, hafter⟩ := StatementCache.use?_checkOut h.sound sql
  have hself := hafter (D.cache.checkOut sql).1
  rw [if_pos rfl] at hself
  show (D.cache.checkOut sql).2.statement? (D.cache.checkOut sql).1 =
    (D.cache.checkOut sql).2.takeRetired.2.statement? (D.cache.checkOut sql).1
  rw [StatementCache.statement?_eq, StatementCache.statement?_eq]
  rcases StatementCache.use?_takeRetired (h.sound.checkOut sql) (D.cache.checkOut sql).1 with
    hsame | ⟨-, u, hu, hzero⟩
  · rw [hsame]
  · rw [hself] at hu
    cases hu
    cases hzero

/-- A lease keeps its statement when a request begins. -/
theorem Inv.leased_checkOut {l : Lease ScriptedStatement} (hl : l ∈ D.leases) :
    ∃ u, (D.cache.checkOut sql).2.use? l.entry = some u ∧ u.statement = some l.statement := by
  obtain ⟨u, hu, hstatement⟩ := h.leased l hl
  obtain ⟨u', hu', -, hsame⟩ := h.use?_checkOut_of_some sql hu
  exact ⟨u', hu', hsame.trans hstatement⟩

/-- A preparation keeps its entry when a request begins. -/
theorem Inv.preparing_checkOut {p : Preparation} (hp : p ∈ D.preparing) :
    ∃ u, (D.cache.checkOut sql).2.use? p.entry = some u ∧ u.sql = p.sql ∧
      u.statement = none := by
  obtain ⟨u, hu, hsql, hnone⟩ := h.preparing p hp
  obtain ⟨u', hu', hsql', hsame⟩ := h.use?_checkOut_of_some sql hu
  exact ⟨u', hu', hsql'.trans hsql, hsame.trans hnone⟩

/-- A request that begins closes nothing of its own accord. -/
theorem Inv.account_checkOut :
    (closedSerials D.log ++
      (D.cache.checkOut sql).2.standing.map ScriptedStatement.serial).Perm
        (D.delivered.map ScriptedStatement.serial) := by
  rw [StatementCache.standing_checkOut]
  exact h.account

/-- The desk with a text's entry checked out, by which preparations and leases. -/
def checkOut (D : Desk) (sql : String) (preparing : List Preparation)
    (leases : List (Lease ScriptedStatement)) : Desk :=
  { D with
    session := { D.session with cache := (D.cache.checkOut sql).2 }
    preparing := preparing
    leases := leases }

/-- **A lease begins** on a statement that is there. -/
theorem Inv.found {t : ScriptedStatement}
    (ht : (D.cache.checkOut sql).2.statement? (D.cache.checkOut sql).1 = some t) :
    Inv capacity
      (D.checkOut sql D.preparing (⟨(D.cache.checkOut sql).1, t⟩ :: D.leases)) where
  sound := h.sound.checkOut sql
  capacity_eq := (StatementCache.capacity_checkOut _ sql).trans h.capacity_eq
  users := by
    intro n u hu
    rw [h.users_checkOut sql hu]
    exact usersOf_lease D.leases D.preparing _ t n
  leased := by
    intro l hl
    rcases List.mem_cons.mp hl with rfl | hl
    · obtain ⟨u, hu, -, hstatement⟩ := h.use?_checkOut_self sql
      exact ⟨u, hu, hstatement.trans ht⟩
    · exact h.leased_checkOut sql hl
  preparing := by
    intro p hp
    exact h.preparing_checkOut sql hp
  texts := h.texts
  distinct := h.distinct
  numbered := h.numbered
  account := h.account_checkOut sql

/-- **A preparation begins** where the statement is not there. -/
theorem Inv.begin (hfree : D.Free sql)
    (hnone : (D.cache.checkOut sql).2.statement? (D.cache.checkOut sql).1 = none) :
    Inv capacity
      (D.checkOut sql (⟨(D.cache.checkOut sql).1, sql, none⟩ :: D.preparing) D.leases) where
  sound := h.sound.checkOut sql
  capacity_eq := (StatementCache.capacity_checkOut _ sql).trans h.capacity_eq
  users := by
    intro n u hu
    rw [h.users_checkOut sql hu]
    exact usersOf_preparation D.leases D.preparing _ sql n
  leased := by
    intro l hl
    exact h.leased_checkOut sql hl
  preparing := by
    intro p hp
    rcases List.mem_cons.mp hp with rfl | hp
    · obtain ⟨u, hu, hsql, hstatement⟩ := h.use?_checkOut_self sql
      exact ⟨u, hu, hsql, hstatement.trans hnone⟩
    · exact h.preparing_checkOut sql hp
  texts := by
    refine List.nodup_cons.mpr ⟨?_, h.texts⟩
    intro hmem
    obtain ⟨p, hp, hsql⟩ := List.mem_map.mp hmem
    exact hfree p hp hsql
  distinct := h.distinct
  numbered := h.numbered
  account := h.account_checkOut sql

end CheckOut

/-! ## Requests and leases that end -/

section Release

variable {capacity : Nat} {D : Desk} (h : Inv capacity D)
include h

/-- The entry of a preparation or a lease has a user. -/
theorem Inv.entryAt?_of_used {n : Nat} {u : EntryUse ScriptedStatement}
    (hu : D.cache.use? n = some u) (hn : 0 < D.usersOf n) :
    ∃ e, D.cache.entryAt? n = some e ∧ 0 < e.users ∧ e.use = u := by
  obtain ⟨e, he, rfl⟩ := Option.map_eq_some_iff.mp hu
  have husers : e.users = D.usersOf n := h.users n e.use hu
  exact ⟨e, he, by omega, rfl⟩

/-- **A use ends**, a preparation's or a lease's. -/
theorem Inv.release {n : Nat} {u : EntryUse ScriptedStatement} {preparing : List Preparation}
    {leases : List (Lease ScriptedStatement)} (hu : D.cache.use? n = some u)
    (hpreparing : preparing.Sublist D.preparing) (hleases : leases.Sublist D.leases)
    (husers : ∀ m, D.usersOf m =
      leases.countP (·.entry == m) + preparing.countP (·.entry == m) + if m = n then 1 else 0) :
    Inv capacity { D with
      session := { D.session with cache := D.cache.release n }
      preparing := preparing
      leases := leases } := by
  have hused : 0 < D.usersOf n := by
    rw [husers n, if_pos rfl]
    omega
  obtain ⟨e, he, hpos, -⟩ := h.entryAt?_of_used hu hused
  have hkept : ∀ {m : Nat} {u : EntryUse ScriptedStatement}, D.cache.use? m = some u →
      ∃ u', (D.cache.release n).use? m = some u' ∧ u'.sql = u.sql ∧
        u'.statement = u.statement := by
    intro m u hu
    rw [StatementCache.use?_release, hu, Option.map_some]
    split
    · exact ⟨_, rfl, rfl, rfl⟩
    · exact ⟨_, rfl, rfl, rfl⟩
  have hmade : (preparing.filterMap Preparation.made).Sublist D.made :=
    hpreparing.filterMap Preparation.made
  exact {
    sound := h.sound.release he hpos
    capacity_eq := (StatementCache.capacity_release _ n).trans h.capacity_eq
    users := by
      intro m u' hu'
      obtain ⟨u, hu, rfl⟩ := Option.map_eq_some_iff.mp
        ((StatementCache.use?_release D.cache n m).symm.trans hu')
      have hcount := h.users m u hu
      rw [husers m] at hcount
      show _ = leases.countP (·.entry == m) + preparing.countP (·.entry == m)
      by_cases hm : m = n
      · rw [if_pos hm] at hcount
        rw [if_pos hm]
        show u.users - 1 = _
        omega
      · rw [if_neg hm] at hcount
        rw [if_neg hm]
        exact hcount
    leased := by
      intro l hl
      obtain ⟨u, hu, hstatement⟩ := h.leased l (hleases.subset hl)
      obtain ⟨u', hu', -, hsame⟩ := hkept hu
      exact ⟨u', hu', hsame.trans hstatement⟩
    preparing := by
      intro p hp
      obtain ⟨u, hu, hsql, hnone⟩ := h.preparing p (hpreparing.subset hp)
      obtain ⟨u', hu', hsql', hsame⟩ := hkept hu
      exact ⟨u', hu', hsql'.trans hsql, hsame.trans hnone⟩
    texts := h.texts.sublist (hpreparing.map _)
    distinct := h.distinct.sublist ((hmade.append_left D.delivered).map _)
    numbered := by
      intro t ht
      exact h.numbered t ((hmade.append_left D.delivered).subset ht)
    account := by
      show (closedSerials D.log ++ (D.cache.release n).standing.map _).Perm _
      rw [StatementCache.standing_release]
      exact h.account }

/-- **A request fails**, and its use of the entry ends. -/
theorem Inv.fail {before after : List Preparation} {p : Preparation}
    (hpreparing : D.preparing = before ++ p :: after) :
    Inv capacity { D with
      session := { D.session with cache := D.cache.release p.entry }
      preparing := before ++ after } := by
  obtain ⟨u, hu, -⟩ := h.preparing p (hpreparing ▸ by simp)
  have hsublist : (before ++ after).Sublist D.preparing :=
    hpreparing ▸ (List.sublist_cons_self p after).append_left before
  refine h.release hu hsublist (List.Sublist.refl D.leases) ?_
  intro m
  rw [usersOf, hpreparing, List.countP_append, List.countP_append, List.countP_cons]
  simp only [beq_iff_eq, eq_comm (a := m)]
  omega

/-- **A lease is given back**, and its use of the entry ends. -/
theorem Inv.giveBack {before after : List (Lease ScriptedStatement)}
    {l : Lease ScriptedStatement} (hleases : D.leases = before ++ l :: after) :
    Inv capacity { D with session := D.session.giveBack l, leases := before ++ after } := by
  obtain ⟨u, hu, -⟩ := h.leased l (hleases ▸ by simp)
  have hsublist : (before ++ after).Sublist D.leases :=
    hleases ▸ (List.sublist_cons_self l after).append_left before
  refine h.release hu (List.Sublist.refl D.preparing) hsublist ?_
  intro m
  rw [usersOf, hleases, List.countP_append, List.countP_append, List.countP_cons]
  simp only [beq_iff_eq, eq_comm (a := m)]
  omega

/-! ## Statements that are made -/

/-- **A statement is prepared** under a new serial number. -/
theorem Inv.prepare {before after : List Preparation} {p : Preparation} {failsToClose : Bool}
    {t : ScriptedStatement} {w : ScriptWorld} (hpreparing : D.preparing = before ++ p :: after)
    (hmade : p.made = none)
    (hprepare : ScriptWorld.prepare p.sql false failsToClose D.session.world = (.ok t, w)) :
    Inv capacity { D with
      session := { D.session with world := w }
      preparing := before ++ { p with made := some t } :: after } := by
  obtain ⟨rfl, rfl⟩ : t = ⟨D.session.world.serials + 1, p.sql, failsToClose⟩ ∧
      w = { D.session.world with
        serials := D.session.world.serials + 1
        log := D.session.world.log ++ [.prepared (D.session.world.serials + 1) p.sql] } := by
    cases hprepare
    exact ⟨rfl, rfl⟩
  let t : ScriptedStatement := ⟨D.session.world.serials + 1, p.sql, failsToClose⟩
  have hperm : (D.delivered ++
      (before ++ { p with made := some t } :: after).filterMap Preparation.made).Perm
        (t :: (D.delivered ++ D.made)) := by
    have hbefore : D.made = (before ++ after).filterMap Preparation.made := by
      rw [made, hpreparing, List.filterMap_append, List.filterMap_append,
        List.filterMap_cons_none hmade]
    have hafter : (before ++ { p with made := some t } :: after).filterMap Preparation.made =
        before.filterMap Preparation.made ++ t :: after.filterMap Preparation.made := by
      rw [List.filterMap_append, List.filterMap_cons_some (by rfl)]
    rw [hbefore, hafter, List.filterMap_append]
    exact (List.perm_middle.append_left _).trans List.perm_middle
  exact {
    sound := h.sound
    capacity_eq := h.capacity_eq
    users := by
      intro n u hu
      rw [h.users n u hu, usersOf, usersOf, hpreparing, List.countP_append, List.countP_append,
        List.countP_cons, List.countP_cons]
    leased := h.leased
    preparing := by
      intro q hq
      rcases List.mem_append.mp hq with hq | hq
      · exact h.preparing q (hpreparing ▸ List.mem_append_left _ hq)
      · rcases List.mem_cons.mp hq with rfl | hq
        · exact h.preparing p (hpreparing ▸ List.mem_append_right _ List.mem_cons_self)
        · exact h.preparing q (hpreparing ▸ List.mem_append_right _ (List.mem_cons_of_mem _ hq))
    texts := by
      have htexts := h.texts
      rw [hpreparing, List.map_append, List.map_cons] at htexts
      show ((before ++ { p with made := some t } :: after).map Preparation.sql).Nodup
      rw [List.map_append, List.map_cons]
      exact htexts
    distinct := by
      refine (hperm.map _).nodup_iff.mpr (List.nodup_cons.mpr ⟨?_, h.distinct⟩)
      intro hmem
      obtain ⟨t', ht', hserial⟩ := List.mem_map.mp hmem
      have hle := h.numbered t' ht'
      have hlt : t'.serial = D.session.world.serials + 1 := hserial
      omega
    numbered := by
      intro t' ht'
      show t'.serial ≤ D.session.world.serials + 1
      rcases List.mem_cons.mp (hperm.mem_iff.mp ht') with rfl | ht'
      · exact Nat.le_refl _
      · exact Nat.le_succ_of_le (h.numbered t' ht')
    account := by
      have hlog : closedSerials
          (D.session.world.log ++ [.prepared (D.session.world.serials + 1) p.sql]) =
            closedSerials D.log := by
        rw [closedSerials, List.filterMap_append]
        exact List.append_nil _
      show (closedSerials (D.session.world.log ++ _) ++ _).Perm _
      rw [hlog]
      exact h.account }

/-- **A request ends with its statement**, which is a lease's from then on. -/
theorem Inv.deliver {before after : List Preparation} {p : Preparation} {t : ScriptedStatement}
    (hpreparing : D.preparing = before ++ p :: after) (hmade : p.made = some t) :
    Inv capacity {
      session := { D.session with cache := D.cache.fulfil p.entry t }
      preparing := before ++ after
      leases := ⟨p.entry, t⟩ :: D.leases
      delivered := t :: D.delivered } := by
  have hp : p ∈ D.preparing := hpreparing ▸ List.mem_append_right _ List.mem_cons_self
  have hsublist : (before ++ after).Sublist D.preparing :=
    hpreparing ▸ (List.sublist_cons_self p after).append_left before
  obtain ⟨u, hu, hsql, hnone⟩ := h.preparing p hp
  obtain ⟨e, he, -, hentry⟩ := h.entryAt?_of_used hu (usersOf_pos_of_preparation hp)
  have hmine : (D.cache.fulfil p.entry t).use? p.entry =
      some { u with statement := some t } := by
    rw [StatementCache.use?_fulfil, hu, Option.map_some, if_pos rfl]
  have hother : ∀ m, m ≠ p.entry → (D.cache.fulfil p.entry t).use? m = D.cache.use? m := by
    intro m hm
    simp only [StatementCache.use?_fulfil, if_neg hm, Option.map_id']
  have hperm : (t :: D.delivered ++ (before ++ after).filterMap Preparation.made).Perm
      (D.delivered ++ D.made) := by
    rw [made, hpreparing, List.filterMap_append, List.filterMap_append,
      List.filterMap_cons_some hmade, List.cons_append]
    exact (List.perm_middle.symm.trans (List.perm_middle.symm.append_left D.delivered))
  exact {
    sound := h.sound.fulfil p.entry t
    capacity_eq := h.capacity_eq
    users := by
      intro n u' hu'
      have husers : D.usersOf n = (⟨p.entry, t⟩ :: D.leases).countP (·.entry == n) +
          (before ++ after).countP (·.entry == n) := by
        rw [usersOf, hpreparing, List.countP_append, List.countP_append, List.countP_cons,
          List.countP_cons]
        simp only [beq_iff_eq]
        omega
      replace hu' : (D.cache.fulfil p.entry t).use? n = some u' := hu'
      refine Eq.trans ?_ husers
      by_cases hn : n = p.entry
      · rw [hn, hmine] at hu'
        cases hu'
        rw [hn]
        exact h.users _ u hu
      · exact h.users n u' ((hother n hn).symm.trans hu')
    leased := by
      intro l hl
      rcases List.mem_cons.mp hl with rfl | hl
      · exact ⟨_, hmine, rfl⟩
      · obtain ⟨u', hu', hstatement⟩ := h.leased l hl
        have hne : l.entry ≠ p.entry := by
          intro heq
          rw [heq, hu] at hu'
          cases hu'
          cases hnone.symm.trans hstatement
        exact ⟨u', (hother _ hne).trans hu', hstatement⟩
    preparing := by
      intro q hq
      obtain ⟨u', hu', hsql', hnone'⟩ := h.preparing q (hsublist.subset hq)
      -- no other preparation is for this text, so none has this entry
      have hne : q.entry ≠ p.entry := by
        intro heq
        rw [heq, hu] at hu'
        cases hu'
        have htexts := h.texts
        rw [hpreparing, List.map_append, List.map_cons, List.nodup_middle, ← List.map_append,
          List.nodup_cons, ← hsql, hsql'] at htexts
        exact htexts.1 (List.mem_map_of_mem hq)
      exact ⟨u', (hother _ hne).trans hu', hsql', hnone'⟩
    texts := h.texts.sublist (hsublist.map _)
    distinct := (hperm.map _).nodup_iff.mpr h.distinct
    numbered := by
      intro t' ht'
      exact h.numbered t' (hperm.mem_iff.mp ht')
    account := by
      have hestatement : e.statement = none := (congrArg EntryUse.statement hentry).trans hnone
      have hstanding := StatementCache.standing_fulfil h.sound.placed.numbers he hestatement t
      refine ((hstanding.map _).append_left _).trans ?_
      rw [List.map_cons]
      exact List.perm_middle.trans (h.account.cons _) }

/-- **Clearing** evicts everything and closes what is not used. -/
theorem Inv.clear : Inv capacity { D with session := D.session.clear ScriptWorld.close } := by
  have hevicted : Inv capacity { D with
      session := { D.session with cache := D.cache.evictAll } } := {
    sound := h.sound.evictAll
    capacity_eq := (StatementCache.evictAll_frame _).2.trans h.capacity_eq
    users := by
      intro n u hu
      exact h.users n u ((StatementCache.use?_evictAll _ n).symm.trans hu)
    leased := by
      intro l hl
      obtain ⟨u, hu, hstatement⟩ := h.leased l hl
      exact ⟨u, (StatementCache.use?_evictAll _ _).trans hu, hstatement⟩
    preparing := by
      intro p hp
      obtain ⟨u, hu, hsql⟩ := h.preparing p hp
      exact ⟨u, (StatementCache.use?_evictAll _ _).trans hu, hsql⟩
    texts := h.texts
    distinct := h.distinct
    numbered := h.numbered
    account := by
      show (closedSerials D.log ++ D.cache.evictAll.standing.map _).Perm _
      rw [StatementCache.standing_evictAll]
      exact h.account }
  exact hevicted.closeRetired

end Release

/-! ## Every reachable desk -/

/-- A session begins with nothing in its cache. -/
theorem inv_new {capacity : Nat} {keyOf : String → UInt64} {c : StatementCache ScriptedStatement}
    (h : StatementCache.new? capacity keyOf = some c) : Inv capacity { session := ⟨c, {}⟩ } := by
  obtain ⟨hsound, hentries, hcapacity⟩ := StatementCache.sound_new h
  exact {
    sound := hsound
    capacity_eq := hcapacity
    users := by
      intro n u hu
      obtain ⟨e, he, -⟩ := Option.map_eq_some_iff.mp hu
      have hmem : e ∈ c.entries := StatementCache.mem_of_found he
      rw [hentries] at hmem
      exact absurd hmem List.not_mem_nil
    leased := nofun
    preparing := nofun
    texts := List.nodup_nil
    distinct := List.nodup_nil
    numbered := nofun
    account := by
      show (closedSerials [] ++ c.standing.map ScriptedStatement.serial).Perm []
      rw [StatementCache.standing, hentries]
      exact .nil }

/-- **Every step keeps the account.** -/
theorem inv_step {capacity : Nat} {D D' : Desk} (h : Inv capacity D) (hstep : Step D D') :
    Inv capacity D' := by
  cases hstep with
  | found hfree hstart hstatement =>
    obtain ⟨rfl, rfl, hsame⟩ := h.statement?_start _ hstart
    exact (h.found _ (hsame.trans hstatement)).closeRetired
  | begin hfree hstart hstatement =>
    obtain ⟨rfl, rfl, hsame⟩ := h.statement?_start _ hstart
    exact (h.begin _ hfree (hsame.trans hstatement)).closeRetired
  | prepare hpreparing hmade hprepare => exact h.prepare hpreparing hmade hprepare
  | deliver hpreparing hmade hfinish =>
    cases hfinish
    exact h.deliver hpreparing hmade
  | fail hpreparing hfinish =>
    cases hfinish
    exact h.fail hpreparing
  | giveBack hleases => exact h.giveBack hleases
  | clear => exact h.clear

theorem inv_reachable {capacity : Nat} {keyOf : String → UInt64} {D : Desk}
    (h : Reachable capacity keyOf D) : Inv capacity D := by
  induction h with
  | new hnew => exact inv_new hnew
  | step _ hstep ih => exact inv_step ih hstep

/-! ## What is closed -/

section Closed

variable {capacity : Nat} {D : Desk} (h : Inv capacity D)
include h

/-- No statement is both closed and standing, and none is closed twice. -/
theorem Inv.nodup_account :
    (closedSerials D.log ++ D.cache.standing.map ScriptedStatement.serial).Nodup := by
  have hdistinct := h.distinct
  rw [List.map_append] at hdistinct
  exact h.account.nodup_iff.mpr (List.nodup_append.mp hdistinct).1

/-- A leased statement stands. -/
theorem Inv.not_closed_of_lease {l : Lease ScriptedStatement} (hl : l ∈ D.leases) :
    l.statement.serial ∉ closedSerials D.log := by
  obtain ⟨u, hu, hstatement⟩ := h.leased l hl
  obtain ⟨e, he, rfl⟩ := Option.map_eq_some_iff.mp hu
  have hstanding : l.statement ∈ D.cache.standing :=
    List.mem_filterMap.mpr ⟨e, StatementCache.mem_of_found he, hstatement⟩
  intro hclosed
  exact (List.nodup_append.mp h.nodup_account).2.2 _ hclosed _ (List.mem_map_of_mem hstanding) rfl

/-- A statement that is not delivered is not closed. -/
theorem Inv.not_closed_of_made {p : Preparation} {t : ScriptedStatement} (hp : p ∈ D.preparing)
    (ht : p.made = some t) : t.serial ∉ closedSerials D.log := by
  intro hclosed
  have hdelivered : t.serial ∈ D.delivered.map ScriptedStatement.serial :=
    h.account.subset (List.mem_append_left _ hclosed)
  have hmade : t.serial ∈ D.made.map ScriptedStatement.serial :=
    List.mem_map_of_mem (List.mem_filterMap.mpr ⟨p, hp, ht⟩)
  have hdistinct := h.distinct
  rw [List.map_append] at hdistinct
  exact (List.nodup_append.mp hdistinct).2.2 _ hdelivered _ hmade rfl

/-- **Where nothing is leased, clearing leaves no statement standing**: every entry is evicted, and
those that are still used have no statement. -/
theorem Inv.standing_clear (hleases : D.leases = []) :
    (D.session.clear ScriptWorld.close).cache.standing = [] := by
  have hclear := h.clear
  have hretired : (D.session.clear ScriptWorld.close).cache.retired = [] := rfl
  have hheld : (D.session.clear ScriptWorld.close).cache.held = [] :=
    (StatementCache.evictAll_frame D.cache).1
  apply List.filterMap_eq_nil_iff.mpr
  intro e he
  have hentry := StatementCache.entryAt?_of_mem hclear.sound.placed.numbers he
  have hevicted : e.evicted = true := by
    rw [← Bool.not_eq_false]
    intro hevicted
    have hplace := (hclear.sound.placed.held _ e.number).mpr ⟨e, hentry, hevicted, rfl⟩
    rw [List.append_nil] at hplace
    exact absurd (hheld ▸ hplace) List.not_mem_nil
  have husers : e.users ≠ 0 := by
    intro hzero
    have hdue := (hclear.sound.due.retired e.number).mpr ⟨e, hentry, hevicted, hzero⟩
    exact absurd (hretired ▸ hdue) List.not_mem_nil
  have hu : (D.session.clear ScriptWorld.close).cache.use? e.number = some e.use :=
    congrArg (Option.map CacheEntry.use) hentry
  have hcount : e.users = D.usersOf e.number := hclear.users e.number e.use hu
  have hpreparing : 0 < D.preparing.countP (·.entry == e.number) := by
    rw [usersOf, hleases, List.countP_nil, Nat.zero_add] at hcount
    omega
  obtain ⟨p, hp, hnumber⟩ := List.countP_pos_iff.mp hpreparing
  obtain ⟨u, hu', -, hnone⟩ := hclear.preparing p hp
  rw [beq_iff_eq.mp hnumber] at hu'
  cases hu.symm.trans hu'
  exact hnone

/-- Once no lease is left, clearing leaves every statement delivered closed. -/
theorem Inv.account_clear (hleases : D.leases = []) :
    (closedSerials (D.session.clear ScriptWorld.close).world.log).Perm
      (D.delivered.map ScriptedStatement.serial) := by
  have haccount := h.clear.account
  have hstanding : ({ D with session := D.session.clear ScriptWorld.close } : Desk).cache.standing =
      [] := h.standing_clear hleases
  rw [hstanding, List.map_nil, List.append_nil] at haccount
  exact haccount

end Closed

/-- **When statements are closed.** In whatever order requests begin, are prepared, succeed and
fail, leases are given back, and the cache is cleared: -/
theorem closing {capacity : Nat} {keyOf : String → UInt64} {D : Desk}
    (h : Reachable capacity keyOf D) :
    -- a statement is not closed while there is a lease on it
    (∀ l ∈ D.leases, l.statement.serial ∉ closedSerials D.log) ∧
    -- nor while the request that it was prepared for is running
    (∀ p ∈ D.preparing, ∀ t, p.made = some t → t.serial ∉ closedSerials D.log) ∧
    -- no statement is closed twice
    (∀ serial, (closedSerials D.log).count serial ≤ 1) ∧
    -- no more entries are held than there is room for
    D.cache.size ≤ capacity ∧
    -- once no lease is left, clearing leaves every statement delivered closed, once
    (D.leases = [] → ∀ t ∈ D.delivered,
      (closedSerials (D.session.clear ScriptWorld.close).world.log).count t.serial = 1) := by
  have hinv := inv_reachable h
  refine ⟨?_, ?_, ?_, ?_, ?_⟩
  · intro l hl
    exact hinv.not_closed_of_lease hl
  · intro p hp t ht
    exact hinv.not_closed_of_made hp ht
  · intro serial
    exact List.nodup_iff_count_le_one.mp (List.nodup_append.mp hinv.nodup_account).1 serial
  · exact hinv.capacity_eq ▸ hinv.sound.placed.room
  · intro hleases t ht
    have haccount := hinv.account_clear hleases
    have hdistinct := hinv.distinct
    rw [List.map_append] at hdistinct
    rw [haccount.count_eq]
    exact List.count_eq_one_of_mem (List.nodup_append.mp hdistinct).1 (List.mem_map_of_mem ht)

/-- Two requests that overlap where there is room for one: the first entry is evicted while its
statement is being prepared. -/
theorem closing_of_overlapping :
    ∃ D : Desk, Reachable 1 (fun _ => 0) D ∧ D.leases = [] ∧
      D.delivered.map ScriptedStatement.sql = ["a", "b"] ∧
      ∀ t ∈ D.delivered,
        (closedSerials (D.session.clear ScriptWorld.close).world.log).count t.serial = 1 := by
  have hnew : Reachable 1 (fun _ => 0) _ := .new rfl
  have hfirst := hnew.step (@Step.begin _ "a" _ _ nofun rfl rfl)
  have hsecond := hfirst.step (@Step.begin _ "b" _ _ (by simp [Free]) rfl rfl)
  have hprepared := hsecond.step (@Step.prepare _ [] _ _ false _ _ rfl rfl rfl)
  have hdelivered := hprepared.step (@Step.deliver _ [] _ _ _ _ _ rfl rfl rfl)
  have hprepared := hdelivered.step (@Step.prepare _ [] _ _ false _ _ rfl rfl rfl)
  have hdelivered := hprepared.step (@Step.deliver _ [] _ _ _ _ _ rfl rfl rfl)
  have hreturned := hdelivered.step (@Step.giveBack _ [] _ _ rfl)
  have hreturned := hreturned.step (@Step.giveBack _ [] _ _ rfl)
  exact ⟨_, hreturned, rfl, rfl, (closing hreturned).2.2.2.2 rfl⟩

end Desk

end Rowbind
