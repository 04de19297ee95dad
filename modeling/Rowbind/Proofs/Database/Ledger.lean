import Rowbind.Proofs.Database.Watched

/-!
# What a database closes

On a watched driver, it can be said of every operation of a database which prepared statements it
closes (`Served`). A template that is sent closes at most one: that of the entry which the entry of
its text replaces in the cache. Closing the database closes every statement that stands. Between
operations, a database is `Orderly`: nobody uses a cached statement, and its ledger is in balance.
-/

namespace Rowbind.Database

open Watched (Balanced Quiet)

variable {δ ρ τ χ α : Type} [Driver δ ρ τ χ]

/-- The numbers of the statements that stand in the cache. -/
def standing (db : Database (Watched δ) (Numbered τ)) : List Nat :=
  db.cache.elim [] fun c => c.standing.map Numbered.number

/-- The numbers of the statements that are known: those closed, and those that stand. -/
def ledger (db : Database (Watched δ) (Numbered τ)) : List Nat := db.driver.closed ++ db.standing

/-- **A database between operations.** -/
structure Orderly (db : Database (Watched δ) (Numbered τ)) : Prop where
  idle : ∀ c, db.cache = some c → c.Idle
  balanced : Balanced db.driver db.ledger

/-- **What an operation leaves of a database**: no known statement is forgotten, and those that it
closes are known to be closed. -/
structure Served (closes : List Nat) (db db' : Database (Watched δ) (Numbered τ)) : Prop where
  orderly : db'.Orderly
  known : ∀ k ∈ db.ledger, k ∈ db'.ledger
  closed : ∀ k, k ∈ db'.driver.closed ↔ k ∈ db.driver.closed ∨ k ∈ closes

/-- The number of the statement that sending a text closes. -/
def discards? (db : Database (Watched δ) (Numbered τ)) (sql : String) : Option Nat :=
  db.cache.bind fun c => Watched.discards? c sql

/-- **The numbers of the statements that sending a template closes**: at most one, and none if the
template cannot be bound. -/
def discards (c : Catalog) (db : Database (Watched δ) (Numbered τ)) (template : String)
    (arguments : List Argument) : List Nat :=
  match db.handle.compile c template arguments with
  | .ok bound => (db.discards? bound.sql).toList
  | .error _ => []

section Served

variable {db : Database (Watched δ) (Numbered τ)}

/-- A driver newly taken into use: nothing was prepared, and nothing closed. -/
theorem orderly_new (registry : Registry) (keyOf : String → UInt64) (driver : δ)
    (options : Options) :
    (new registry keyOf ({ driver := driver } : Watched δ) options :
      Database (Watched δ) (Numbered τ)).Orderly := by
  let db : Database (Watched δ) (Numbered τ) := new registry keyOf { driver := driver } options
  have hledger : db.ledger = [] := by
    unfold ledger standing
    cases hcache : db.cache with
    | none => rfl
    | some c =>
      show [] ++ (c.entries.filterMap CacheEntry.statement).map Numbered.number = []
      rw [(StatementCache.sound_new hcache).2.1]
      rfl
  refine ⟨fun c hcache => StatementCache.idle_new hcache, ?_⟩
  show Balanced db.driver db.ledger
  rw [hledger]
  exact ⟨List.nodup_nil, nofun⟩

/-- Doing nothing closes nothing. -/
theorem Orderly.served (h : db.Orderly) : Served [] db db where
  orderly := h
  known _ hk := hk
  closed k := by simp

/-- A quiet step of the driver prepares and closes nothing. -/
theorem Served.quiet {closes : List Nat} {db' : Database (Watched δ) (Numbered τ)}
    (h : Served closes db db') {w : Watched δ} (hprepared : w.prepared = db'.driver.prepared)
    (hclosed : w.closed = db'.driver.closed) : Served closes db { db' with driver := w } where
  orderly := {
    idle := h.orderly.idle
    balanced := by
      refine h.orderly.balanced.perm ?_ hprepared
      rw [ledger, hclosed]
      exact .refl _ }
  known k hk := by
    rw [ledger, hclosed]
    exact h.known k hk
  closed k := by
    rw [hclosed]
    exact h.closed k

/-- A lease is what a request for the text answers. -/
theorem Orderly.lease (h : db.Orderly) {cache : StatementCache (Numbered τ)}
    (hcache : db.cache = some cache) (sql : String) :
    ∃ answer s, Database.lease cache sql db =
        (answer, { db with driver := s.world, cache := some s.cache }) ∧
      Watched.Requested sql db.driver cache answer s := by
  have hledger : Balanced db.driver (Watched.ledger db.driver cache) := by
    have := h.balanced
    rwa [ledger, standing, hcache] at this
  exact ⟨_, _, rfl, Watched.requested (h.idle cache hcache) hledger sql⟩

/-- What a request leaves is what its operation leaves, once the lease has been given back. -/
theorem Served.of_requested {cache : StatementCache (Numbered τ)} (hcache : db.cache = some cache)
    {sql : String} {answer : Except Error (Lease (Numbered τ))}
    {s : CacheSession (Numbered τ) (Watched δ)} (h : Watched.Requested sql db.driver cache answer s)
    {c : StatementCache (Numbered τ)} (hidle : c.Idle) (hstanding : c.standing = s.cache.standing) :
    Served (db.discards? sql).toList db { db with driver := s.world, cache := some c } where
  orderly := {
    idle _ hc := Option.some.inj hc ▸ hidle
    balanced := by
      show Balanced s.world (s.world.closed ++ c.standing.map Numbered.number)
      rw [hstanding]
      exact h.balanced }
  known k hk := by
    show k ∈ s.world.closed ++ c.standing.map Numbered.number
    rw [hstanding]
    refine h.known k ?_
    rwa [ledger, standing, hcache] at hk
  closed k := by
    rw [Option.mem_toList, discards?, hcache]
    exact h.closed k

/-- **Sending a text** closes what its entry replaces. What it answers comes from the driver itself,
or from a prepared statement that stands. -/
theorem Orderly.through (h : db.Orderly) {direct : Step (Watched δ) α}
    {prepared : Numbered τ → Step (Watched δ) α} (hdirect : Quiet direct)
    (hprepared : ∀ t, Quiet (prepared t)) (sql : String) :
    Served (db.discards? sql).toList db (through direct prepared sql db).2 ∧
      ∀ a, (through direct prepared sql db).1 = .ok a → (∃ w, (direct w).1 = .ok a) ∨
        ∃ t w, (prepared t w).1 = .ok a ∧
          t.number ∈ (through direct prepared sql db).2.standing := by
  unfold Database.through
  cases hcache : db.cache with
  | none =>
    obtain ⟨hprep, hclosed⟩ := hdirect db.driver
    have hnone : db.discards? sql = none := by rw [discards?, hcache]; rfl
    rw [hnone]
    exact ⟨h.served.quiet hprep hclosed, fun a ha => .inl ⟨db.driver, ha⟩⟩
  | some cache =>
    obtain ⟨answer, s, hlease, hrequested⟩ := h.lease hcache sql
    simp only [hlease]
    cases answer with
    | error e =>
      have hserved := Served.of_requested hcache hrequested (hrequested.failed e rfl) rfl
      exact ⟨hserved, fun a ha => (nomatch ha)⟩
    | ok l =>
      obtain ⟨hused, hstands⟩ := hrequested.leased l rfl
      obtain ⟨hprep, hclosed⟩ := hprepared l.statement s.world
      have hrelease : (s.cache.release l.entry).standing = s.cache.standing :=
        StatementCache.standing_release l.entry
      have hserved := Served.of_requested hcache hrequested hused.release hrelease
      refine ⟨hserved.quiet hprep hclosed, fun a ha => .inr ⟨l.statement, s.world, ha, ?_⟩⟩
      show _ ∈ (s.cache.release l.entry).standing.map Numbered.number
      rw [hrelease]
      exact hstands

/-! ## The operations -/

/-- Running a statement without rows. -/
theorem Orderly.exec (h : db.Orderly) (c : Catalog) (template : String)
    (arguments : List Argument) :
    Served (db.discards c template arguments) db
      (db.handle.exec c template arguments db).2 := by
  unfold Handle.exec discards
  cases hcompile : db.handle.compile c template arguments with
  | error e =>
    rw [Step.bind_error (x := .ofExcept (.error e)) rfl]
    exact h.served
  | ok bound =>
    rw [Step.bind_ok (x := .ofExcept (.ok bound)) rfl]
    exact (h.through (Watched.quiet_onDriver _) (fun t => Watched.quiet_onDriver _) bound.sql).1

/-- Asking for rows. Those that came from a prepared statement came from one that stands. -/
theorem Orderly.ask (h : db.Orderly) (sql : String) (values : List Value) :
    Served (db.discards? sql).toList db (db.handle.ask sql values db).2 ∧
      ∀ rows, (db.handle.ask sql values db).1 = .ok rows → ∀ k, rows.statement = some k →
        k ∈ (db.handle.ask sql values db).2.standing := by
  obtain ⟨hserved, hanswer⟩ := h.through (Watched.quiet_tagging none (Driver.query sql values))
    (fun t => Watched.quiet_tagging (some t.number) (Driver.statementQuery t.statement values)) sql
  refine ⟨hserved, ?_⟩
  intro rows hrows k hk
  rcases hanswer rows hrows with ⟨w, hdirect⟩ | ⟨t, w, hprepared, hstands⟩
  · rw [Watched.tagging_eq_ok hdirect] at hk
    cases hk
  · rw [Watched.tagging_eq_ok hprepared] at hk
    cases hk
    exact hstands

/-- **Running a query.** Rows that came from a prepared statement came from one that stands. -/
theorem Orderly.query (h : db.Orderly) (c : Catalog) (single : Bool) (template : String)
    (arguments : List Argument) :
    Served (db.discards c template arguments) db
        (db.handle.query c single template arguments db).2 ∧
      ∀ s, (db.handle.query c single template arguments db).1 = .ok s →
        ∀ k, s.rows.statement = some k →
          k ∈ (db.handle.query c single template arguments db).2.standing := by
  unfold Handle.query discards
  cases hcompile : db.handle.compile c template arguments with
  | error e =>
    rw [Step.bind_error (x := .ofExcept (.error e)) rfl]
    exact ⟨h.served, fun s hs => (nomatch hs)⟩
  | ok bound =>
    rw [Step.bind_ok (x := .ofExcept (.ok bound)) rfl]
    obtain ⟨hserved, hanswer⟩ := h.ask bound.sql bound.values
    cases hask : db.handle.ask bound.sql bound.values db with
    | mk answer db' =>
      rw [hask] at hserved hanswer
      cases answer with
      | error e =>
        rw [Step.bind_error hask]
        exact ⟨hserved, fun s hs => (nomatch hs)⟩
      | ok rows =>
        rw [Step.bind_ok hask]
        refine ⟨hserved, ?_⟩
        intro s hs k hk
        cases hs
        exact hanswer rows rfl k hk

/-- Running a query and scanning its rows: what follows the query prepares and closes nothing. -/
theorem Orderly.scanInto [RowSource ρ] (h : db.Orderly) (c : Catalog) (single : Bool)
    (d : Destination) (template : String) (arguments : List Argument) :
    Served (db.discards c template arguments) db
      (db.handle.scanInto c single d template arguments db).2 := by
  obtain ⟨hserved, -⟩ := h.query c single template arguments
  unfold Handle.scanInto
  cases hquery : db.handle.query c single template arguments db with
  | mk answer db' =>
    rw [hquery] at hserved
    cases answer with
    | error e =>
      rw [Step.bind_error hquery]
      exact hserved
    | ok scanner =>
      rw [Step.bind_ok hquery]
      exact hserved.quiet rfl rfl

/-- **Closing a database** closes every statement that stands. -/
theorem Orderly.close (h : db.Orderly) : Served db.standing db (Database.close db).2 := by
  unfold Database.close
  cases hcache : db.cache with
  | none =>
    have hnone : db.standing = [] := by rw [standing, hcache]; rfl
    rw [hnone]
    exact h.served.quiet rfl rfl
  | some cache =>
    have hidle := h.idle cache hcache
    obtain ⟨hcleared, -, htaken⟩ := hidle.clear
    have hledger : db.ledger = Watched.ledger db.driver cache := by
      rw [ledger, standing, hcache]
      rfl
    have hstanding : db.standing = cache.standing.map Numbered.number := by
      rw [standing, hcache]
      rfl
    obtain ⟨hclosed, hprepared⟩ := Watched.closed_closeAll cache.evictAll.takeRetired.1 db.driver
    have hperm := Watched.ledger_closeRetired (w := db.driver) hidle.sound.evictAll
    have hsame : Watched.ledger db.driver cache.evictAll = db.ledger := by
      rw [hledger, Watched.ledger, StatementCache.standing_evictAll, Watched.ledger]
    rw [hsame] at hperm
    let cleared : Database (Watched δ) (Numbered τ) := { db with
      driver := cache.evictAll.takeRetired.1.foldl
        (fun w t => (Watched.statementClose t).swallow w) db.driver
      cache := some cache.evictAll.takeRetired.2 }
    have hserved : Served db.standing db cleared := by
      refine ⟨⟨fun _ hc => Option.some.inj hc ▸ hcleared, h.balanced.perm hperm hprepared⟩,
        fun k hk => hperm.mem_iff.mpr hk, ?_⟩
      intro k
      show k ∈ (cache.evictAll.takeRetired.1.foldl
        (fun w t => (Watched.statementClose t).swallow w) db.driver).closed ↔ _
      rw [hclosed, List.mem_append, (htaken.map Numbered.number).mem_iff, hstanding]
    exact hserved.quiet rfl rfl

end Served

end Rowbind.Database
