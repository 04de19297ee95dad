import Rowbind.Database.Basic
import Rowbind.Proofs.Scanner.Source
import Rowbind.Proofs.StatementCache.Idle

/-!
# Watching a driver

A driver does not say which prepared statement its rows came from, nor which statements it was made
to close. A **watched** driver does: it numbers the statements it prepares, tags rows with the
number of the statement they came from, and lists the numbers of the statements it is made to close.
Everything else it leaves to the driver that it watches, so it is a driver like any other, and a
database runs on it as on any other.

Every statement that was prepared and is still known is in the **ledger** of a watched driver and a
cache: either it was closed, or it stands in the cache. The ledger lists no statement twice
(`Balanced`). Here is what one request for a text leaves of it (`requested`).
-/

namespace Rowbind

/-- **A prepared statement and its number.** -/
structure Numbered (τ : Type) where
  number : Nat
  statement : τ

/-- **Rows, and the number of the prepared statement they came from**, if they did. -/
structure Tagged (ρ : Type) where
  rows : ρ
  statement : Option Nat

/-- **A driver that is watched.** -/
structure Watched (δ : Type) where
  driver : δ
  /-- How many statements were prepared: the next one's number. -/
  prepared : Nat := 0
  /-- The numbers of the statements closed, in order. -/
  closed : List Nat := []

namespace Tagged

variable {ρ α : Type}

/-- A step of the rows. -/
def onRows (x : Step ρ α) : Step (Tagged ρ) α :=
  x.zoom Tagged.rows fun r t => { t with rows := r }

/-- A step of tagged rows, as a step of the rows. -/
theorem onRows_eq {x : Step ρ α} {r r' : Tagged ρ} {answer : Except Error α}
    (h : onRows x r = (answer, r')) : x r.rows = (answer, r'.rows) := by
  obtain ⟨rfl, rfl⟩ := Prod.mk.inj h
  rfl

variable [RowSource ρ]

instance : RowSource (Tagged ρ) where
  columns := onRows RowSource.columns
  advance := onRows RowSource.advance
  take := onRows RowSource.take
  close := onRows RowSource.close
  remaining r := RowSource.remaining r.rows
  remaining_advance _ _ h := RowSource.remaining_advance _ _ (onRows_eq h)
  remaining_take _ _ _ h := RowSource.remaining_take _ _ _ (onRows_eq h)

/-- Tagged rows step as the rows do. -/
theorem alike_rows : RowSource.Alike (fun r : Tagged ρ => r.rows) where
  columns _ := rfl
  advance _ := rfl
  take _ := rfl
  close _ := rfl

/-- Rows step as they do with a tag. -/
theorem alike_mk (statement : Option Nat) :
    RowSource.Alike (fun r : ρ => (⟨r, statement⟩ : Tagged ρ)) where
  columns _ := rfl
  advance _ := rfl
  take _ := rfl
  close _ := rfl

/-- **Rows keep their tag**, whatever their scanner is used for. -/
theorem statement_run (c : Catalog) (s : Scanner (Tagged ρ)) (u : ScannerUse) :
    (u.run c s).rows.statement = s.rows.statement :=
  congrArg (fun s => s.rows.statement)
    (u.run_map (alike_mk s.rows.statement) c (s.map Tagged.rows))

end Tagged

namespace Watched

variable {δ ρ τ χ α : Type} [Driver δ ρ τ χ]

/-- A step of the driver. -/
def onDriver (x : Step δ α) : Step (Watched δ) α :=
  x.zoom Watched.driver fun d w => { w with driver := d }

/-- A step of the driver that gives rows. -/
def tagging (statement : Option Nat) (x : Step δ ρ) : Step (Watched δ) (Tagged ρ) := fun w =>
  let (answer, d) := x w.driver
  (answer.map (⟨·, statement⟩), { w with driver := d })

/-- Prepares a statement, which has the next number. -/
def prepare (sql : String) : Step (Watched δ) (Numbered τ) := fun w =>
  match Driver.prepare sql w.driver with
  | (.ok t, d) => (.ok ⟨w.prepared, t⟩, { w with driver := d, prepared := w.prepared + 1 })
  | (.error e, d) => (.error e, { w with driver := d })

/-- Closes a statement, whether or not that fails. -/
def statementClose (t : Numbered τ) : Step (Watched δ) Unit := fun w =>
  let (answer, d) := Driver.statementClose t.statement w.driver
  (answer, { w with driver := d, closed := w.closed ++ [t.number] })

instance : Driver (Watched δ) (Tagged ρ) (Numbered τ) χ where
  name w := Driver.name w.driver
  exec sql values := onDriver (Driver.exec sql values)
  query sql values := tagging none (Driver.query sql values)
  ping := onDriver Driver.ping
  close := onDriver Driver.close
  dispose rows w := { w with driver := Driver.dispose rows.rows w.driver }
  prepare := prepare
  statementExec t values := onDriver (Driver.statementExec t.statement values)
  statementQuery t values := tagging (some t.number) (Driver.statementQuery t.statement values)
  statementClose := statementClose
  begin options := onDriver (Driver.begin options)
  transactionExec x sql values := onDriver (Driver.transactionExec x sql values)
  transactionQuery x sql values := tagging none (Driver.transactionQuery x sql values)
  commit x := onDriver (Driver.commit x)
  rollback x := onDriver (Driver.rollback x)
  abandon x w := { w with driver := Driver.abandon x w.driver }

/-- Whether a step prepares and closes no statement. -/
def Quiet (x : Step (Watched δ) α) : Prop :=
  ∀ w, (x w).2.prepared = w.prepared ∧ (x w).2.closed = w.closed

theorem quiet_onDriver (x : Step δ α) : Quiet (onDriver x) := fun _ => ⟨rfl, rfl⟩

theorem quiet_tagging (statement : Option Nat) (x : Step δ ρ) : Quiet (tagging statement x) :=
  fun _ => ⟨rfl, rfl⟩

/-- Rows have the tag they were given. -/
theorem tagging_eq_ok {statement : Option Nat} {x : Step δ ρ} {w : Watched δ} {rows : Tagged ρ}
    (h : (tagging statement x w).1 = .ok rows) : rows.statement = statement := by
  unfold tagging at h
  cases hx : (x w.driver).1 with
  | error e =>
    simp only [hx] at h
    cases h
  | ok r =>
    simp only [hx] at h
    cases h
    rfl

/-- **Closing statements** lists their numbers. The induction is on the statements. -/
theorem closed_closeAll (ts : List (Numbered τ)) (w : Watched δ) :
    (ts.foldl (fun w t => (statementClose t).swallow w) w).closed =
        w.closed ++ ts.map Numbered.number ∧
      (ts.foldl (fun w t => (statementClose t).swallow w) w).prepared = w.prepared := by
  induction ts generalizing w with
  | nil => exact ⟨(List.append_nil _).symm, rfl⟩
  | cons t ts ih =>
    obtain ⟨hclosed, hprepared⟩ := ih ((statementClose t).swallow w)
    refine ⟨hclosed.trans ?_, hprepared⟩
    show w.closed ++ [t.number] ++ ts.map Numbered.number = _
    rw [List.append_assoc]
    rfl

/-! ## The ledger -/

/-- **The numbers of the statements that are known**: those closed, and those that stand. -/
def ledger (w : Watched δ) (c : StatementCache (Numbered τ)) : List Nat :=
  w.closed ++ c.standing.map Numbered.number

/-- **A ledger in balance** lists every statement once, and only statements that were prepared. -/
structure Balanced (w : Watched δ) (ledger : List Nat) : Prop where
  once : ledger.Nodup
  prepared : ∀ k ∈ ledger, k < w.prepared

section Ledger

variable {w : Watched δ} {c : StatementCache (Numbered τ)}

/-- Statements that only change their places keep a ledger in balance. -/
theorem Balanced.perm {w' : Watched δ} {ledger ledger' : List Nat} (h : Balanced w ledger)
    (hperm : ledger'.Perm ledger) (hprepared : w'.prepared = w.prepared) :
    Balanced w' ledger' where
  once := hperm.nodup_iff.mpr h.once
  prepared k hk := hprepared ▸ h.prepared k (hperm.mem_iff.mp hk)

/-- A statement that was just prepared keeps a ledger in balance. -/
theorem Balanced.cons {w' : Watched δ} {ledger ledger' : List Nat} (h : Balanced w ledger)
    (hperm : ledger'.Perm (w.prepared :: ledger)) (hprepared : w'.prepared = w.prepared + 1) :
    Balanced w' ledger' where
  once := by
    refine hperm.nodup_iff.mpr (List.nodup_cons.mpr ⟨?_, h.once⟩)
    intro hmem
    exact Nat.lt_irrefl _ (h.prepared _ hmem)
  prepared k hk := by
    rcases List.mem_cons.mp (hperm.mem_iff.mp hk) with rfl | hk
    · omega
    · have := h.prepared k hk
      omega

/-- **Closing what has retired** moves it from where it stands to what is closed. -/
theorem ledger_closeRetired (hsound : c.Sound) :
    (ledger (c.takeRetired.1.foldl (fun w t => (statementClose t).swallow w) w)
      c.takeRetired.2).Perm (ledger w c) := by
  unfold ledger
  rw [(closed_closeAll _ w).1, List.append_assoc, ← List.map_append]
  exact ((StatementCache.standing_takeRetired hsound).map _).append_left _

/-- **A statement that its entry is given** is known from then on. -/
theorem ledger_fulfil {d : δ} {n : Nat} {e : CacheEntry (Numbered τ)} (hsound : c.Sound)
    (he : c.entryAt? n = some e) (hnone : e.statement = none) (t : Numbered τ) :
    (ledger { w with driver := d, prepared := w.prepared + 1 } (c.fulfil n t)).Perm
      (t.number :: ledger w c) := by
  unfold ledger
  refine (((StatementCache.standing_fulfil hsound.placed.numbers he hnone t).map _).append_left
    _).trans ?_
  exact List.perm_middle

/-- A statement that is found stands. -/
theorem mem_standing {n : Nat} {t : Numbered τ} (h : c.statement? n = some t) :
    t.number ∈ c.standing.map Numbered.number := by
  obtain ⟨e, he, ht⟩ := Option.bind_eq_some_iff.mp h
  exact List.mem_map_of_mem
    (List.mem_filterMap.mpr ⟨e, StatementCache.mem_of_found he, ht⟩)

end Ledger

/-! ## A request -/

/-- **The number of the statement that a request for a text closes**: that of the entry which it
discards, if that entry has one. -/
def discards? (c : StatementCache (Numbered τ)) (sql : String) : Option Nat :=
  ((c.discarded? sql).bind c.statement?).map Numbered.number

/-- **What a request for a text leaves** of a watched driver and a cache when it has begun. -/
structure Begun (sql : String) (w : Watched δ) (c : StatementCache (Numbered τ)) (n : Nat)
    (w' : Watched δ) (c' : StatementCache (Numbered τ)) : Prop where
  balanced : Balanced w' (ledger w' c')
  known : ∀ k ∈ ledger w c, k ∈ ledger w' c'
  closed : ∀ k, k ∈ w'.closed ↔ k ∈ w.closed ∨ discards? c sql = some k
  used : StatementCache.UsedOnce n c'

/-- **What a request for a text leaves** of a watched driver and a cache when it has ended. -/
structure Requested (sql : String) (w : Watched δ) (c : StatementCache (Numbered τ))
    (answer : Except Error (Lease (Numbered τ))) (s : CacheSession (Numbered τ) (Watched δ)) :
    Prop where
  balanced : Balanced s.world (ledger s.world s.cache)
  known : ∀ k ∈ ledger w c, k ∈ ledger s.world s.cache
  closed : ∀ k, k ∈ s.world.closed ↔ k ∈ w.closed ∨ discards? c sql = some k
  leased : ∀ l, answer = .ok l → StatementCache.UsedOnce l.entry s.cache ∧
    l.statement.number ∈ s.cache.standing.map Numbered.number
  failed : ∀ e, answer = .error e → s.cache.Idle

/-- Preparing fails, or gives a statement with the next number. -/
theorem prepare_cases (sql : String) (w : Watched δ) :
    (∃ (e : Error) (d : δ), Driver.prepare sql w = (Except.error e, { w with driver := d })) ∨
      ∃ (t : τ) (d : δ), Driver.prepare sql w =
        (.ok ⟨w.prepared, t⟩, { w with driver := d, prepared := w.prepared + 1 }) := by
  show (∃ e d, prepare sql w = (.error e, { w with driver := d })) ∨
    ∃ t d, prepare sql w = (.ok ⟨w.prepared, t⟩, { w with driver := d, prepared := w.prepared + 1 })
  unfold prepare
  rcases Driver.prepare sql w.driver with ⟨e | t, d⟩
  · exact .inl ⟨e, d, rfl⟩
  · exact .inr ⟨t, d, rfl⟩

section Request

variable {w : Watched δ} {c : StatementCache (Numbered τ)} {sql : String}

/-- What retires when a request begins is what it discards. -/
theorem mem_retired_iff (h : c.Idle) (sql : String) (k : Nat) :
    k ∈ (c.checkOut sql).2.takeRetired.1.map Numbered.number ↔ discards? c sql = some k := by
  unfold discards?
  rw [List.mem_map, Option.map_eq_some_iff]
  apply exists_congr
  intro t
  apply and_congr_left
  intro _
  rw [StatementCache.mem_taken_checkOut h, Option.bind_eq_some_iff]

/-- A request begins with closing what it discards. -/
theorem begun (h : c.Idle) (hbalanced : Balanced w (ledger w c)) (sql : String) :
    Begun sql w c (c.checkOut sql).1
      ((c.checkOut sql).2.takeRetired.1.foldl (fun w t => (statementClose t).swallow w) w)
      (c.checkOut sql).2.takeRetired.2 := by
  obtain ⟨hclosed, hprepared⟩ := closed_closeAll (c.checkOut sql).2.takeRetired.1 w
  have hperm := ledger_closeRetired (w := w) (h.sound.checkOut sql)
  rw [ledger, ledger, StatementCache.standing_checkOut] at hperm
  refine ⟨hbalanced.perm hperm hprepared, fun k hk => hperm.mem_iff.mpr hk, fun k => ?_,
    StatementCache.usedOnce_start h sql⟩
  rw [hclosed, List.mem_append, mem_retired_iff h]

variable {n : Nat} {w' : Watched δ} {c' : StatementCache (Numbered τ)}
  (h : Begun sql w c n w' c')
include h

/-- The entry has its statement. -/
theorem Begun.found {t : Numbered τ} (ht : c'.statement? n = some t) :
    Requested sql w c (.ok ⟨n, t⟩) ⟨c', w'⟩ where
  balanced := h.balanced
  known := h.known
  closed := h.closed
  leased l hl := by
    cases hl
    exact ⟨h.used, mem_standing ht⟩
  failed e he := nomatch he

/-- The entry has none, and preparing it fails. -/
theorem Begun.failed (e : Error) (d : δ) :
    Requested sql w c (.error e) ⟨c'.release n, { w' with driver := d }⟩ where
  balanced := by
    refine h.balanced.perm ?_ rfl
    rw [ledger, StatementCache.standing_release, ledger]
  known k hk := by
    rw [ledger, StatementCache.standing_release]
    exact h.known k hk
  closed := h.closed
  leased l hl := nomatch hl
  failed _ _ := h.used.release

/-- The entry has none, and is given one. -/
theorem Begun.prepared (hnone : c'.statement? n = none) (t : τ) (d : δ) :
    Requested sql w c (.ok ⟨n, ⟨w'.prepared, t⟩⟩)
      ⟨c'.fulfil n ⟨w'.prepared, t⟩, { w' with driver := d, prepared := w'.prepared + 1 }⟩ := by
  obtain ⟨e, he⟩ := h.used.entry
  have hblank : e.statement = none := by
    rw [StatementCache.statement?, he] at hnone
    exact hnone
  have hperm := ledger_fulfil (w := w') (d := d) h.used.sound he hblank ⟨w'.prepared, t⟩
  have hstanding := (StatementCache.standing_fulfil h.used.sound.placed.numbers he hblank
    ⟨w'.prepared, t⟩).map Numbered.number
  refine ⟨h.balanced.cons hperm rfl, fun k hk => ?_, h.closed, fun l hl => ?_,
    fun e he => (nomatch he)⟩
  · exact hperm.mem_iff.mpr (List.mem_cons_of_mem _ (h.known k hk))
  · cases hl
    exact ⟨h.used.fulfil _, hstanding.mem_iff.mpr List.mem_cons_self⟩

end Request

/-- **A request for a text** closes the statement that it discards, and no other; what it leases
stands. -/
theorem requested {w : Watched δ} {c : StatementCache (Numbered τ)} (h : c.Idle)
    (hbalanced : Balanced w (ledger w c)) (sql : String) :
    let request := CacheSession.request (fun t => Driver.statementClose t) sql
      ((Driver.prepare sql).zoom CacheSession.world fun d s => { s with world := d }) ⟨c, w⟩
    Requested sql w c request.1 request.2 := by
  have hbegun := begun h hbalanced sql
  let n := (c.checkOut sql).1
  let c' := (c.checkOut sql).2.takeRetired.2
  let w' := (c.checkOut sql).2.takeRetired.1.foldl (fun w t => (statementClose t).swallow w) w
  have hstart : CacheSession.start (fun t => Driver.statementClose t) sql ⟨c, w⟩ =
    (n, (⟨c', w'⟩ : CacheSession (Numbered τ) (Watched δ))) := rfl
  show Requested sql w c (CacheSession.request ..).1 (CacheSession.request ..).2
  unfold CacheSession.request
  simp only [hstart]
  cases ht : c'.statement? n with
  | some t => exact hbegun.found ht
  | none =>
    rcases prepare_cases sql w' with ⟨e, d, hprepare⟩ | ⟨t, d, hprepare⟩
    · simp only [Step.zoom, hprepare, CacheSession.finish]
      exact hbegun.failed e d
    · simp only [Step.zoom, hprepare, CacheSession.finish]
      exact hbegun.prepared ht t d

end Watched

end Rowbind
