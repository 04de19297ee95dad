import Mathlib.Data.List.Induction
import Rowbind.Driver.Playback
import Rowbind.Proofs.Database.Client
import Rowbind.Proofs.Database.Ledger
import Rowbind.Record.Declaration

/-!
# Rows that are still being read

A query gives its lease back as soon as the statement has run, before its rows are read. So nothing
keeps the cache from closing the statement while a scanner still reads its rows: another template
that takes the place of the statement's entry is enough (`Client.closed_under_open_rows`). Exactly
when that happens can be said beforehand. A run of a client is safe for its open scanners if and
only if no use closes a statement that one of them reads from (`Client.protected_throughout_iff`),
and what a use closes is known from the cache (`Client.closes`).
-/

namespace Rowbind

namespace Client

section Watched

variable {δ ρ τ χ : Type} [Driver δ ρ τ χ] [RowSource ρ]

/-- A client of a driver newly taken into use, and watched. -/
def start (registry : Registry) (keyOf : String → UInt64) (driver : δ) (options : Options) :
    Client (Watched δ) (Tagged ρ) (Numbered τ) where
  db := Database.new registry keyOf { driver := driver } options

/-- Whether an open scanner reads rows of the prepared statement with a number. -/
def Reads (C : Client (Watched δ) (Tagged ρ) (Numbered τ)) (k : Nat) : Prop :=
  ∃ s ∈ C.scanners, s.closed = false ∧ s.rows.statement = some k

/-- **No open scanner reads rows of a closed statement.** -/
def Protected (C : Client (Watched δ) (Tagged ρ) (Numbered τ)) : Prop :=
  ∀ k, C.Reads k → k ∉ C.db.driver.closed

/-- **The numbers of the statements that a use closes.** -/
def closes (c : Catalog) (C : Client (Watched δ) (Tagged ρ) (Numbered τ)) : ClientUse → List Nat
  | .query _ template arguments | .exec template arguments | .select _ template arguments
  | .get _ template arguments => C.db.discards c template arguments
  | .close => C.db.standing
  | .scanner _ _ | .drop _ => []

/-- **Whether a use closes no statement** that an open scanner reads from. -/
def Careful (c : Catalog) (C : Client (Watched δ) (Tagged ρ) (Numbered τ)) (u : ClientUse) : Prop :=
  ∀ k ∈ C.closes c u, ¬ C.Reads k

/-- **What holds of every client that a run comes to**: its database is in order, and its scanners
read from statements that are known. -/
structure Inv (C : Client (Watched δ) (Tagged ρ) (Numbered τ)) : Prop where
  orderly : C.db.Orderly
  known : ∀ s ∈ C.scanners, ∀ k, s.rows.statement = some k → k ∈ C.db.ledger

variable {C : Client (Watched δ) (Tagged ρ) (Numbered τ)}

/-- **What a use closes**, and what is known after it. -/
theorem Inv.served (h : C.Inv) (c : Catalog) (u : ClientUse) :
    Database.Served (C.closes c u) C.db (C.after c u).db := by
  cases u with
  | query single template arguments =>
    show Database.Served (C.db.discards c template arguments) C.db (C.keep _).db
    rw [db_keep]
    exact (h.orderly.query c single template arguments).1
  | exec template arguments => exact h.orderly.exec c template arguments
  | select element template arguments =>
    exact h.orderly.scanInto c false (.listOf element) template arguments
  | get d template arguments => exact h.orderly.scanInto c true d template arguments
  | close => exact h.orderly.close
  | scanner i u => exact h.orderly.served
  | drop i =>
    show Database.Served [] C.db (C.dropAt i).db
    unfold dropAt
    split
    · exact h.orderly.served.quiet rfl rfl
    · exact h.orderly.served

/-- **The scanners that there are after a use** were there before, with the same tag and no more
open than they were, or read from a statement that stands. -/
theorem Inv.scanners_after (h : C.Inv) (c : Catalog) (u : ClientUse) :
    ∀ s ∈ (C.after c u).scanners,
      (∃ s' ∈ C.scanners, s.rows.statement = s'.rows.statement ∧
        (s'.closed = true → s.closed = true)) ∨
      ∀ k, s.rows.statement = some k → k ∈ (C.after c u).db.standing := by
  have hsame : ∀ s ∈ C.scanners, ∃ s' ∈ C.scanners, s.rows.statement = s'.rows.statement ∧
      (s'.closed = true → s.closed = true) := fun s hs => ⟨s, hs, rfl, id⟩
  intro s hs
  cases u with
  | query single template arguments =>
    show _ ∨ ∀ k, _ → k ∈ (C.keep _).db.standing
    rw [db_keep]
    rcases mem_keep _ _ hs with hs | hs
    · exact .inl (hsame s hs)
    · exact .inr ((h.orderly.query c single template arguments).2 s hs)
  | exec template arguments => exact .inl (hsame s hs)
  | select element template arguments => exact .inl (hsame s hs)
  | get d template arguments => exact .inl (hsame s hs)
  | close => exact .inl (hsame s hs)
  | scanner i u =>
    left
    have hs : s ∈ C.scanners.modify i (u.run c) := hs
    obtain ⟨j, hj⟩ := List.mem_iff_getElem?.mp hs
    rw [List.getElem?_modify] at hj
    obtain ⟨s', hs', rfl⟩ := Option.map_eq_some_iff.mp hj
    refine ⟨s', List.mem_of_getElem? hs', ?_⟩
    split
    · exact ⟨Tagged.statement_run c s' u, u.closed_run c s'⟩
    · exact ⟨rfl, id⟩
  | drop i =>
    have hs : s ∈ (C.dropAt i).scanners := hs
    unfold dropAt at hs
    split at hs
    · exact .inl (hsame s (List.mem_of_mem_eraseIdx hs))
    · exact .inl (hsame s hs)

/-- Every use keeps the client in order. -/
theorem Inv.after (h : C.Inv) (c : Catalog) (u : ClientUse) : (C.after c u).Inv where
  orderly := (h.served c u).orderly
  known s hs k hk := by
    rcases h.scanners_after c u s hs with ⟨s', hs', htag, -⟩ | hstands
    · exact (h.served c u).known k (h.known s' hs' k (htag ▸ hk))
    · exact List.mem_append_right _ (hstands k hk)

/-- A scanner that is read from is still read from after a use that closes a statement. -/
theorem Reads.after {c : Catalog} {u : ClientUse} {k : Nat} (hreads : C.Reads k)
    (hcloses : C.closes c u ≠ []) : (C.after c u).Reads k := by
  obtain ⟨s, hs, hopen⟩ := hreads
  refine ⟨s, ?_, hopen⟩
  cases u with
  | query single template arguments => exact subset_keep _ _ hs
  | exec template arguments => exact hs
  | select element template arguments => exact hs
  | get d template arguments => exact hs
  | close => exact hs
  | scanner i u => exact absurd rfl hcloses
  | drop i => exact absurd rfl hcloses

/-- **One use** of a client whose scanners are safe leaves them safe if it is careful, and not
otherwise. -/
theorem Inv.protected_after_iff (h : C.Inv) (hprotected : C.Protected) (c : Catalog)
    (u : ClientUse) : (C.after c u).Protected ↔ C.Careful c u := by
  have hclosed := (h.served c u).closed
  constructor
  · intro hafter k hk hreads
    exact hafter k (hreads.after (List.ne_nil_of_mem hk)) ((hclosed k).mpr (.inr hk))
  · rintro hcareful k ⟨s, hs, hopen, hk⟩ hmem
    rcases h.scanners_after c u s hs with ⟨s', hs', htag, hstill⟩ | hstands
    · have hreads : C.Reads k := by
        refine ⟨s', hs', ?_, htag ▸ hk⟩
        cases hclosed' : s'.closed with
        | false => rfl
        | true => exact absurd (hstill hclosed') (by simp [hopen])
      rcases (hclosed k).mp hmem with hold | hnew
      · exact hprotected k hreads hold
      · exact hcareful k hnew hreads
    · -- a statement that stands is in the ledger but once, and not as closed
      have honce := (h.after c u).orderly.balanced.once
      exact (List.nodup_append.mp honce).2.2 k hmem k (hstands k hk) rfl

variable (c : Catalog) (registry : Registry) (keyOf : String → UInt64) (driver : δ)
  (options : Options)

/-- **Every run** keeps the client in order. The induction is on the uses, the last one first. -/
theorem inv_run (uses : List ClientUse) :
    ((start registry keyOf driver options).run c uses).Inv := by
  induction uses using List.reverseRecOn with
  | nil =>
    exact ⟨Database.orderly_new registry keyOf driver options,
      fun s hs => absurd hs List.not_mem_nil⟩
  | append_singleton uses u ih =>
    rw [run, List.foldl_append]
    exact ih.after c u

/-- **When statements outlive the rows that came from them.** Throughout a run on a new database,
with or without a cache, no open scanner reads rows of a closed statement, if and only if no use
closes a statement that a scanner reads from when the use is made. -/
theorem protected_throughout_iff (uses : List ClientUse) :
    (∀ before after, uses = before ++ after →
      ((start registry keyOf driver options).run c before).Protected) ↔
    ∀ before u after, uses = before ++ u :: after →
      ((start registry keyOf driver options).run c before).Careful c u := by
  have hsnoc : ∀ before u, (start registry keyOf driver options).run c (before ++ [u]) =
      ((start registry keyOf driver options).run c before).after c u :=
    fun before u => List.foldl_append
  constructor
  · intro hprotected before u rest huses
    have hbefore := hprotected before (u :: rest) huses
    have hafter := hprotected (before ++ [u]) rest (by rw [huses, List.append_assoc]; rfl)
    rw [hsnoc] at hafter
    have hinv := inv_run c registry keyOf driver options before
    exact (hinv.protected_after_iff hbefore c u).mp hafter
  · intro hcareful before
    induction before using List.reverseRecOn with
    | nil => exact fun _ _ k ⟨s, hs, _⟩ => absurd hs List.not_mem_nil
    | append_singleton before u ih =>
      intro rest huses
      rw [List.append_assoc] at huses
      rw [hsnoc]
      have hinv := inv_run c registry keyOf driver options before
      exact (hinv.protected_after_iff (ih (u :: rest) huses) c u).mpr
        (hcareful before u rest huses)

end Watched

/-- A client of a playback with room for one statement: a query is read up to the first of its two
rows, then another statement is run. -/
def cutShort : Client (Watched Playback) (Tagged FaultyRows) (Numbered PlaybackStatement) :=
  let rows : FaultyRows :=
    { rows := { columns := ["id"], rows := [[.int 1], [.int 2]] }, faults := {} }
  (start Registry.defaults (fun sql => .ofNat sql.length) { name := "mysql", results := [.ok rows] }
    { statementCacheCapacity := 1 }).run (Catalog.ofDeclarations #[] fun _ name => name)
    [.query false "SELECT id FROM t" [], .scanner 0 .advance, .exec "DELETE FROM t" []]

/-- **Not every run protects its open scanners**: the statement that was run took the only place,
and the query's statement was closed for it. -/
theorem closed_under_open_rows : ¬ cutShort.Protected := by
  have hopen : cutShort.scanners.map (fun s => (s.closed, s.rows.statement)) =
      [(false, some 0)] := by
    decide +kernel
  have hclosed : cutShort.db.driver.closed = [0] := by decide +kernel
  obtain ⟨s, hs, htag⟩ := List.mem_map.mp (hopen ▸ List.mem_singleton_self (false, some 0))
  obtain ⟨hstill, hstatement⟩ := Prod.mk.inj htag
  intro hprotected
  exact hprotected 0 ⟨s, hs, hstill, hstatement⟩ (hclosed ▸ List.mem_singleton_self 0)

end Client

end Rowbind
