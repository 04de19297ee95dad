import Rowbind.Proofs.Database.Interchange
import Rowbind.Proofs.Database.Uncached
import Rowbind.Proofs.Outcome
import Rowbind.Proofs.Simulation
import Rowbind.Record.Declaration

/-!
# The cache cannot be seen

A database that keeps prepared statements, on a driver whose statements stand for their texts, does
what it does without a cache: the driver runs the same texts with the same values, in the same
order, and a client is told the same (`Client.transparent`). The capacity and the keys do not
matter, not even when texts share keys.

Two databases are followed side by side, one with a cache and one without (`Database.Mirrors`). The
statement of every cached entry is one of the entry's text, so a step of the one with the cache runs
a statement where the other runs its text, and leaves the two as they were to each other.
-/

namespace Rowbind

open Step (Simulates)
open Driver (Agree Interchangeable)

variable {δ ρ τ χ α : Type}

/-! ## Databases side by side -/

/-- **A database with a cache beside one without**: their drivers are the same, and the statement of
every cached entry is one of the entry's text. -/
structure Database.Mirrors (Same : δ → δ → Prop) (Runs : δ → String → τ → Prop)
    (D E : Database δ τ) : Prop where
  driver : Same D.driver E.driver
  dialect : E.dialect = D.dialect
  options : E.options = D.options.uncached
  direct : E.cache = none
  cached : ∃ c, D.cache = some c ∧ c.Idle ∧ c.Suited (Runs D.driver)

variable [Driver δ ρ τ χ] {Same : δ → δ → Prop} {Runs : δ → String → τ → Prop}

namespace Database

/-- Taking a driver into use, with a cache and without. -/
theorem mirrors_new (registry : Registry) (keyOf : String → UInt64) {driver : δ}
    (hsame : Same driver driver) {options : Options}
    (hcapacity : 0 < options.statementCacheCapacity) :
    Mirrors Same Runs (new registry keyOf driver options)
      (new registry keyOf driver options.uncached) where
  driver := hsame
  dialect := rfl
  options := rfl
  direct := rfl
  cached := by
    obtain ⟨c, hc⟩ : ∃ c : StatementCache τ,
        StatementCache.new? options.statementCacheCapacity keyOf = some c := ⟨_, dif_pos hcapacity⟩
    exact ⟨c, hc, StatementCache.idle_new hc, StatementCache.suited_new hc⟩

variable {D E : Database δ τ}

/-- Both bind a template alike. -/
theorem Mirrors.compile (hDE : Mirrors Same Runs D E) (c : Catalog) (template : String)
    (arguments : List Argument) :
    E.handle.compile c template arguments = D.handle.compile c template arguments := by
  show Bound.compile c E.dialect template arguments E.options = _
  rw [hDE.dialect, hDE.options, Bound.compile_uncached]
  rfl

variable (h : Interchangeable Same Runs)
include h

/-- **Sending a text** through the cache beside running it directly. -/
theorem simulates_through {sql : String} {direct : Step δ α} {prepared : τ → Step δ α}
    (hrun : ∀ {p d t}, Same p d → Runs p sql t → Agree Same Runs (prepared t) direct p d) :
    Simulates (Mirrors Same Runs) id (through direct prepared sql)
      (through direct prepared sql) := by
  intro D E hDE
  obtain ⟨c, hc, hidle, hsuited⟩ := hDE.cached
  obtain ⟨l, c', p', hlease, hsame, hused, hsuited', hruns⟩ :=
    lease_spec h hDE.driver hidle hsuited sql
  have hagree := hrun hsame hruns
  have hcached : through direct prepared sql D = ((prepared l.statement p').1,
      { D with driver := (prepared l.statement p').2, cache := some (c'.release l.entry) }) := by
    unfold through
    rw [hc]
    simp only [hlease]
    rfl
  have hdirect : through direct prepared sql E = onDriver direct E := by
    unfold through
    rw [hDE.direct]
  rw [hcached, hdirect]
  refine ⟨?_, ?_⟩
  · rw [Except.map_id, id_eq]
    exact hagree.answer.symm
  · exact {
      driver := hagree.same
      dialect := hDE.dialect
      options := hDE.options
      direct := hDE.direct
      cached := ⟨_, rfl, hused.release,
        (hsuited'.imp hagree.runs).eased (.inr ⟨l.entry, rfl⟩)⟩ }

/-- Handing rows back. -/
theorem simulates_dispose (rows : ρ) :
    Simulates (Mirrors Same Runs) id (.modify (D.handle.dispose rows))
      (.modify (E.handle.dispose rows)) := by
  refine .modify fun D E hDE => ?_
  obtain ⟨hsame, hkept⟩ := h.dispose hDE.driver rows
  obtain ⟨c, hc, hidle, hsuited⟩ := hDE.cached
  exact { hDE with
    driver := hsame
    cached := ⟨c, hc, hidle, hsuited.imp hkept⟩ }

variable (hDE : Mirrors Same Runs D E) (c : Catalog) (template : String)
  (arguments : List Argument)
include hDE

theorem simulates_exec :
    Simulates (Mirrors Same Runs) id (D.handle.exec c template arguments)
      (E.handle.exec c template arguments) := by
  unfold Handle.exec
  rw [hDE.compile]
  refine (Simulates.ofExcept _).bind fun bound => ?_
  exact simulates_through h fun hsame hruns => h.exec hsame hruns bound.values

/-- Running a query, which is answered with a scanner of the same rows. -/
theorem simulates_query (single : Bool) :
    Simulates (Mirrors Same Runs) Scanner.uncached (D.handle.query c single template arguments)
      (E.handle.query c single template arguments) := by
  unfold Handle.query
  rw [hDE.compile]
  refine (Simulates.ofExcept _).bind fun bound => ?_
  refine Simulates.bind (f := id) ?_ fun rows => ?_
  · exact simulates_through h fun hsame hruns => h.query hsame hruns bound.values
  · intro D' E' hDE'
    have hoptions : E.handle.options = D.options.uncached := hDE.options
    rw [hoptions]
    exact ⟨rfl, hDE'⟩

variable [RowSource ρ]

/-- Running a query and scanning its rows. -/
theorem simulates_scanInto (single : Bool) (d : Destination) :
    Simulates (Mirrors Same Runs) id (D.handle.scanInto c single d template arguments)
      (E.handle.scanInto c single d template arguments) := by
  refine (simulates_query h hDE c template arguments single).bind fun s => ?_
  simp only [Scanner.scan_uncached c s d]
  exact (simulates_dispose h _).bind fun _ => .ofExcept _

end Database

/-! ## Clients side by side -/

/-- **A client of a database with a cache beside one of a database without**: they keep scanners of
the same rows. -/
structure Client.Mirrors (Same : δ → δ → Prop) (Runs : δ → String → τ → Prop)
    (C E : Client δ ρ τ) : Prop where
  db : C.db.Mirrors Same Runs E.db
  scanners : E.scanners = C.scanners.map Scanner.uncached

namespace Client

variable [RowSource ρ] {C E : Client δ ρ τ}

/-- **What a client is told, the capacity aside.** -/
def told (answers : List (Except Error (ClientResult ρ))) : List (Except Error (ClientResult ρ)) :=
  answers.map (Except.map (ClientResult.map Scanner.uncached))

omit [Driver δ ρ τ χ] [RowSource ρ] in
/-- Keeping the scanners that queries of both are answered with. -/
theorem Mirrors.keep (hCE : C.Mirrors Same Runs E)
    {done done' : Except Error (Scanner ρ) × Database δ τ}
    (hanswer : done'.1 = done.1.map Scanner.uncached) (hdb : done.2.Mirrors Same Runs done'.2) :
    (C.keep done).Mirrors Same Runs (E.keep done') := by
  obtain ⟨answer, D⟩ := done
  obtain ⟨answer', E'⟩ := done'
  obtain rfl : answer' = answer.map Scanner.uncached := hanswer
  cases answer with
  | error e => exact ⟨hdb, hCE.scanners⟩
  | ok s =>
    refine ⟨hdb, ?_⟩
    show E.scanners ++ [s.uncached] = (C.scanners ++ [s]).map Scanner.uncached
    rw [hCE.scanners, List.map_append]
    rfl

section Runs

variable (h : Interchangeable Same Runs) (hCE : C.Mirrors Same Runs E) (c : Catalog)
include h hCE

/-- **A use of both** is answered alike, and leaves them as they were to each other. -/
theorem Mirrors.after {u : ClientUse} (hu : u ≠ .close) :
    E.answer c u = (C.answer c u).map (ClientResult.map Scanner.uncached) ∧
      (C.after c u).Mirrors Same Runs (E.after c u) := by
  cases u with
  | query single template arguments =>
    obtain ⟨hanswer, hdb⟩ :=
      Database.simulates_query h hCE.db c template arguments single C.db E.db hCE.db
    exact ⟨map_eq_map_map hanswer fun _ => rfl, hCE.keep hanswer hdb⟩
  | exec template arguments =>
    obtain ⟨hanswer, hdb⟩ :=
      Database.simulates_exec h hCE.db c template arguments C.db E.db hCE.db
    exact ⟨map_eq_map_map hanswer fun _ => rfl, hdb, hCE.scanners⟩
  | select element template arguments =>
    obtain ⟨hanswer, hdb⟩ := Database.simulates_scanInto h hCE.db c template arguments false
      (.listOf element) C.db E.db hCE.db
    exact ⟨map_eq_map_map hanswer fun _ => rfl, hdb, hCE.scanners⟩
  | get d template arguments =>
    obtain ⟨hanswer, hdb⟩ :=
      Database.simulates_scanInto h hCE.db c template arguments true d C.db E.db hCE.db
    exact ⟨map_eq_map_map hanswer fun _ => rfl, hdb, hCE.scanners⟩
  | close => exact absurd rfl hu
  | scanner i u =>
    refine ⟨rfl, hCE.db, ?_⟩
    show E.scanners.modify i (u.run c) = (C.scanners.modify i (u.run c)).map Scanner.uncached
    rw [hCE.scanners]
    exact (map_modify (fun s => u.run_uncached c s) _ i).symm
  | drop i =>
    refine ⟨rfl, ?_⟩
    show (C.dropAt i).Mirrors Same Runs (E.dropAt i)
    unfold dropAt
    rw [hCE.scanners, List.getElem?_map]
    cases C.scanners[i]? with
    | none => exact hCE
    | some s =>
      obtain ⟨-, hdb⟩ := Database.simulates_dispose h s.rows C.db E.db hCE.db
      exact ⟨hdb, List.eraseIdx_map ..⟩

/-- **Every run of both** is answered alike. The induction is on the uses. -/
theorem Mirrors.run {uses : List ClientUse} (huses : ∀ u ∈ uses, u ≠ .close) :
    E.answers c uses = told (C.answers c uses) ∧
      (C.run c uses).Mirrors Same Runs (E.run c uses) := by
  induction uses generalizing C E with
  | nil => exact ⟨rfl, hCE⟩
  | cons u uses ih =>
    obtain ⟨hu, huses⟩ := List.forall_mem_cons.mp huses
    obtain ⟨hanswer, hafter⟩ := hCE.after h c hu
    obtain ⟨hanswers, hrun⟩ := ih hafter huses
    refine ⟨?_, hrun⟩
    rw [answers, hanswer, hanswers]
    rfl

end Runs

/-- **The cache cannot be seen.** On a driver whose statements stand for their texts, for every
capacity and all keys: a run of a client of a database with a cache makes the driver run the texts
with the values that it makes it run without a cache, in the same order; the client is told the same
of every use, and comes to scanners of the same rows. And on any driver whatever: where a template
cannot be bound the client is told why, and nothing changes, neither the driver nor the cache. -/
theorem transparent (h : Interchangeable Same Runs) (driver : δ) (hsame : Same driver driver)
    (c : Catalog) (registry : Registry) (keyOf : String → UInt64) (options : Options)
    (hcapacity : 0 < options.statementCacheCapacity) (uses : List ClientUse)
    (huses : ∀ u ∈ uses, u ≠ .close) :
    let cached : Client δ ρ τ := new registry keyOf driver options
    let direct : Client δ ρ τ := new registry keyOf driver options.uncached
    Overheard.heard c registry keyOf driver options uses =
        Overheard.heard c registry keyOf driver options.uncached uses ∧
      told (cached.answers c uses) = direct.answers c uses ∧
      (cached.run c uses).scanners.map Scanner.uncached = (direct.run c uses).scanners ∧
      ∀ (C : Client δ ρ τ) (u : ClientUse) (template : String) (arguments : List Argument)
        (e : Error), u.sends? = some (template, arguments) →
        C.db.handle.compile c template arguments = .error e →
        C.answer c u = .error e ∧ C.after c u = C := by
  intro cached direct
  have hstart : cached.Mirrors Same Runs direct :=
    ⟨Database.mirrors_new registry keyOf hsame hcapacity, rfl⟩
  obtain ⟨hanswers, hrun⟩ := hstart.run h c huses
  have hheard : (Overheard.client registry keyOf driver options).Mirrors (Overheard.Same Same)
      (Overheard.Runs Runs) (Overheard.client registry keyOf driver options.uncached) :=
    ⟨Database.mirrors_new registry keyOf ⟨hsame, rfl⟩ hcapacity, rfl⟩
  obtain ⟨-, hrun'⟩ := hheard.run (Overheard.interchangeable h) c huses
  exact ⟨hrun'.db.driver.2, hanswers.symm, hrun.scanners.symm,
    fun C u template arguments e hu he => answer_of_unbound c C hu he⟩

/-- Room for one statement, and one key for all texts: a query, another text, a template that lacks
a value, and the query once more, while the first rows are still being read. -/
theorem transparent_of_one :
    let rows : FaultyRows :=
      { rows := { columns := ["id"], rows := [[.int 1], [.int 2]] }, faults := {} }
    let driver : Playback := { name := "mysql", results := [.ok rows, .ok rows] }
    let uses : List ClientUse := [.query false "SELECT id FROM t" [], .scanner 0 .advance,
      .exec "DELETE FROM t" [], .exec "DELETE FROM t WHERE id = :id" [.map []],
      .select (.map []) "SELECT id FROM t" []]
    (Overheard.heard (Catalog.ofDeclarations #[] fun _ name => name) Registry.defaults (fun _ => 0)
      driver { statementCacheCapacity := 1 } uses).map Prod.fst =
      ["SELECT id FROM t", "DELETE FROM t", "SELECT id FROM t"] := by
  intro rows driver uses
  obtain ⟨hheard, -⟩ := transparent Playback.interchangeable driver ⟨rfl, rfl, rfl⟩
    (Catalog.ofDeclarations #[] fun _ name => name) Registry.defaults (fun _ => 0)
    { statementCacheCapacity := 1 } (by decide) uses (by simp [uses])
  rw [hheard]
  decide +kernel

end Client

end Rowbind
