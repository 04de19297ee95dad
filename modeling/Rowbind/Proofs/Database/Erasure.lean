import Mathlib.Data.List.Induction
import Rowbind.Proofs.Database.Client
import Rowbind.Proofs.Outcome
import Rowbind.Proofs.Simulation
import Rowbind.Proofs.StatementCache.Image

/-!
# Drivers that do what others do

A driver that keeps books of its own, and leaves everything else to another one, does what that one
does, but for its books (`Driver.Mimics`). A database does not look at its driver's statements and
rows. So on such a driver it does what it does on the other one, and forgetting the books at the end
of a run leaves what the run would have left without them (`Client.run_map`, `Client.answers_map`).
-/

namespace Rowbind

namespace Step.Follows

variable {σ σ' α β α' β' : Type} {f : α → β} {f' : α' → β'} {g : σ → σ'}

/-- To follow is to be simulated by what is seen. -/
theorem iff_simulates {x : Step σ α} {y : Step σ' β} :
    Follows f g x y ↔ Simulates (fun s s' => s' = g s) f x y := by
  constructor
  · rintro h s _ rfl
    rw [h s]
    exact ⟨rfl, rfl⟩
  · intro h s
    exact Prod.ext (h s _ rfl).1 (h s _ rfl).2

theorem ofExcept (r : Except Error α) : Follows id g (.ofExcept r) (.ofExcept r) :=
  iff_simulates.mpr (.ofExcept r)

theorem modify {h : σ → σ} {k : σ' → σ'} (hsame : ∀ s, k (g s) = g (h s)) :
    Follows id g (.modify h) (.modify k) :=
  fun s => congrArg (Prod.mk _) (hsame s)

/-- One step after the other follows one step after the other. -/
theorem bind {x : Step σ α} {y : Step σ' β} {k : α → Step σ α'} {k' : β → Step σ' β'}
    (hfirst : Follows f g x y) (hthen : ∀ a, Follows f' g (k a) (k' (f a))) :
    Follows f' g (x >>= k) (y >>= k') :=
  iff_simulates.mpr ((iff_simulates.mp hfirst).bind fun a => iff_simulates.mp (hthen a))

/-- A step of the part that another part stands for. -/
theorem zoom {ω ω' : Type} {part : ω → σ} {put : σ → ω → ω} {part' : ω' → σ'}
    {put' : σ' → ω' → ω'} {q : ω → ω'} {x : Step σ α} {y : Step σ' β} (h : Follows f g x y)
    (hpart : ∀ w, part' (q w) = g (part w)) (hput : ∀ s w, put' (g s) (q w) = q (put s w)) :
    Follows f q (x.zoom part put) (y.zoom part' put') := by
  intro w
  have hs := h (part w)
  simp only [Step.zoom, hpart, hs, hput]

end Step.Follows

open Step (Follows)

/-- **Whether a driver does what another does**, its states seen as `g` shows them, its rows as `r`
does, and its statements as `f` does. -/
structure Driver.Mimics {δ ρ τ χ δ' ρ' τ' χ' : Type} [Driver δ ρ τ χ] [Driver δ' ρ' τ' χ']
    (g : δ → δ') (r : ρ → ρ') (f : τ → τ') : Prop where
  name : ∀ d, Driver.name (g d) = Driver.name d
  exec : ∀ sql values, Follows id g (Driver.exec sql values) (Driver.exec sql values)
  query : ∀ sql values, Follows r g (Driver.query sql values) (Driver.query sql values)
  close : Follows id g Driver.close Driver.close
  dispose : ∀ rows d, Driver.dispose (r rows) (g d) = g (Driver.dispose rows d)
  prepare : ∀ sql, Follows f g (Driver.prepare sql) (Driver.prepare sql)
  statementExec : ∀ t values,
    Follows id g (Driver.statementExec t values) (Driver.statementExec (f t) values)
  statementQuery : ∀ t values,
    Follows r g (Driver.statementQuery t values) (Driver.statementQuery (f t) values)
  statementClose : ∀ t d, (Driver.statementClose (f t)).swallow (g d) =
    g ((Driver.statementClose t).swallow d)

variable {δ ρ τ χ δ' ρ' τ' χ' α β : Type} [Driver δ ρ τ χ] [Driver δ' ρ' τ' χ']
  {g : δ → δ'} {r : ρ → ρ'} {f : τ → τ'}

namespace Database

/-- **A database on another driver.** -/
def map (g : δ → δ') (f : τ → τ') (db : Database δ τ) : Database δ' τ' where
  driver := g db.driver
  dialect := db.dialect
  options := db.options
  cache := db.cache.map (StatementCache.map f)

omit [Driver δ ρ τ χ] [Driver δ' ρ' τ' χ'] in
theorem follows_onDriver {p : α → β} {x : Step δ α} {y : Step δ' β} (h : Follows p g x y) :
    Follows p (map g f) (onDriver x : Step (Database δ τ) α) (onDriver y) :=
  h.zoom (fun _ => rfl) fun _ _ => rfl

variable (h : Driver.Mimics g r f)
include h

/-- A lease is what a request answers, and preparing and closing are followed. -/
theorem follows_lease (cache : StatementCache τ) (sql : String) :
    Follows (Lease.map f) (map g f) (lease cache sql : Step (Database δ τ) (Lease τ))
      (lease (cache.map f) sql) := by
  intro db
  let prepare {δ τ : Type} (x : Step δ τ) : Step (CacheSession τ δ) τ :=
    x.zoom CacheSession.world fun d s => { s with world := d }
  have hprepare : Follows f (CacheSession.map f g) (prepare (Driver.prepare sql : Step δ τ))
      (prepare (Driver.prepare sql : Step δ' τ')) :=
    (h.prepare sql).zoom (fun _ => rfl) fun _ _ => rfl
  have hrequest := CacheSession.follows_request h.statementClose sql hprepare ⟨cache, db.driver⟩
  simp only [CacheSession.map, prepare] at hrequest
  simp only [lease, map, hrequest]
  rfl

/-- Sending a text is followed if what runs it is, directly and prepared. -/
theorem follows_through {p : α → β} {direct : Step δ α} {direct' : Step δ' β}
    {prepared : τ → Step δ α} (prepared' : τ' → Step δ' β) (hdirect : Follows p g direct direct')
    (hprepared : ∀ t, Follows p g (prepared t) (prepared' (f t))) (sql : String) :
    Follows p (map g f) (through direct prepared sql) (through direct' prepared' sql) := by
  intro db
  unfold through
  have hcache : (db.map g f).cache = db.cache.map (StatementCache.map f) := rfl
  rw [hcache]
  cases db.cache with
  | none => exact follows_onDriver hdirect db
  | some cache =>
    have hlease := follows_lease h cache sql db
    simp only [Option.map_some, hlease]
    rcases lease cache sql db with ⟨e | l, db'⟩
    · rfl
    · have hrun := follows_onDriver (f := f) (hprepared l.statement) db'
      simp only [Except.map, Lease.map, hrun]
      rcases onDriver (prepared l.statement) db' with ⟨answer, db''⟩
      refine congrArg (Prod.mk _) ?_
      cases hkept : db''.cache with
      | none => simp only [map, hkept, Option.map_none]
      | some c => simp only [map, hkept, Option.map_some, StatementCache.release_map]

variable (c : Catalog) (template : String) (arguments : List Argument) (db : Database δ τ)

theorem follows_exec :
    Follows id (map g f) (db.handle.exec c template arguments)
      ((db.map g f).handle.exec c template arguments) := by
  refine (Follows.ofExcept (db.handle.compile c template arguments)).bind fun bound => ?_
  exact follows_through h (fun t => Driver.statementExec t bound.values)
    (h.exec bound.sql bound.values) (fun t => h.statementExec t bound.values) bound.sql

/-- Running a query, which is answered with a scanner of the other rows. -/
theorem follows_query (single : Bool) :
    Follows (Scanner.map r) (map g f) (db.handle.query c single template arguments)
      ((db.map g f).handle.query c single template arguments) := by
  refine (Follows.ofExcept (db.handle.compile c template arguments)).bind fun bound => ?_
  refine Follows.bind (f := r) ?_ fun rows db => rfl
  exact follows_through h (fun t => Driver.statementQuery t bound.values)
    (h.query bound.sql bound.values) (fun t => h.statementQuery t bound.values) bound.sql

/-- Running a query and scanning its rows. -/
theorem follows_scanInto [RowSource ρ] [RowSource ρ'] (hrows : RowSource.Alike r) (single : Bool)
    (d : Destination) :
    Follows id (map g f) (db.handle.scanInto c single d template arguments)
      ((db.map g f).handle.scanInto c single d template arguments) := by
  refine (follows_query h c template arguments db single).bind fun s => ?_
  simp only [Scanner.scan_map hrows c s d]
  have hdispose := Follows.modify (g := map g f)
    (h := db.handle.dispose (Scanner.scan c (s, d)).2.1.rows)
    (k := (db.map g f).handle.dispose (r (Scanner.scan c (s, d)).2.1.rows)) fun db =>
      congrArg (fun d => { db.map g f with driver := d }) (h.dispose _ db.driver)
  exact hdispose.bind fun _ => Follows.ofExcept _

theorem follows_close :
    Follows id (map g f) (close : Step (Database δ τ) Unit) close := by
  intro db
  have hdriver := follows_onDriver (f := f) h.close
  unfold close
  cases hcache : db.cache with
  | none =>
    have hnone : (db.map g f).cache = none := by rw [map, hcache, Option.map_none]
    simp only [hnone]
    exact hdriver db
  | some cache =>
    have hsome : (db.map g f).cache = some (cache.map f) := by rw [map, hcache, Option.map_some]
    let s : CacheSession τ δ :=
      CacheSession.clear (fun t => Driver.statementClose t) ⟨cache, db.driver⟩
    have hclear : CacheSession.clear (fun t => Driver.statementClose t)
        ⟨cache.map f, (db.map g f).driver⟩ = s.map f g :=
      CacheSession.clear_map h.statementClose ⟨cache, db.driver⟩
    simp only [hsome, hclear]
    exact hdriver { db with driver := s.world, cache := some s.cache }

/-- A driver newly taken into use. -/
theorem map_new (registry : Registry) (keyOf : String → UInt64) (driver : δ) (options : Options) :
    (new registry keyOf driver options : Database δ τ).map g f =
      new registry keyOf (g driver) options := by
  have hcache : (StatementCache.new? options.statementCacheCapacity keyOf).map
      (StatementCache.map f) = StatementCache.new? options.statementCacheCapacity keyOf := by
    unfold StatementCache.new?
    split <;> rfl
  simp only [new, map, hcache, h.name]

end Database

namespace Client

/-- **A client of a database on another driver.** -/
def map (g : δ → δ') (r : ρ → ρ') (f : τ → τ') (C : Client δ ρ τ) : Client δ' ρ' τ' where
  db := C.db.map g f
  scanners := C.scanners.map (Scanner.map r)

variable (C : Client δ ρ τ)

omit [Driver δ ρ τ χ] [Driver δ' ρ' τ' χ'] in
theorem map_keep (answer : Except Error (Scanner ρ) × Database δ τ) :
    (C.keep answer).map g r f =
      (C.map g r f).keep (answer.1.map (Scanner.map r), answer.2.map g f) := by
  obtain ⟨e | s, db⟩ := answer
  · rfl
  · simp only [keep, map, List.map_append]
    rfl

variable (h : Driver.Mimics g r f)
include h

theorem map_dropAt (i : Nat) : (C.dropAt i).map g r f = (C.map g r f).dropAt i := by
  unfold dropAt
  have hget : (C.map g r f).scanners[i]? = C.scanners[i]?.map (Scanner.map r) := List.getElem?_map
  rw [hget]
  cases C.scanners[i]? with
  | none => rfl
  | some s =>
    have hdispose : Driver.dispose (r s.rows) (g C.db.driver) = _ := h.dispose s.rows C.db.driver
    simp only [Option.map_some, map, List.eraseIdx_map, Database.map, Database.handle]
    exact congrArg (fun d => Client.mk (Database.mk d _ _ _) _) hdispose.symm

variable [RowSource ρ] [RowSource ρ'] (hrows : RowSource.Alike r) (c : Catalog)
include hrows

/-- **A use** of a client of one database leaves what it leaves of a client of the other, and is
answered alike. -/
theorem map_after (u : ClientUse) :
    (C.after c u).map g r f = (C.map g r f).after c u ∧
      (C.map g r f).answer c u = (C.answer c u).map (ClientResult.map (Scanner.map r)) := by
  have hleft : ∀ {db db' : Database δ' τ'}, db = db' →
      (⟨db', (C.map g r f).scanners⟩ : Client δ' ρ' τ') = ⟨db, (C.map g r f).scanners⟩ :=
    fun h => congrArg (Client.mk · _) h.symm
  cases u with
  | query single template arguments =>
    have h := Database.follows_query h c template arguments C.db single C.db
    exact ⟨(map_keep C _).trans (congrArg (C.map g r f).keep h.symm),
      map_eq_map_map (congrArg Prod.fst h) fun _ => rfl⟩
  | exec template arguments =>
    have h := Database.follows_exec h c template arguments C.db C.db
    exact ⟨hleft (congrArg Prod.snd h),
      map_eq_map_map (congrArg Prod.fst h) fun _ => rfl⟩
  | select element template arguments =>
    have h := Database.follows_scanInto h c template arguments C.db hrows false (.listOf element)
      C.db
    exact ⟨hleft (congrArg Prod.snd h),
      map_eq_map_map (congrArg Prod.fst h) fun _ => rfl⟩
  | get d template arguments =>
    have h := Database.follows_scanInto h c template arguments C.db hrows true d C.db
    exact ⟨hleft (congrArg Prod.snd h),
      map_eq_map_map (congrArg Prod.fst h) fun _ => rfl⟩
  | close =>
    have h := Database.follows_close h C.db
    exact ⟨hleft (congrArg Prod.snd h),
      map_eq_map_map (congrArg Prod.fst h) fun _ => rfl⟩
  | scanner i u =>
    exact ⟨congrArg (Client.mk (C.db.map g f)) (map_modify (u.run_map hrows c) _ i), rfl⟩
  | drop i => exact ⟨map_dropAt C h i, rfl⟩

/-- **Every run** on a driver leaves what it leaves on the driver that it mimics. The induction is
on the uses, the last one first. -/
theorem run_map (uses : List ClientUse) :
    (C.run c uses).map g r f = (C.map g r f).run c uses := by
  induction uses using List.reverseRecOn with
  | nil => rfl
  | append_singleton uses u ih =>
    rw [run_concat, run_concat, ← ih]
    exact (map_after (C.run c uses) h hrows c u).1

/-- **Every run** on a driver is answered as on the driver that it mimics. -/
theorem answers_map (uses : List ClientUse) :
    (C.map g r f).answers c uses =
      (C.answers c uses).map (Except.map (ClientResult.map (Scanner.map r))) := by
  induction uses generalizing C with
  | nil => rfl
  | cons u uses ih =>
    obtain ⟨hafter, hanswer⟩ := map_after C h hrows c u
    rw [answers, answers, List.map_cons, hanswer, ← hafter, ih]

end Client

end Rowbind
