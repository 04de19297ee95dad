import Rowbind.Proofs.Database.Erasure
import Rowbind.Proofs.Database.OpenRows

/-!
# Watching changes nothing

A database on a watched driver does what the database does on the driver itself
(`Client.run_unwatch`): forgetting the numbers, the tags and the list at the end of a run leaves
what the run would have left without them. So what is known of the closings of a watched driver is
known of the closings of the driver.
-/

namespace Rowbind

open Step (Follows)

variable {δ ρ τ χ α : Type} [Driver δ ρ τ χ]

namespace Watched

theorem follows_onDriver (x : Step δ α) : Follows id Watched.driver (onDriver x) x := by
  intro w
  unfold onDriver Step.zoom
  rcases x w.driver with ⟨e | a, d⟩
  · rfl
  · rfl

theorem follows_tagging (statement : Option Nat) (x : Step δ ρ) :
    Follows Tagged.rows Watched.driver (tagging statement x) x := by
  intro w
  unfold tagging
  rcases x w.driver with ⟨e | rows, d⟩
  · rfl
  · rfl

theorem follows_prepare (sql : String) :
    Follows Numbered.statement Watched.driver (prepare sql : Step (Watched δ) (Numbered τ))
      (Driver.prepare sql) := by
  intro w
  unfold prepare
  rcases Driver.prepare sql w.driver with ⟨e | t, d⟩
  · rfl
  · rfl

/-- **A watched driver does what the driver does.** -/
theorem mimics : Driver.Mimics (Watched.driver (δ := δ)) Tagged.rows Numbered.statement where
  name _ := rfl
  exec _ _ := follows_onDriver _
  query _ _ := follows_tagging none _
  close := follows_onDriver _
  dispose _ _ := rfl
  prepare := follows_prepare
  statementExec _ _ := follows_onDriver _
  statementQuery t _ := follows_tagging (some t.number) _
  statementClose _ _ := rfl

end Watched

/-- **A database without the watching.** -/
def Database.unwatch (db : Database (Watched δ) (Numbered τ)) : Database δ τ where
  driver := db.driver.driver
  dialect := db.dialect
  options := db.options
  cache := db.cache.map (StatementCache.map Numbered.statement)

namespace Client

/-- **A client without the watching.** -/
def unwatch (C : Client (Watched δ) (Tagged ρ) (Numbered τ)) : Client δ ρ τ where
  db := C.db.unwatch
  scanners := C.scanners.map (Scanner.map Tagged.rows)

variable [RowSource ρ] (c : Catalog) (registry : Registry) (keyOf : String → UInt64) (driver : δ)
  (options : Options)

/-- **Every run** on a watched driver leaves, but for the watching, what it leaves on the driver. -/
theorem run_unwatch (uses : List ClientUse) :
    ((start registry keyOf driver options).run c uses).unwatch =
      (new registry keyOf driver options : Client δ ρ τ).run c uses := by
  refine (run_map _ Watched.mimics Tagged.alike_rows c uses).trans ?_
  have hnew := Database.map_new (Watched.mimics (δ := δ)) registry keyOf { driver := driver }
    options
  exact congrArg (fun db => (Client.mk db [] : Client δ ρ τ).run c uses) hnew

end Client

end Rowbind
