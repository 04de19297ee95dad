import Rowbind.Proofs.Database.Erasure

/-!
# Overhearing a driver

What a driver is made to run cannot be read off its states. An **overheard** driver writes it down:
each text with its values, whether the text is run directly or was prepared before. Everything else
it leaves to the driver that is overheard, so a database on it is answered as on that driver
(`Overheard.answers_new`), and comes to the same (`Overheard.run_new`).
-/

namespace Rowbind

/-- **A prepared statement and the text that it was prepared for.** -/
structure Titled (τ : Type) where
  sql : String
  statement : τ

/-- **A driver that is overheard.** -/
structure Overheard (δ : Type) where
  driver : δ
  /-- The texts that were run, with their values, in order. -/
  executed : List (String × List Value) := []

namespace Overheard

variable {δ ρ τ χ α : Type} [Driver δ ρ τ χ]

/-- A step of the driver that runs no text. -/
def onDriver (x : Step δ α) : Step (Overheard δ) α :=
  x.zoom Overheard.driver fun d o => { o with driver := d }

/-- A step of the driver that runs a text. -/
def hearing (sql : String) (values : List Value) (x : Step δ α) : Step (Overheard δ) α :=
  x.zoom Overheard.driver fun d o => ⟨d, o.executed ++ [(sql, values)]⟩

/-- Prepares a statement. -/
def prepare (sql : String) : Step (Overheard δ) (Titled τ) := fun o =>
  let (answer, d) := Driver.prepare sql o.driver
  (answer.map (⟨sql, ·⟩), { o with driver := d })

instance : Driver (Overheard δ) ρ (Titled τ) χ where
  name o := Driver.name o.driver
  exec sql values := hearing sql values (Driver.exec sql values)
  query sql values := hearing sql values (Driver.query sql values)
  ping := onDriver Driver.ping
  close := onDriver Driver.close
  dispose rows o := { o with driver := Driver.dispose rows o.driver }
  prepare := prepare
  statementExec t values := hearing t.sql values (Driver.statementExec t.statement values)
  statementQuery t values := hearing t.sql values (Driver.statementQuery t.statement values)
  statementClose t := onDriver (Driver.statementClose t.statement)
  begin options := onDriver (Driver.begin options)
  transactionExec x sql values := hearing sql values (Driver.transactionExec x sql values)
  transactionQuery x sql values := hearing sql values (Driver.transactionQuery x sql values)
  commit x := onDriver (Driver.commit x)
  rollback x := onDriver (Driver.rollback x)
  abandon x o := { o with driver := Driver.abandon x o.driver }

/-- A step of the driver, whatever is written down of it. -/
theorem follows_zoom (put : δ → Overheard δ → Overheard δ) (hput : ∀ d o, (put d o).driver = d)
    (x : Step δ α) : Step.Follows id Overheard.driver (x.zoom Overheard.driver put) x := by
  intro o
  unfold Step.zoom
  rcases x o.driver with ⟨e | a, d⟩
  · exact congrArg (Prod.mk _) (hput d o).symm
  · exact congrArg (Prod.mk _) (hput d o).symm

theorem follows_prepare (sql : String) :
    Step.Follows Titled.statement Overheard.driver
      (prepare sql : Step (Overheard δ) (Titled τ)) (Driver.prepare sql) := by
  intro o
  unfold prepare
  rcases Driver.prepare sql o.driver with ⟨e | t, d⟩
  · rfl
  · rfl

/-- **An overheard driver does what the driver does.** -/
theorem mimics : Driver.Mimics (Overheard.driver (δ := δ)) id Titled.statement where
  name _ := rfl
  exec _ _ := follows_zoom _ (fun _ _ => rfl) _
  query _ _ := follows_zoom _ (fun _ _ => rfl) _
  close := follows_zoom _ (fun _ _ => rfl) _
  dispose _ _ := rfl
  prepare := follows_prepare
  statementExec _ _ := follows_zoom _ (fun _ _ => rfl) _
  statementQuery _ _ := follows_zoom _ (fun _ _ => rfl) _
  statementClose _ _ := rfl

variable [RowSource ρ]

omit [Driver δ ρ τ χ] in
theorem alike_id : RowSource.Alike (id : ρ → ρ) where
  columns _ := rfl
  advance _ := rfl
  take _ := rfl
  close _ := rfl

variable (c : Catalog) (registry : Registry) (keyOf : String → UInt64) (driver : δ)
  (options : Options) (uses : List ClientUse)

/-- A client of a driver newly taken into use, and overheard. -/
def client : Client (Overheard δ) ρ (Titled τ) := .new registry keyOf { driver := driver } options

/-- **The texts that a run makes the driver run**, with their values, in order. -/
def heard : List (String × List Value) :=
  ((client registry keyOf driver options).run c uses).db.driver.executed

omit [RowSource ρ] in
theorem map_client :
    (client registry keyOf driver options).map Overheard.driver id Titled.statement =
      (.new registry keyOf driver options : Client δ ρ τ) :=
  congrArg (Client.mk · []) (Database.map_new mimics registry keyOf { driver := driver } options)

/-- **Every run** on an overheard driver leaves, but for what was heard, what it leaves on the
driver. -/
theorem run_new :
    ((client registry keyOf driver options).run c uses).map Overheard.driver id Titled.statement =
      (Client.new registry keyOf driver options : Client δ ρ τ).run c uses := by
  rw [Client.run_map _ mimics alike_id, map_client]

/-- **Every run** on an overheard driver is answered as on the driver. -/
theorem answers_new :
    (client registry keyOf driver options).answers c uses =
      (Client.new registry keyOf driver options : Client δ ρ τ).answers c uses := by
  have hid : Except.map (ε := Error) (ClientResult.map (Scanner.map (id : ρ → ρ))) = id := by
    funext answer
    rcases answer with e | (r | s | d | _) <;> rfl
  have hanswers := Client.answers_map (client registry keyOf driver options) mimics alike_id c uses
  rw [map_client, hid, List.map_id] at hanswers
  exact hanswers.symm

end Overheard

end Rowbind
