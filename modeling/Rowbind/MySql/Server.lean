import Rowbind.Driver.Interface
import Rowbind.MySql.Column

/-!
# MySQL servers

What a server is asked for over a connection: to prepare a text, to run a text with values bound to
its parameters, and to run a text by itself. A server may answer anything; what it answers is its
own affair, as is what it remembers.

A **scripted server** knows a few texts by heart and takes every other one for a statement that
changes one row. It keeps a record of what was run.
-/

namespace Rowbind.MySql

/-- **A connection**, by its number. -/
structure Connection where
  number : Nat
  deriving DecidableEq, Repr

/-- **What running a statement gives**: a report, or rows and the columns they have. -/
inductive Outcome where
  | report (r : ExecReport)
  | rows (columns : List Column) (rows : List (List Cell))

/-- **A server.** -/
class Server (σ : Type) where
  /-- Prepares a text, and describes the columns of its result. -/
  prepare (on : Connection) (sql : String) : Step σ (List Column)
  /-- Runs a prepared text with values. -/
  execute (on : Connection) (sql : String) (values : List Value) : Step σ Outcome
  /-- Runs a text by itself. -/
  command (on : Connection) (sql : String) : Step σ Unit
  /-- Answers to show that it is there. -/
  ping (on : Connection) : Step σ Unit

/-- **What a scripted server answers to a text.** -/
inductive ScriptedAnswer where
  /-- Running the text fails. -/
  | refused
  /-- Preparing the text fails. -/
  | unpreparable
  | result (columns : List Column) (rows : List (List Cell))
  | report (r : ExecReport)

/-- **What a scripted server's record holds.** -/
inductive ServerEvent where
  | executed (on : Connection) (sql : String) (values : List Value)
  | commanded (on : Connection) (sql : String)

/-- **A server that answers by heart.** -/
structure ScriptedServer where
  answers : List (String × ScriptedAnswer)
  log : List ServerEvent := []

/-- A value as it arrives: points in time lose what is less than a microsecond. -/
def asReceived : Value → Value
  | .time t => .time t.toMicros
  | v => v

namespace ScriptedServer

def answer (s : ScriptedServer) (sql : String) : ScriptedAnswer :=
  (s.answers.lookup sql).getD (.report ⟨1, 0⟩)

def note (e : ServerEvent) (s : ScriptedServer) : ScriptedServer := { s with log := s.log ++ [e] }

instance : Server ScriptedServer where
  prepare _ sql := fun s =>
    match s.answer sql with
    | .unpreparable => (undecodable, s)
    | .result columns _ => (.ok columns, s)
    | _ => (.ok [], s)
  execute on sql values := fun s =>
    (match s.answer sql with
      | .refused | .unpreparable => undecodable
      | .result columns rows => .ok (.rows columns rows)
      | .report r => .ok (.report r), s.note (.executed on sql (values.map asReceived)))
  command on sql := fun s =>
    (match s.answer sql with
      | .refused => undecodable
      | _ => .ok (), s.note (.commanded on sql))
  ping _ := pure ()

end ScriptedServer

end Rowbind.MySql
