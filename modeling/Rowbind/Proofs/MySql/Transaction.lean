import Rowbind.Proofs.MySql.Tapped

/-!
# Transactions finish once

A transaction keeps its connection until it is committed or rolled back, and others use the pool
meanwhile. So a run of a transaction is told by its uses and by the pools that they find, which may
be any (`Transaction.play`).

Up to the first commit or rollback, a use runs its statement over the connection, is answered with
what that comes to, and leaves the pool as it was but for its server (`Episode.Within`). The first
commit or rollback sends that one command, and gives the connection away: back to the pool if the
server took the command, and to be closed otherwise (`Episode.Finishes`). After that every use is
refused, and nothing is sent (`Episode.Refused`). The invariant of a run is which of the two a
transaction is: still with its connection, or without one for good (`Transaction.play_cases`).

A command is a text that is run by itself. A use that runs a statement has it prepared, whatever its
text, and so sends no command.
-/

namespace Rowbind.MySql

open Step (Follows)

/-- **What can be done with a transaction.** -/
inductive TransactionUse where
  | exec (sql : String) (values : List Value)
  | query (sql : String) (values : List Value)
  | commit
  | rollback

/-- **What a use of a transaction is answered with.** -/
inductive TransactionReply where
  | report (r : ExecReport)
  | rows (columns : List String) (rows : List (List Value))
  | finished

variable {σ : Type}

namespace TransactionUse

/-- The statement that a use runs. -/
def statement? : TransactionUse → Option String
  | exec sql _ | query sql _ => some sql
  | commit | rollback => none

/-- The command by which a use finishes the transaction. -/
def command? : TransactionUse → Option String
  | exec .. | query .. => none
  | commit => some "COMMIT"
  | rollback => some "ROLLBACK"

/-- A use runs a statement or finishes the transaction. -/
theorem statement_or_command (u : TransactionUse) :
    (∃ sql, u.statement? = some sql) ∨ ∃ sql, u.command? = some sql := by
  cases u with
  | exec sql values => exact .inl ⟨sql, rfl⟩
  | query sql values => exact .inl ⟨sql, rfl⟩
  | commit => exact .inr ⟨"COMMIT", rfl⟩
  | rollback => exact .inr ⟨"ROLLBACK", rfl⟩

/-- **Uses a transaction.** -/
def run [Server σ] : TransactionUse → Step (Transaction × Pool σ) TransactionReply
  | exec sql values => fun (x, p) =>
    let (answer, p) := x.exec sql values p
    (answer.map .report, x, p)
  | query sql values => fun (x, p) =>
    let (answer, p) := x.query sql values p
    (answer.map fun (columns, rows) => .rows columns rows, x, p)
  | commit => fun s =>
    let (answer, s) := Transaction.commit s
    (answer.map fun _ => .finished, s)
  | rollback => fun s =>
    let (answer, s) := Transaction.rollback s
    (answer.map fun _ => .finished, s)

end TransactionUse

/-- **A use of a transaction**: the pool that it found, its answer, and the pool that it left. -/
structure Episode (σ : Type) where
  use : TransactionUse
  found : Pool σ
  answer : Except Error TransactionReply
  left : Pool σ

/-- **Uses a transaction again and again.** Each use finds a pool of its own, since others may have
used the pool since the last one. -/
def Transaction.play [Server σ] (x : Transaction) :
    List (TransactionUse × Pool σ) → List (Episode σ) × Transaction
  | [] => ([], x)
  | (u, p) :: asked =>
    let (answer, x, left) := u.run (x, p)
    let (episodes, x) := play x asked
    (⟨u, p, answer, left⟩ :: episodes, x)

/-- **What a use that runs a statement comes to** over a connection to a server in a state: its
answer, the messages sent, and the state that the server is left in. -/
inductive TransactionUse.Runs [Server σ] (c : Connection) (s : σ) :
    TransactionUse → Except Error TransactionReply → List Message → σ → Prop
  | exec {sql : String} {values : List Value} {outcome : Except Error Outcome} {ms : List Message}
      {s' : σ} (hruns : RunsOn c sql values s outcome ms s') :
    Runs c s (.exec sql values) (outcome.map fun o => .report o.asReport) ms s'
  | query {sql : String} {values : List Value}
      {answer : Except Error (List String × List (List Value))} {ms : List Message} {s' : σ}
      (hfetches : FetchesOn c sql values s answer ms s') :
    Runs c s (.query sql values) (answer.map fun (columns, rows) => .rows columns rows) ms s'

/-- What runs is a statement, and what is sent for it are messages of that statement. -/
theorem TransactionUse.Runs.isOf [Server σ] {c : Connection} {u : TransactionUse}
    {answer : Except Error TransactionReply} {ms : List Message} {s s' : σ}
    (h : Runs c s u answer ms s') :
    ∃ sql, u.statement? = some sql ∧ ∀ m ∈ ms, Message.IsOf sql m := by
  cases h with
  | exec hruns => exact ⟨_, rfl, hruns.isOf⟩
  | query hfetches => exact ⟨_, rfl, hfetches.isOf⟩

namespace Episode

/-- An episode without the tapping. -/
def untap (e : Episode (Tapped σ)) : Episode σ := ⟨e.use, e.found.untap, e.answer, e.left.untap⟩

/-- The messages sent in an episode. -/
def sent (e : Episode (Tapped σ)) : List Sent :=
  e.left.server.sent.drop e.found.server.sent.length

/-- **Whether all that an episode did was to run its statement** over a connection: it was answered
with what that comes to, and left the pool with nothing but the messages of it sent. -/
def Within [Server σ] (c : Connection) (e : Episode (Tapped σ)) : Prop :=
  ∃ ms s, e.left = e.found.sentOver c ms s ∧
    e.use.Runs c e.found.server.server e.answer ms s

/-- Whether all that an episode did was to send a command over a connection, and to give the
connection away as the server's answer demands. -/
structure Finishes [Server σ] (c : Connection) (sql : String) (e : Episode (Tapped σ)) : Prop where
  answer : e.answer = (Server.command c sql e.found.server.server).1.map fun _ => .finished
  sent : e.left.server.sent = e.found.server.sent ++ [⟨c, .command sql⟩]
  taken : ∀ reply, e.answer = .ok reply →
    e.left = { e.found with server := e.left.server }.putBack c
  refused : ∀ error, e.answer = .error error →
    e.left = { e.found with server := e.left.server }.detach c

/-- Whether all that an episode did was to fail. -/
structure Refused (e : Episode (Tapped σ)) : Prop where
  answer : e.answer = .error (.usage .transactionFinished)
  left : e.left = e.found

variable {e : Episode (Tapped σ)}

theorem sent_eq {ms : List Sent} (h : e.left.server.sent = e.found.server.sent ++ ms) :
    e.sent = ms := by
  rw [sent, h, List.drop_left]

/-- An episode that runs a statement sends no command. -/
theorem Within.sent [Server σ] {c : Connection} (h : e.Within c) :
    ∀ m ∈ e.sent, m.on = c ∧ m.isCommand = false := by
  obtain ⟨ms, s, hleft, hruns⟩ := h
  obtain ⟨sql, -, hkind⟩ := hruns.isOf
  rw [sent_eq (congrArg (·.server.sent) hleft)]
  intro m hm
  obtain ⟨message, hmessage, rfl⟩ := List.mem_map.mp hm
  refine ⟨rfl, ?_⟩
  obtain rfl | ⟨values, rfl⟩ := hkind message hmessage
  · rfl
  · rfl

theorem Refused.sent (h : e.Refused) : e.sent = [] :=
  sent_eq (by rw [h.left, List.append_nil])

variable {c : Connection} {before after : List (Episode (Tapped σ))}

/-- Running statements sends everything over the connection, and no command. -/
theorem sent_of_within [Server σ] (h : ∀ b ∈ before, b.Within c) :
    (∀ m ∈ before.flatMap sent, m.on = c) ∧ (before.flatMap sent).countP Sent.isCommand = 0 := by
  have hall : ∀ m ∈ before.flatMap sent, m.on = c ∧ m.isCommand = false := by
    intro m hm
    obtain ⟨b, hb, hm⟩ := List.mem_flatMap.mp hm
    exact (h b hb).sent m hm
  refine ⟨fun m hm => (hall m hm).1, List.countP_eq_zero.mpr fun m hm => ?_⟩
  rw [(hall m hm).2]
  exact Bool.false_ne_true

/-- Running statements and finishing then sends everything over the connection, and one command. -/
theorem sent_of_finishes [Server σ] {sql : String} (hbefore : ∀ b ∈ before, b.Within c)
    (he : e.Finishes c sql) (hafter : ∀ a ∈ after, a.Refused) :
    (∀ m ∈ (before ++ e :: after).flatMap sent, m.on = c) ∧
      ((before ++ e :: after).flatMap sent).countP Sent.isCommand = 1 := by
  obtain ⟨hon, hcount⟩ := sent_of_within hbefore
  have hsent : (before ++ e :: after).flatMap sent =
      before.flatMap sent ++ [⟨c, .command sql⟩] := by
    rw [List.flatMap_append, List.flatMap_cons, sent_eq he.sent,
      List.flatMap_eq_nil_iff.mpr fun a ha => (hafter a ha).sent, List.append_nil]
  rw [hsent]
  constructor
  · intro m hm
    obtain hm | hm := List.mem_append.mp hm
    · exact hon m hm
    · rw [List.mem_singleton.mp hm]
  · rw [List.countP_append, hcount]
    rfl

end Episode

namespace Transaction

/-! ## One use -/

section Use

variable [Server σ] (u : TransactionUse) (p : Pool (Tapped σ))

/-- **A use of a finished transaction** is refused, and does nothing. -/
theorem run_finished (p : Pool σ) :
    u.run (⟨none⟩, p) = (.error (.usage .transactionFinished), ⟨none⟩, p) := by
  cases u <;> rfl

/-- **Running a statement in a transaction** does it over its connection, which it keeps. -/
theorem run_statement (c : Connection) {sql : String} (hu : u.statement? = some sql) :
    (u.run (⟨some c⟩, p)).2.1 = ⟨some c⟩ ∧
      Episode.Within c ⟨u, p, (u.run (⟨some c⟩, p)).1, (u.run (⟨some c⟩, p)).2.2⟩ := by
  cases u with
  | exec sql values =>
    obtain ⟨outcome, ms, s, hexec, hruns⟩ := runsOn_execOn c sql values p
    have hrun : TransactionUse.run (.exec sql values) (⟨some c⟩, p) =
        (outcome.map fun o => .report o.asReport, ⟨some c⟩, p.sentOver c ms s) := by
      show ((Pool.execOn c sql values p).1.map _, _, (Pool.execOn c sql values p).2) = _
      rw [hexec]
      cases outcome <;> rfl
    rw [hrun]
    exact ⟨rfl, ms, s, rfl, .exec hruns⟩
  | query sql values =>
    obtain ⟨answer, ms, s, hfetch, hfetches⟩ := fetchesOn_fetchOn c sql values p
    have hrun : TransactionUse.run (.query sql values) (⟨some c⟩, p) =
        (answer.map fun (columns, rows) => .rows columns rows, ⟨some c⟩, p.sentOver c ms s) := by
      show ((Pool.fetchOn c sql values p).1.map _, _, (Pool.fetchOn c sql values p).2) = _
      rw [hfetch]
    rw [hrun]
    exact ⟨rfl, ms, s, rfl, .query hfetches⟩
  | commit => cases hu
  | rollback => cases hu

/-- What a command over a connection makes of a pool. -/
theorem onServer_command (c : Connection) (sql : String) :
    Pool.onServer (Server.command c sql) p =
      ((Server.command c sql p.server.server).1, { p with server :=
        ⟨(Server.command c sql p.server.server).2, p.server.sent ++ [⟨c, .command sql⟩]⟩ }) := rfl

/-- Committing and rolling back are finishing, with a command of their own. -/
theorem run_eq_finish {sql : String} (hu : u.command? = some sql) (s : Transaction × Pool σ) :
    u.run s = ((finish sql s).1.map fun _ => .finished, (finish sql s).2) := by
  cases u with
  | exec sql values => cases hu
  | query sql values => cases hu
  | commit =>
    cases hu
    rfl
  | rollback =>
    cases hu
    rfl

/-- **Finishing a transaction** sends the command over its connection, which it gives away. -/
theorem run_command (c : Connection) {sql : String} (hu : u.command? = some sql) :
    (u.run (⟨some c⟩, p)).2.1 = ⟨none⟩ ∧
      Episode.Finishes c sql ⟨u, p, (u.run (⟨some c⟩, p)).1, (u.run (⟨some c⟩, p)).2.2⟩ := by
  rw [run_eq_finish u hu]
  simp only [finish, onServer_command]
  cases hanswer : (Server.command c sql p.server.server).1 with
  | ok a =>
    refine ⟨rfl, ⟨?_, rfl, fun _ _ => rfl, nofun⟩⟩
    simp only [hanswer]
  | error e =>
    refine ⟨rfl, ⟨?_, rfl, nofun, fun _ _ => rfl⟩⟩
    simp only [hanswer]

end Use

/-! ## On a server that mimics another -/

section Mimics

variable {τ : Type} [Server τ] [Server σ] {view : τ → σ} (h : Server.Mimics view)
include h

theorem follows_exec (x : Transaction) (sql : String) (values : List Value) :
    Follows id (Pool.seen view) (x.exec sql values) (x.exec sql values) := by
  obtain ⟨_ | c⟩ := x
  · exact fun _ => rfl
  · exact Pool.follows_execOn h c sql values

theorem follows_query (x : Transaction) (sql : String) (values : List Value) :
    Follows id (Pool.seen view) (x.query sql values) (x.query sql values) := by
  obtain ⟨_ | c⟩ := x
  · exact fun _ => rfl
  · exact Pool.follows_fetchOn h c sql values

theorem follows_finish (sql : String) :
    Follows id (Prod.map id (Pool.seen view)) (finish sql) (finish sql) := by
  rintro ⟨⟨_ | c⟩, p⟩
  · rfl
  · have hsent := Pool.follows_onServer (h.command c sql) p
    simp only [finish, Prod.map, id_eq, hsent]
    rcases Pool.onServer (Server.command c sql) p with ⟨e | a, p'⟩
    · rfl
    · rfl

/-- **A use** of a transaction on a server that mimics another is the use on the other one. -/
theorem follows_run (u : TransactionUse) :
    Follows id (Prod.map id (Pool.seen view)) u.run u.run := by
  rintro ⟨x, p⟩
  cases u with
  | exec sql values =>
    have hexec := follows_exec h x sql values p
    simp only [TransactionUse.run, Prod.map, id_eq, hexec, Except.map_id]
  | query sql values =>
    have hquery := follows_query h x sql values p
    simp only [TransactionUse.run, Prod.map, id_eq, hquery, Except.map_id]
  | commit =>
    have hfinish := follows_finish h "COMMIT" (x, p)
    simp only [TransactionUse.run, commit, hfinish, Except.map_id, id_eq]
  | rollback =>
    have hfinish := follows_finish h "ROLLBACK" (x, p)
    simp only [TransactionUse.run, rollback, hfinish, Except.map_id, id_eq]

end Mimics

/-! ## Without the tapping -/

section Untapped

variable [Server σ]

/-- **A run** of a transaction on a tapped server is the run on the server itself. -/
theorem play_untap (x : Transaction) (asked : List (TransactionUse × Pool (Tapped σ))) :
    play x (asked.map fun a => (a.1, a.2.untap)) =
      ((play x asked).1.map Episode.untap, (play x asked).2) := by
  induction asked generalizing x with
  | nil => rfl
  | cons a asked ih =>
    obtain ⟨u, p⟩ := a
    have hrun : u.run (x, p.untap) = _ := follows_run Tapped.mimics u (x, p)
    simp only [List.map_cons, play, hrun, Prod.map, id_eq, Except.map_id, ih]
    rfl

end Untapped

/-! ## Runs -/

section Run

variable [Server σ]

/-- A run is asked what it is asked. -/
theorem play_asked (x : Transaction) (asked : List (TransactionUse × Pool (Tapped σ))) :
    (play x asked).1.map (fun e => (e.use, e.found)) = asked := by
  induction asked generalizing x with
  | nil => rfl
  | cons a asked ih => exact congrArg (a :: ·) (ih _)

/-- **A run of a finished transaction** is refused as a whole. -/
theorem play_finished (asked : List (TransactionUse × Pool (Tapped σ))) :
    (play ⟨none⟩ asked).2 = ⟨none⟩ ∧ ∀ e ∈ (play ⟨none⟩ asked).1, e.Refused := by
  induction asked with
  | nil => exact ⟨rfl, fun _ he => absurd he List.not_mem_nil⟩
  | cons a asked ih =>
    obtain ⟨u, p⟩ := a
    simp only [play, run_finished]
    exact ⟨ih.1, List.forall_mem_cons.mpr ⟨⟨rfl, rfl⟩, ih.2⟩⟩

/-- **A run of a transaction** runs statements until it is finished by one command, if it is, and
after that is refused. -/
theorem play_cases (c : Connection) (asked : List (TransactionUse × Pool (Tapped σ))) :
    ((play ⟨some c⟩ asked).2 = ⟨some c⟩ ∧ ∀ e ∈ (play ⟨some c⟩ asked).1, e.Within c) ∨
      (play ⟨some c⟩ asked).2 = ⟨none⟩ ∧ ∃ before e after sql,
        (play ⟨some c⟩ asked).1 = before ++ e :: after ∧ e.use.command? = some sql ∧
          (∀ b ∈ before, b.Within c) ∧ e.Finishes c sql ∧ ∀ a ∈ after, a.Refused := by
  induction asked with
  | nil => exact .inl ⟨rfl, fun _ he => absurd he List.not_mem_nil⟩
  | cons a asked ih =>
    obtain ⟨u, p⟩ := a
    -- a statement leaves the transaction as it was, and the rest of the run with it
    obtain ⟨sql, hu⟩ | ⟨sql, hu⟩ := u.statement_or_command
    · obtain ⟨hkept, hwithin⟩ := run_statement u p c hu
      simp only [play, hkept]
      obtain ⟨hend, hall⟩ | ⟨hend, before, e, after, command, hsplit, he, hbefore, hrest⟩ := ih
      · exact .inl ⟨hend, List.forall_mem_cons.mpr ⟨hwithin, hall⟩⟩
      · exact .inr ⟨hend, _ :: before, e, after, command, by rw [hsplit, List.cons_append], he,
          List.forall_mem_cons.mpr ⟨hwithin, hbefore⟩, hrest⟩
    · obtain ⟨hgone, hfinishes⟩ := run_command u p c hu
      obtain ⟨hend, hrefused⟩ := play_finished asked
      simp only [play, hgone]
      exact .inr ⟨hend, [], _, _, sql, rfl, hu, fun _ h => absurd h List.not_mem_nil, hfinishes,
        hrefused⟩

/-- **Transactions finish once**, and give their connection away as the server answers. -/
theorem play_spec (c : Connection) (asked : List (TransactionUse × Pool (Tapped σ))) :
    let episodes := (play ⟨some c⟩ asked).1
    let x := (play ⟨some c⟩ asked).2
    -- every use is asked as it is told, and tapping the server changes nothing
    episodes.map (fun e => (e.use, e.found)) = asked ∧
      play ⟨some c⟩ (asked.map fun a => (a.1, a.2.untap)) = (episodes.map Episode.untap, x) ∧
      -- all that is sent is sent over the one connection, and one command at most
      (∀ m ∈ episodes.flatMap Episode.sent, m.on = c) ∧
      (episodes.flatMap Episode.sent).countP Sent.isCommand ≤ 1 ∧
      -- statements only, and the connection is closed when the transaction is dropped
      ((∀ e ∈ episodes, e.Within c) ∧ (∀ p : Pool (Tapped σ), x.abandon p = p.detach c) ∨
        -- or statements up to the one command, and nothing is left to drop
        ∃ before e after sql, episodes = before ++ e :: after ∧ e.use.command? = some sql ∧
          (∀ b ∈ before, b.Within c) ∧ e.Finishes c sql ∧ (∀ a ∈ after, a.Refused) ∧
          ∀ p : Pool (Tapped σ), x.abandon p = p) := by
  refine ⟨play_asked _ asked, play_untap _ asked, ?_⟩
  obtain ⟨hend, hwithin⟩ | ⟨hend, before, e, after, sql, hsplit, he, hbefore, hfinishes, hafter⟩ :=
    play_cases c asked
  · obtain ⟨hon, hcount⟩ := Episode.sent_of_within hwithin
    rw [hend]
    exact ⟨hon, hcount ▸ Nat.zero_le 1, .inl ⟨hwithin, fun _ => rfl⟩⟩
  · obtain ⟨hon, hcount⟩ := Episode.sent_of_finishes hbefore hfinishes hafter
    rw [hend, hsplit]
    exact ⟨hon, Nat.le_of_eq hcount, .inr ⟨before, e, after, sql, rfl, he, hbefore, hfinishes, hafter,
      fun _ => rfl⟩⟩

/-- A commit that the server refuses: the connection is closed, and the rollback after it sends
nothing. -/
example :
    let server : ScriptedServer := { answers := [("COMMIT", .refused)] }
    let p : Pool (Tapped ScriptedServer) := { server := { server } }
    let asked := [(.exec "DELETE FROM t" [], p), (.commit, p), (.rollback, p)]
    let episodes := (play ⟨some ⟨0⟩⟩ asked).1
    episodes.map Episode.sent =
        [[⟨⟨0⟩, .prepare "DELETE FROM t"⟩, ⟨⟨0⟩, .execute "DELETE FROM t" []⟩],
          [⟨⟨0⟩, .command "COMMIT"⟩], []] ∧
      episodes.map (·.left.detached) = [[], [⟨0⟩], []] ∧
      episodes.map (·.left.idle) = [[], [], []] := by
  refine ⟨?_, ?_, ?_⟩ <;> rfl

end Run

end Transaction

end Rowbind.MySql
