import Rowbind.Proofs.MySql.Calls

/-!
# Tapping the line to a server

What is sent to a server cannot be read off its states, since a server remembers what it likes. A
**tapped** server writes it down: every message, with the connection that it is sent over.
Everything else it leaves to the server that is tapped, so a pool on it is answered as on that
server, and comes to the same (`Tapped.mimics`).

Running a statement over a connection sends its messages over that connection, and changes nothing
of the pool besides. Which messages these are hangs on how far the statement comes: nothing is sent
where its values cannot be bound, and it is run only where it was prepared (`RunsOn`). Where no row
comes back to tell the columns, the statement is prepared once more for them (`FetchesOn`).
-/

namespace Rowbind.MySql

open Step (Follows)

/-- **What is asked of a server.** -/
inductive Message where
  | prepare (sql : String)
  | execute (sql : String) (values : List Value)
  | command (sql : String)
  | ping

/-- Whether a message is of a statement: preparing it, or running it prepared. -/
def Message.IsOf (sql : String) (m : Message) : Prop :=
  m = prepare sql ∨ ∃ values, m = execute sql values

/-- **A message, and the connection that it is sent over.** -/
structure Sent where
  on : Connection
  message : Message

/-- Whether a message is a text that is run by itself. -/
def Sent.isCommand (m : Sent) : Bool :=
  match m.message with
  | .command _ => true
  | _ => false

/-- **A server that is tapped.** -/
structure Tapped (σ : Type) where
  server : σ
  /-- The messages sent so far, in order. -/
  sent : List Sent := []

variable {σ α β : Type}

namespace Tapped

/-- A step of the server for which a message is sent. -/
def tap (on : Connection) (m : Message) (x : Step σ α) : Step (Tapped σ) α :=
  x.zoom Tapped.server fun s t => ⟨s, t.sent ++ [⟨on, m⟩]⟩

instance [Server σ] : Server (Tapped σ) where
  prepare on sql := tap on (.prepare sql) (Server.prepare on sql)
  execute on sql values := tap on (.execute sql values) (Server.execute on sql values)
  command on sql := tap on (.command sql) (Server.command on sql)
  ping on := tap on .ping (Server.ping on)

/-- **Tapping changes nothing.** -/
theorem follows_tap (on : Connection) (m : Message) (x : Step σ α) :
    Follows id Tapped.server (tap on m x) x := by
  intro t
  unfold tap Step.zoom
  rcases x t.server with ⟨e | a, s⟩
  · rfl
  · rfl

theorem mimics [Server σ] : Server.Mimics (Tapped.server : Tapped σ → σ) where
  prepare on sql := follows_tap on (.prepare sql) _
  execute on sql values := follows_tap on (.execute sql values) _
  command on sql := follows_tap on (.command sql) _
  ping on := follows_tap on .ping _

end Tapped

namespace Pool

/-- **A pool without the tapping.** -/
def untap (p : Pool (Tapped σ)) : Pool σ where
  server := p.server.server
  idle := p.idle
  detached := p.detached
  opened := p.opened
  closed := p.closed

/-- **A pool after messages were sent over a connection**, which left its server in a state. -/
def sentOver (c : Connection) (ms : List Message) (s : σ) (p : Pool (Tapped σ)) :
    Pool (Tapped σ) :=
  { p with server := ⟨s, p.server.sent ++ ms.map (⟨c, ·⟩)⟩ }

theorem sentOver_nil (c : Connection) (p : Pool (Tapped σ)) :
    p.sentOver c [] p.server.server = p := by
  simp only [sentOver, List.map_nil, List.append_nil]

theorem sentOver_sentOver (c : Connection) (ms ms' : List Message) (s s' : σ)
    (p : Pool (Tapped σ)) :
    (p.sentOver c ms s).sentOver c ms' s' = p.sentOver c (ms ++ ms') s' := by
  simp only [sentOver, List.map_append, List.append_assoc]

section Server

variable [Server σ] {c : Connection} {sql : String} {p : Pool (Tapped σ)} {s : σ}

omit [Server σ] in
/-- A step of the server sends its message. -/
theorem onServer_tap {m : Message} {x : Step σ α} {answer : Except Error α}
    (h : x p.server.server = (answer, s)) :
    onServer (Tapped.tap c m x) p = (answer, p.sentOver c [m] s) := by
  simp only [onServer, Tapped.tap, Step.zoom, h]
  rfl

theorem onServer_prepare {columns : Except Error (List Column)}
    (h : Server.prepare c sql p.server.server = (columns, s)) :
    onServer (Server.prepare c sql) p = (columns, p.sentOver c [.prepare sql] s) :=
  onServer_tap h

theorem onServer_execute {bound : List Value} {outcome : Except Error Outcome}
    (h : Server.execute c sql bound p.server.server = (outcome, s)) :
    onServer (Server.execute c sql bound) p = (outcome, p.sentOver c [.execute sql bound] s) :=
  onServer_tap h

end Server

end Pool

/-! ## What running a statement comes to -/

section RunsOn

variable [Server σ] (c : Connection) (sql : String) (values : List Value)

/-- **What running a statement comes to** over a connection to a server in a state: the outcome, the
messages sent, and the state that the server is left in. -/
inductive RunsOn (s : σ) : Except Error Outcome → List Message → σ → Prop
  | unbound {e : Error} (hbind : bindAll values = .error e) : RunsOn s (.error e) [] s
  | unprepared {bound : List Value} {e : Error} {s₁ : σ} (hbind : bindAll values = .ok bound)
      (hprepare : Server.prepare c sql s = (.error e, s₁)) : RunsOn s (.error e) [.prepare sql] s₁
  | executed {bound : List Value} {columns : List Column} {outcome : Except Error Outcome}
      {s₁ s₂ : σ} (hbind : bindAll values = .ok bound)
      (hprepare : Server.prepare c sql s = (.ok columns, s₁))
      (hexecute : Server.execute c sql bound s₁ = (outcome, s₂)) :
      RunsOn s outcome [.prepare sql, .execute sql bound] s₂

theorem runsOn_runOn (p : Pool (Tapped σ)) :
    ∃ outcome ms s, Pool.runOn c sql values p = (outcome, p.sentOver c ms s) ∧
      RunsOn c sql values p.server.server outcome ms s := by
  unfold Pool.runOn
  cases hbind : bindAll values with
  | error e =>
    refine ⟨.error e, [], p.server.server, ?_, .unbound hbind⟩
    rw [Pool.sentOver_nil]
    rfl
  | ok bound =>
    show ∃ outcome ms s, (do
      let _ ← Pool.onServer (Server.prepare c sql)
      Pool.onServer (Server.execute c sql bound)) p = (outcome, p.sentOver c ms s) ∧ _
    rcases hprepare : Server.prepare c sql p.server.server with ⟨e | columns, s₁⟩
    · have hfails := Pool.onServer_prepare hprepare
      exact ⟨.error e, _, s₁, Step.bind_error hfails _, .unprepared hbind hprepare⟩
    · have hprepared := Pool.onServer_prepare hprepare
      rcases hexecute : Server.execute c sql bound s₁ with ⟨outcome, s₂⟩
      have hexecuted := Pool.onServer_execute (p := p.sentOver c [.prepare sql] s₁) hexecute
      refine ⟨outcome, _, s₂, ?_, .executed hbind hprepare hexecute⟩
      rw [Step.bind_ok hprepared, hexecuted, Pool.sentOver_sentOver]
      rfl

/-- What an outcome is reported as. Rows change nothing. -/
def Outcome.asReport : Outcome → ExecReport
  | report r => r
  | rows .. => ⟨0, 0⟩

/-- Whether an outcome has a row, which tells the columns. -/
def Outcome.hasRow : Outcome → Bool
  | rows _ (_ :: _) => true
  | _ => false

/-- **What running a statement for its rows comes to**: the columns and the rows, the messages sent,
and the state that the server is left in. -/
inductive FetchesOn (s : σ) :
    Except Error (List String × List (List Value)) → List Message → σ → Prop
  | failed {e : Error} {ms : List Message} {s₁ : σ}
      (hruns : RunsOn c sql values s (.error e) ms s₁) : FetchesOn s (.error e) ms s₁
  | decoded {columns : List Column} {row : List Cell} {rows : List (List Cell)} {ms : List Message}
      {s₁ : σ} (hruns : RunsOn c sql values s (.ok (.rows columns (row :: rows))) ms s₁) :
    FetchesOn s ((decodeRows columns (row :: rows)).map (columns.map (·.name), ·)) ms s₁
  | described {outcome : Outcome} {columns : Except Error (List Column)} {ms : List Message}
      {s₁ s₂ : σ} (hruns : RunsOn c sql values s (.ok outcome) ms s₁)
      (hnone : outcome.hasRow = false) (hprepare : Server.prepare c sql s₁ = (columns, s₂)) :
    FetchesOn s (columns.map (·.map (·.name), [])) (ms ++ [.prepare sql]) s₂

/-- **Running a statement for its report.** -/
theorem runsOn_execOn (p : Pool (Tapped σ)) :
    ∃ outcome ms s,
      Pool.execOn c sql values p = (outcome.map Outcome.asReport, p.sentOver c ms s) ∧
        RunsOn c sql values p.server.server outcome ms s := by
  obtain ⟨outcome, ms, s, hrun, hruns⟩ := runsOn_runOn c sql values p
  refine ⟨outcome, ms, s, ?_, hruns⟩
  unfold Pool.execOn
  obtain e | outcome := outcome
  · exact Step.bind_error hrun _
  · rw [Step.bind_ok hrun]
    cases outcome <;> rfl

/-- **Running a statement for its rows.** -/
theorem fetchesOn_fetchOn (p : Pool (Tapped σ)) :
    ∃ answer ms s, Pool.fetchOn c sql values p = (answer, p.sentOver c ms s) ∧
      FetchesOn c sql values p.server.server answer ms s := by
  obtain ⟨outcome, ms, s, hrun, hruns⟩ := runsOn_runOn c sql values p
  -- without a row, the server is asked for the columns
  have hdescribed {outcome : Outcome}
      (hruns : RunsOn c sql values p.server.server (.ok outcome) ms s)
      (hnone : outcome.hasRow = false) :
      ∃ answer ms' s', (Pool.onServer (Server.prepare c sql) >>= fun columns : List Column =>
        pure (columns.map Column.name, [])) (p.sentOver c ms s) = (answer, p.sentOver c ms' s') ∧
          FetchesOn c sql values p.server.server answer ms' s' := by
    rcases hprepare : Server.prepare c sql s with ⟨columns, s₂⟩
    have hprepared := Pool.onServer_prepare (p := p.sentOver c ms s) hprepare
    refine ⟨_, _, s₂, ?_, .described hruns hnone hprepare⟩
    rw [Step.bind_pure_apply, hprepared, Pool.sentOver_sentOver]
  unfold Pool.fetchOn
  obtain e | outcome := outcome
  · exact ⟨.error e, ms, s, Step.bind_error hrun _, .failed hruns⟩
  · rw [Step.bind_ok hrun]
    match outcome with
    | .report r => exact hdescribed hruns rfl
    | .rows columns [] => exact hdescribed hruns rfl
    | .rows columns (row :: rows) =>
      exact ⟨_, ms, s, Step.bind_pure_apply (.ofExcept (decodeRows columns (row :: rows))) _ _,
        .decoded hruns⟩

/-! ## The messages -/

variable {c sql values} {s s' : σ} {ms : List Message}

/-- Running a statement sends messages of that statement. -/
theorem RunsOn.isOf {outcome : Except Error Outcome} (h : RunsOn c sql values s outcome ms s') :
    ∀ m ∈ ms, m.IsOf sql := by
  cases h with
  | unbound => exact fun _ hm => absurd hm List.not_mem_nil
  | unprepared =>
    intro m hm
    exact .inl (List.mem_singleton.mp hm)
  | @executed bound =>
    intro m hm
    obtain rfl | hm := List.mem_cons.mp hm
    · exact .inl rfl
    · exact .inr ⟨bound, List.mem_singleton.mp hm⟩

theorem FetchesOn.isOf {answer : Except Error (List String × List (List Value))}
    (h : FetchesOn c sql values s answer ms s') : ∀ m ∈ ms, m.IsOf sql := by
  cases h with
  | failed hruns => exact hruns.isOf
  | decoded hruns => exact hruns.isOf
  | described hruns =>
    intro m hm
    obtain hm | hm := List.mem_append.mp hm
    · exact hruns.isOf m hm
    · exact .inl (List.mem_singleton.mp hm)

end RunsOn

end Rowbind.MySql
