import Rowbind.Proofs.MySql.Transaction

/-!
# The level for the next transaction

A level of isolation is set over a connection, and holds for the next transaction over it. That is
between the server and the connection: a pool does not know of it, and whoever is lent the
connection next cannot see it. A **levelled** server keeps the level of each connection, and of each
message the level that it was heard under and whether it was taken. Everything else it leaves to the
server that it stands for (`Levelled.mimics`).

Only a message that is taken changes the level. Setting one sets it, and a transaction uses it up,
whether started or a statement by itself. So what sends no setting leaves no level where none was
(`Pool.Uneventful`), and that is everything but beginning a transaction.

How beginning a transaction comes out is told once, by what was heard of it (`Pool.Beginning`). It
leaves a level where setting the level is taken and starting is refused: the connection goes back to
the pool with the level set.
-/

namespace Rowbind.MySql

open Step (Follows)

variable {σ α : Type}

/-! ## Messages that have to do with levels -/

namespace Pool

/-- What is sent to set a level, unless it is the server's own. -/
def setting? (i : Isolation) : Option String :=
  i.sql?.map ("SET TRANSACTION ISOLATION LEVEL " ++ ·)

/-- What is sent to start a transaction. -/
def starting (readOnly : Bool) : String :=
  if readOnly then "START TRANSACTION READ ONLY" else "START TRANSACTION"

/-- A transaction is begun by setting its level, if it has one, and starting. -/
theorem openings_eq (o : TransactionOptions) :
    openings o = (setting? o.isolation).toList ++ [starting o.readOnly] := by
  unfold openings setting? starting
  cases o.isolation.sql? with
  | none => rfl
  | some level => rfl

theorem setting?_eq_none {i : Isolation} (h : setting? i = none) : i = .serverDefault := by
  cases i with
  | serverDefault => rfl
  | _ => cases h

end Pool

namespace Message

/-- **The level that a message sets.** What a statement of a user's own sets is not looked into. -/
def level? : Message → Option Isolation
  | command sql =>
    [Isolation.readUncommitted, .readCommitted, .repeatableRead, .serializable].find? fun i =>
      Pool.setting? i == some sql
  | _ => none

/-- **Whether a message makes a transaction**: it starts one, or runs a statement, which where no
transaction is started is one by itself. -/
def transacts : Message → Bool
  | command sql => sql == Pool.starting false || sql == Pool.starting true
  | execute .. => true
  | _ => false

/-- **The level for the next transaction** when a message is taken. -/
def levelAfter (m : Message) (before : Isolation) : Isolation :=
  m.level?.getD (if m.transacts then .serverDefault else before)

theorem level?_setting {i : Isolation} {sql : String} (h : Pool.setting? i = some sql) :
    (command sql).level? = some i := by
  cases i <;> cases h <;> decide

theorem level?_starting (readOnly : Bool) : (command (Pool.starting readOnly)).level? = none := by
  cases readOnly <;> decide

theorem transacts_starting (readOnly : Bool) :
    (command (Pool.starting readOnly)).transacts = true := by
  cases readOnly <;> decide

/-- Setting a level is no transaction. -/
theorem transacts_setting {i : Isolation} {sql : String} (h : Pool.setting? i = some sql) :
    (command sql).transacts = false := by
  cases i <;> cases h <;> decide

theorem levelAfter_setting {i : Isolation} {sql : String} (h : Pool.setting? i = some sql)
    (before : Isolation) : (command sql).levelAfter before = i := by
  rw [levelAfter, level?_setting h, Option.getD_some]

theorem levelAfter_starting (readOnly : Bool) (before : Isolation) :
    (command (Pool.starting readOnly)).levelAfter before = .serverDefault := by
  rw [levelAfter, level?_starting, transacts_starting, Option.getD_none, if_pos rfl]

/-- Finishing a transaction sets no level. -/
theorem level?_finishing {u : TransactionUse} {sql : String} (h : u.command? = some sql) :
    (command sql).level? = none := by
  cases u <;> cases h <;> decide

/-- Where no level is set, none is there after a message that sets none. -/
theorem levelAfter_of_level? {m : Message} (h : m.level? = none) :
    m.levelAfter .serverDefault = .serverDefault := by
  rw [levelAfter, h, Option.getD_none, ite_self]

end Message

/-! ## Levelled servers -/

/-- **A message as it was heard**, with the level that was set for the next transaction then. -/
structure Heard where
  on : Connection
  message : Message
  level : Isolation
  taken : Bool

/-- **A server with the level of each connection.** -/
structure Levelled (σ : Type) where
  server : σ
  level : Connection → Isolation := fun _ => .serverDefault
  /-- The messages heard so far, in order. -/
  heard : List Heard := []

namespace Levelled

/-- What a message makes of levels. -/
def note (on : Connection) (m : Message) (taken : Bool) (server : σ) (s : Levelled σ) :
    Levelled σ where
  server := server
  level c := if taken = true ∧ c = on then m.levelAfter (s.level c) else s.level c
  heard := s.heard ++ [⟨on, m, s.level on, taken⟩]

section Note

variable (on c : Connection) (m : Message) (taken : Bool) (server : σ) (s : Levelled σ)

@[simp] theorem server_note : (s.note on m taken server).server = server := rfl

@[simp] theorem level_note : (s.note on m taken server).level c =
    if taken = true ∧ c = on then m.levelAfter (s.level c) else s.level c := rfl

@[simp] theorem heard_note :
    (s.note on m taken server).heard = s.heard ++ [⟨on, m, s.level on, taken⟩] := rfl

end Note

/-- A step of the server for which a message is heard. -/
def hear (on : Connection) (m : Message) (x : Step σ α) : Step (Levelled σ) α := fun s =>
  let (answer, server) := x s.server
  (answer, s.note on m answer.isOk server)

instance [Server σ] : Server (Levelled σ) where
  prepare on sql := hear on (.prepare sql) (Server.prepare on sql)
  execute on sql values := hear on (.execute sql values) (Server.execute on sql values)
  command on sql := hear on (.command sql) (Server.command on sql)
  ping on := hear on .ping (Server.ping on)

theorem follows_hear (on : Connection) (m : Message) (x : Step σ α) :
    Follows id Levelled.server (hear on m x) x := by
  intro s
  unfold hear
  rcases x s.server with ⟨e | a, server⟩
  · rfl
  · rfl

/-- **Keeping levels changes nothing.** -/
theorem mimics [Server σ] : Server.Mimics (Levelled.server : Levelled σ → σ) where
  prepare on sql := follows_hear on (.prepare sql) _
  execute on sql values := follows_hear on (.execute sql values) _
  command on sql := follows_hear on (.command sql) _
  ping on := follows_hear on .ping _

/-- Whether no level is set over any connection. -/
def Unset (s : Levelled σ) : Prop := ∀ c, s.level c = .serverDefault

end Levelled

namespace Pool

/-! ## Where no level is set -/

/-- **Whether nothing came of levels**: where none was set none is set, and nothing was heard under
one. -/
def Uneventful (p p' : Pool (Levelled σ)) : Prop :=
  p.server.Unset → p'.server.Unset ∧ ∃ hs, p'.server.heard = p.server.heard ++ hs ∧
    ∀ h ∈ hs, h.level = .serverDefault

instance : IsPreorder (Pool (Levelled σ)) Uneventful where
  refl _ hunset :=
    ⟨hunset, [], (List.append_nil _).symm, fun _ hh => absurd hh List.not_mem_nil⟩
  trans p p' p'' h h' hunset := by
    obtain ⟨hunset', hs, hheard, hlevel⟩ := h hunset
    obtain ⟨hunset'', hs', hheard', hlevel'⟩ := h' hunset'
    refine ⟨hunset'', hs ++ hs', by rw [hheard', hheard, List.append_assoc], fun m hm => ?_⟩
    exact (List.mem_append.mp hm).elim (hlevel m) (hlevel' m)

/-- What leaves the server alone is uneventful. -/
theorem Uneventful.of_server {p p' : Pool (Levelled σ)} (h : p'.server = p.server) :
    Uneventful p p' := fun hunset =>
  ⟨h ▸ hunset, [], by rw [h, List.append_nil], fun _ hh => absurd hh List.not_mem_nil⟩

theorem onServer_hear {x : Step σ α} {p : Pool (Levelled σ)} {answer : Except Error α} {server : σ}
    (h : x p.server.server = (answer, server)) (c : Connection) (m : Message) :
    onServer (Levelled.hear c m x) p =
      (answer, { p with server := p.server.note c m answer.isOk server }) := by
  simp only [onServer, Step.zoom, Levelled.hear, h]

/-- **A message that sets no level** is uneventful. -/
theorem uneventful_hear {m : Message} (hm : m.level? = none) (c : Connection) (x : Step σ α) :
    Moves Uneventful (onServer (Levelled.hear c m x)) := by
  intro p hunset
  refine ⟨fun d => ?_, [_], rfl, fun h hh => List.mem_singleton.mp hh ▸ hunset c⟩
  show (p.server.note c m _ _).level d = _
  rw [Levelled.level_note, hunset d, Message.levelAfter_of_level? hm, ite_self]

theorem server_acquire (p : Pool σ) : (acquire p).2.server = p.server := by
  obtain ⟨server, idle, detached, opened, _ | _⟩ := p
  · cases idle with
    | nil => rfl
    | cons c idle => rfl
  · rfl

theorem uneventful_withConnection {f : Connection → Step (Pool (Levelled σ)) α}
    (hf : ∀ c, Moves Uneventful (f c)) : Moves Uneventful (withConnection f) := by
  intro p
  have hlent := Uneventful.of_server (server_acquire p)
  unfold withConnection
  rcases hacquire : acquire p with ⟨e | c, lent⟩
  · rwa [hacquire] at hlent
  · rw [hacquire] at hlent
    exact trans_of Uneventful hlent (hf c lent)

section Server

variable [Server σ] (c : Connection) (sql : String) (values : List Value)

theorem uneventful_prepare :
    Moves Uneventful (onServer (Server.prepare c sql) : Step (Pool (Levelled σ)) _) :=
  uneventful_hear rfl c _

theorem uneventful_execute :
    Moves Uneventful (onServer (Server.execute c sql values) : Step (Pool (Levelled σ)) _) :=
  uneventful_hear rfl c _

theorem uneventful_command (h : (Message.command sql).level? = none) :
    Moves Uneventful (onServer (Server.command c sql) : Step (Pool (Levelled σ)) Unit) :=
  uneventful_hear h c _

theorem uneventful_ping :
    Moves Uneventful (onServer (Server.ping c) : Step (Pool (Levelled σ)) Unit) :=
  uneventful_hear rfl c _

theorem uneventful_execOn :
    Moves Uneventful (execOn c sql values : Step (Pool (Levelled σ)) ExecReport) :=
  moves_execOn (uneventful_prepare c sql) (uneventful_execute c sql) values

theorem uneventful_fetchOn :
    Moves Uneventful
      (fetchOn c sql values : Step (Pool (Levelled σ)) (List String × List (List Value))) :=
  moves_fetchOn (uneventful_prepare c sql) (uneventful_execute c sql) values

end Server

/-! ## How beginning comes out -/

/-- **How beginning a transaction comes out**, told by what was heard: what becomes of the levels,
and where one is left, of the connection. -/
inductive Beginning (o : TransactionOptions) (s : Levelled σ) (p' : Pool (Levelled σ)) :
    List Heard → Prop
  /-- No connection was lent. -/
  | unlent (hlevel : ∀ d, p'.server.level d = s.level d) : Beginning o s p' []
  /-- No level was to be set. -/
  | plain {c : Connection} {taken : Bool} (hset : setting? o.isolation = none)
      (hlevel : ∀ d, p'.server.level d =
        if taken = true ∧ d = c then .serverDefault else s.level d) :
      Beginning o s p' [⟨c, .command (starting o.readOnly), s.level c, taken⟩]
  /-- Setting the level was refused. -/
  | refused {c : Connection} {sql : String} (hset : setting? o.isolation = some sql)
      (hlevel : ∀ d, p'.server.level d = s.level d) :
      Beginning o s p' [⟨c, .command sql, s.level c, false⟩]
  /-- The level was set, and used up. -/
  | started {c : Connection} {sql : String} (hset : setting? o.isolation = some sql)
      (hlevel : ∀ d, p'.server.level d = if d = c then .serverDefault else s.level d) :
      Beginning o s p' [⟨c, .command sql, s.level c, true⟩,
        ⟨c, .command (starting o.readOnly), o.isolation, true⟩]
  /-- The level was set, and left behind. -/
  | stranded {c : Connection} {sql : String} (hset : setting? o.isolation = some sql)
      (hlevel : p'.server.level c = o.isolation) (hidle : c ∈ p'.idle) :
      Beginning o s p' [⟨c, .command sql, s.level c, true⟩,
        ⟨c, .command (starting o.readOnly), o.isolation, false⟩]

/-- **A beginning leaves no level where none was**, and starts under its own, or strands it. -/
theorem Beginning.clean_or_strands {o : TransactionOptions} {s : Levelled σ}
    {p' : Pool (Levelled σ)} {hs : List Heard} (h : Beginning o s p' hs) (hunset : s.Unset) :
    (p'.server.Unset ∧ ∀ h ∈ hs, h.message.transacts = true → h.level = o.isolation) ∨
      ∃ c sql before, setting? o.isolation = some sql ∧ hs = [⟨c, .command sql, before, true⟩,
        ⟨c, .command (starting o.readOnly), o.isolation, false⟩] := by
  cases h with
  | unlent hlevel => exact .inl ⟨fun d => (hlevel d).trans (hunset d), nofun⟩
  | @plain c taken hset hlevel =>
    refine .inl ⟨fun d => ?_, fun h hh _ => ?_⟩
    · rw [hlevel d, hunset d, ite_self]
    · rw [List.mem_singleton.mp hh, setting?_eq_none hset]
      exact hunset c
  | @refused c sql hset hlevel =>
    refine .inl ⟨fun d => (hlevel d).trans (hunset d), fun h hh htransacts => ?_⟩
    rw [List.mem_singleton.mp hh, Message.transacts_setting hset] at htransacts
    cases htransacts
  | @started c sql hset hlevel =>
    refine .inl ⟨fun d => ?_, List.forall_mem_cons.mpr ⟨fun htransacts => ?_, fun h hh _ => ?_⟩⟩
    · rw [hlevel d, hunset d, ite_self]
    · rw [Message.transacts_setting hset] at htransacts
      cases htransacts
    · rw [List.mem_singleton.mp hh]
  | stranded hset _ _ => exact .inr ⟨_, _, _, hset, rfl⟩

/-- **A level that is stranded is left**, on a connection that can be lent next. -/
theorem Beginning.left_of_refused {o : TransactionOptions} {s : Levelled σ}
    {p' : Pool (Levelled σ)} {set start : Heard} (h : Beginning o s p' [set, start])
    (hrefused : start.taken = false) :
    ∃ c ∈ p'.idle, p'.server.level c = o.isolation ∧ o.isolation ≠ .serverDefault := by
  cases h with
  | started hset hlevel => cases hrefused
  | stranded hset hlevel hidle =>
    refine ⟨_, hidle, hlevel, fun hdefault => ?_⟩
    rw [hdefault] at hset
    cases hset

section Begin

variable [Server σ]

theorem onServer_command {p : Pool (Levelled σ)} {c : Connection} {sql : String}
    {answer : Except Error Unit} {server : σ}
    (h : Server.command c sql p.server.server = (answer, server)) :
    onServer (Server.command c sql) p =
      (answer, { p with server := p.server.note c (.command sql) answer.isOk server }) :=
  onServer_hear h c (.command sql)

/-- Sending texts goes on as long as they are taken. -/
theorem commandAll_cons (c : Connection) (sql : String) (sqls : List String)
    (p : Pool (Levelled σ)) :
    commandAll c (sql :: sqls) p =
      match Server.command c sql p.server.server with
      | (.ok (), server) =>
        commandAll c sqls { p with server := p.server.note c (.command sql) true server }
      | (.error e, server) =>
        (.error e, { p with server := p.server.note c (.command sql) false server }) := by
  rw [commandAll]
  rcases hanswer : Server.command c sql p.server.server with ⟨e | a, server⟩
  · rw [Step.bind_error (onServer_command hanswer)]
    rfl
  · rw [Step.bind_ok (onServer_command hanswer)]
    rfl

/-- **Beginning a transaction comes out in one of these ways.** -/
theorem begin_spec (o : TransactionOptions) (p : Pool (Levelled σ)) :
    ∃ hs, (begin o p).2.server.heard = p.server.heard ++ hs ∧
      Beginning o p.server (begin o p).2 hs := by
  have hserver := server_acquire p
  unfold begin
  rcases hacquire : acquire p with ⟨e | c, lent⟩
  · rw [hacquire] at hserver
    exact ⟨[], by rw [List.append_nil, hserver], .unlent fun d => by rw [hserver]⟩
  rw [hacquire] at hserver
  replace hserver : lent.server = p.server := hserver
  rw [← hserver, openings_eq]
  cases hset : setting? o.isolation with
  | none =>
    simp only [Option.toList_none, List.nil_append, commandAll_cons]
    rcases Server.command c (starting o.readOnly) lent.server.server with ⟨e | a, server⟩
    · refine ⟨_, rfl, .plain hset fun d => ?_⟩
      simp [putBack]
    · refine ⟨_, rfl, .plain hset fun d => ?_⟩
      simp [commandAll, Step.pure_apply, Message.levelAfter_starting]
  | some sql =>
    have hlevel := Message.levelAfter_setting hset
    simp only [Option.toList_some, List.singleton_append, commandAll_cons]
    rcases Server.command c sql lent.server.server with ⟨e | a, server⟩
    · refine ⟨_, rfl, .refused hset fun d => ?_⟩
      simp [putBack]
    simp only [Levelled.server_note]
    rcases Server.command c (starting o.readOnly) server with ⟨e | a, server⟩
    · refine ⟨[⟨c, _, _, true⟩, ⟨c, _, _, false⟩], ?_, .stranded hset ?_ ?_⟩
      · simp [putBack, hlevel]
      · simp [putBack, hlevel]
      · simp [putBack]
    · refine ⟨[⟨c, _, _, true⟩, ⟨c, _, _, true⟩], ?_, .started hset fun d => ?_⟩
      · simp [commandAll, Step.pure_apply, hlevel]
      · by_cases hd : d = c
        · simp [commandAll, Step.pure_apply, Message.levelAfter_starting, hd]
        · simp [commandAll, Step.pure_apply, hd]

end Begin

end Pool

end Rowbind.MySql
