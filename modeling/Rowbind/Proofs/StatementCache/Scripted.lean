import Mathlib.Logic.Relation
import Rowbind.Proofs.StatementCache.Closing

/-!
# Scripts are runs of a desk

A script makes its requests one inside the other: while the statement of one is being prepared, the
steps of another script run. So a script is a run of a desk (`CacheUse.runAll_mirrored`), in which a
preparation begins, the steps inside it happen, and it succeeds or fails. What holds of every desk
therefore holds of what a script's answers have in their logs (`CacheUse.script_closing`).

A script must not ask for a text while that text's statement is being prepared (`CacheUse.Apart`): a
request would wait for itself.

A script's world keeps only the log since the last answer, and its leases under names. A desk keeps
all of the log, and its leases without names. `Desk.Mirrors` is how the two go together.
-/

namespace Rowbind

/-! ## Answers and texts -/

mutual

/-- What was written into the log for an answer, from the answer before it on. -/
def CacheAnswer.events : CacheAnswer → List CacheEvent
  | .mk _ log _ during => eventsDuring during ++ log

/-- What was written while a statement was being prepared. -/
def CacheAnswer.eventsDuring : Option (List CacheAnswer) → List CacheEvent
  | none => []
  | some answers => eventsAll answers

/-- **What was written into the log for answers**, in order. -/
def CacheAnswer.eventsAll : List CacheAnswer → List CacheEvent
  | [] => []
  | a :: answers => events a ++ eventsAll answers

end

mutual

/-- Whether a step asks for no text that is being prepared. -/
def CacheUse.Apart (preparing : List String) : CacheUse → Prop
  | .request sql _ _ _ during => sql ∉ preparing ∧ AllApart (sql :: preparing) during
  | .inspect _ | .release _ | .clear => True

/-- **Whether a script asks for no text that is being prepared.** -/
def CacheUse.AllApart (preparing : List String) : List CacheUse → Prop
  | [] => True
  | u :: us => u.Apart preparing ∧ AllApart preparing us

end

namespace Desk

/-- The serial numbers of the statements prepared, in order. -/
def preparedSerials (log : List CacheEvent) : List Nat :=
  log.filterMap fun
    | .prepared serial _ => some serial
    | .closed _ => none

/-- A run of a desk. -/
abbrev Runs : Desk → Desk → Prop := Relation.ReflTransGen Step

/-- A desk that a reachable one comes to is reachable. -/
theorem Reachable.runs {capacity : Nat} {keyOf : String → UInt64} {D D' : Desk}
    (h : Reachable capacity keyOf D) (hruns : Runs D D') : Reachable capacity keyOf D' := by
  induction hruns with
  | refl => exact h
  | tail _ hstep ih => exact ih.step hstep

/-! ## Sessions with more of the log -/

/-- A session with all of the log, and without names. -/
def unroll (past : List CacheEvent) (s : ScriptSession) : ScriptSession :=
  ⟨s.cache, { serials := s.world.serials, log := past ++ s.world.log }⟩

variable (past : List CacheEvent) (s : ScriptSession)

theorem closeRetired_unroll :
    (unroll past s).closeRetired ScriptWorld.close =
      unroll past (s.closeRetired ScriptWorld.close) := by
  unfold CacheSession.closeRetired unroll
  simp [closeAll_eq]

theorem start_unroll (sql : String) :
    (unroll past s).start ScriptWorld.close sql =
      ((s.start ScriptWorld.close sql).1, unroll past (s.start ScriptWorld.close sql).2) :=
  congrArg (Prod.mk _) (closeRetired_unroll past ⟨(s.cache.checkOut sql).2, s.world⟩)

theorem clear_unroll :
    (unroll past s).clear ScriptWorld.close = unroll past (s.clear ScriptWorld.close) :=
  closeRetired_unroll past ⟨s.cache.evictAll, s.world⟩

/-! ## Mirrors -/

/-- **Whether a desk stands for a session of a script**, after so much of the log. -/
structure Mirrors (D : Desk) (past : List CacheEvent) (s : ScriptSession) : Prop where
  session : D.session = unroll past s
  leases : D.leases.Perm (s.world.leases.map Prod.snd)
  names : (s.world.leases.map Prod.fst).Nodup
  delivered : (preparedSerials D.log).Perm (D.delivered.map ScriptedStatement.serial)

/-- **Whether a desk comes to stand for a session**, with the same preparations running. -/
def Comes (D : Desk) (past : List CacheEvent) (s : ScriptSession) : Prop :=
  ∃ D', Runs D D' ∧ D'.preparing = D.preparing ∧ Mirrors D' past s

/-- A desk that comes to one that comes to stand for a session does so itself. -/
theorem Comes.after {D D₁ : Desk} {past : List CacheEvent} {s : ScriptSession} (hruns : Runs D D₁)
    (hpreparing : D₁.preparing = D.preparing) (h : Comes D₁ past s) : Comes D past s := by
  obtain ⟨D', hruns', hpreparing', hmirrors⟩ := h
  exact ⟨D', hruns.trans hruns', hpreparing'.trans hpreparing, hmirrors⟩

section Mirrors

variable {D : Desk} {past : List CacheEvent} {s : ScriptSession}

/-- An answer takes what it finds in the log. -/
theorem Mirrors.answer (h : Mirrors D past s) (finding : Except Error CacheFinding)
    (during : Option (List CacheAnswer)) :
    Mirrors D (past ++ s.world.log) (CacheUse.answer finding during s).2 where
  session := by
    rw [h.session]
    simp [unroll, CacheUse.answer]
  leases := h.leases
  names := h.names
  delivered := h.delivered

/-- An answer after which a desk stands for the session. -/
theorem Comes.answer (h : Comes D past s) (finding : Except Error CacheFinding)
    (during : Option (List CacheAnswer)) :
    Comes D (past ++ s.world.log) (CacheUse.answer finding during s).2 := by
  obtain ⟨D', hruns, hpreparing, hmirrors⟩ := h
  exact ⟨D', hruns, hpreparing, hmirrors.answer finding during⟩

/-- A lease is given back, the others being those kept under names. -/
theorem comes_giveBack {l : Lease ScriptedStatement} (hsession : D.session = unroll past s)
    (hleases : D.leases.Perm (l :: s.world.leases.map Prod.snd))
    (hnames : (s.world.leases.map Prod.fst).Nodup)
    (hdelivered : (preparedSerials D.log).Perm (D.delivered.map ScriptedStatement.serial)) :
    Comes D past (s.giveBack l) := by
  obtain ⟨before, after, hsplit⟩ := List.append_of_mem (hleases.mem_iff.mpr List.mem_cons_self)
  refine ⟨_, .single (.giveBack hsplit), rfl, ?_, ?_, hnames, hdelivered⟩
  · show D.session.giveBack l = unroll past (s.giveBack l)
    rw [hsession]
    rfl
  · rw [hsplit] at hleases
    exact (List.perm_middle.symm.trans hleases).cons_inv

/-- A lease kept under a name is given back. -/
theorem Mirrors.giveBackKept (h : Mirrors D past s) (hold : String) :
    Comes D past (CacheUse.giveBackKept hold s).2 := by
  unfold CacheUse.giveBackKept
  cases hl : s.world.lease? hold with
  | none => exact ⟨D, .refl, rfl, h⟩
  | some l =>
    let t : ScriptSession := { s with world := s.world.forget hold }
    have hperm := (cons_filter_perm h.names (mem_of_lookup hl)).map Prod.snd
    have hnames : (t.world.leases.map Prod.fst).Nodup :=
      h.names.sublist (List.filter_sublist.map Prod.fst)
    exact comes_giveBack (s := t) h.session (h.leases.trans hperm.symm) hnames h.delivered

/-- A new lease is kept under a name, or given back at once. -/
theorem comes_settle {l : Lease ScriptedStatement} (hsession : D.session = unroll past s)
    (hleases : D.leases.Perm (l :: s.world.leases.map Prod.snd))
    (hnames : (s.world.leases.map Prod.fst).Nodup)
    (hdelivered : (preparedSerials D.log).Perm (D.delivered.map ScriptedStatement.serial))
    (hold : Option String) : Comes D past (CacheUse.settle hold l s) := by
  cases hold with
  | none => exact comes_giveBack hsession hleases hnames hdelivered
  | some name =>
    let t : ScriptSession := { s with world := s.world.keep name l }
    have hkept : (t.world.leases.map Prod.fst).Nodup := by
      refine List.nodup_cons.mpr ⟨?_, hnames.sublist (List.filter_sublist.map Prod.fst)⟩
      intro hmem
      obtain ⟨p, hp, hname⟩ := List.mem_map.mp hmem
      exact absurd hname (of_decide_eq_true (List.mem_filter.mp hp).2)
    have hsettle : CacheUse.settle (some name) l s = (s.world.lease? name).elim t t.giveBack := rfl
    rw [hsettle]
    cases hearlier : s.world.lease? name with
    | none =>
      -- nothing was kept under the name, so nothing is forgotten
      have hforget : s.world.leases.filter (·.1 ≠ name) = s.world.leases := by
        rw [List.filter_eq_self]
        intro p hp
        rw [decide_eq_true_iff]
        intro hname
        exact not_mem_of_lookup hearlier (List.mem_map.mpr ⟨p, hp, hname⟩)
      refine ⟨D, .refl, rfl, hsession, ?_, hkept, hdelivered⟩
      show D.leases.Perm (l :: (s.world.leases.filter (·.1 ≠ name)).map Prod.snd)
      rw [hforget]
      exact hleases
    | some earlier =>
      have hperm := (cons_filter_perm hnames (mem_of_lookup hearlier)).map Prod.snd
      refine comes_giveBack (s := t) hsession ?_ hkept hdelivered
      exact hleases.trans ((hperm.symm.cons l).trans (List.Perm.swap _ _ _))

/-- Closing what has retired writes no preparation into the log. -/
theorem preparedSerials_closeAll (ts : List ScriptedStatement) (w : ScriptWorld) :
    preparedSerials (ts.foldl (fun w t => (ScriptWorld.close t).swallow w) w).log =
      preparedSerials w.log := by
  rw [closeAll_eq]
  simp [preparedSerials]

/-- What has retired is closed, after a move of the cache. -/
theorem Mirrors.closeRetired (h : Mirrors D past s) (c : StatementCache ScriptedStatement) :
    Mirrors
      { D with session := unroll past (CacheSession.closeRetired ScriptWorld.close ⟨c, s.world⟩) }
      past (CacheSession.closeRetired ScriptWorld.close ⟨c, s.world⟩) := by
  have hworld : (CacheSession.closeRetired ScriptWorld.close ⟨c, s.world⟩).world = _ :=
    closeAll_eq c.takeRetired.1 s.world
  refine ⟨rfl, ?_, ?_, ?_⟩
  · rw [hworld]
    exact h.leases
  · rw [hworld]
    exact h.names
  · rw [← closeRetired_unroll]
    let closed := (unroll past ⟨c, s.world⟩).closeRetired ScriptWorld.close
    have hlog : preparedSerials closed.world.log = preparedSerials (past ++ s.world.log) :=
      preparedSerials_closeAll _ _
    have hdelivered := h.delivered
    rw [log, h.session] at hdelivered
    show (preparedSerials closed.world.log).Perm _
    rw [hlog]
    exact hdelivered

/-- The cache is cleared. -/
theorem Mirrors.clear (h : Mirrors D past s) : Comes D past (s.clear ScriptWorld.close) := by
  refine ⟨_, .single .clear, rfl, ?_⟩
  rw [h.session, clear_unroll]
  exact h.closeRetired s.cache.evictAll

/-! A request begins, and finds its statement or does not. -/

variable {sql : String} {n : Nat} {t : ScriptSession}
  (hstart : s.start ScriptWorld.close sql = (n, t))
include hstart

theorem Mirrors.start (h : Mirrors D past s) :
    D.session.start ScriptWorld.close sql = (n, unroll past t) ∧
      Mirrors { D with session := unroll past t } past t := by
  constructor
  · rw [h.session, start_unroll, hstart]
  · obtain ⟨rfl, rfl⟩ := Prod.mk.inj hstart
    exact h.closeRetired _

theorem Mirrors.found (h : Mirrors D past s) (hfree : D.Free sql) {st : ScriptedStatement}
    (hst : t.cache.statement? n = some st) (hold : Option String) :
    Comes D past (CacheUse.settle hold ⟨n, st⟩ t) := by
  obtain ⟨hsession, hmirrors⟩ := h.start hstart
  let leased : Desk := { D with session := unroll past t, leases := ⟨n, st⟩ :: D.leases }
  have hcomes := comes_settle (D := leased) (l := ⟨n, st⟩) rfl (hmirrors.leases.cons _)
    hmirrors.names hmirrors.delivered hold
  exact hcomes.after (.single (.found hfree hsession hst)) rfl

omit hstart

/-- A preparation fails. -/
theorem Mirrors.fail {rest : List Preparation} (h : Mirrors D past s)
    (hpreparing : D.preparing = ⟨n, sql, none⟩ :: rest) (e : Error) :
    ∃ D', Runs D D' ∧ D'.preparing = rest ∧
      Mirrors D' past { s with cache := s.cache.release n } := by
  have hfail : Step D _ := @Step.fail D [] rest _ e _ hpreparing rfl
  refine ⟨_, .single hfail, rfl, ?_, h.leases, h.names, h.delivered⟩
  show CacheSession.mk (D.session.cache.release n) D.session.world = _
  rw [h.session]
  rfl

/-- A preparation succeeds, and its request ends with a lease. -/
theorem Mirrors.deliver {rest : List Preparation} (h : Mirrors D past s)
    (hpreparing : D.preparing = ⟨n, sql, none⟩ :: rest) (failsToClose : Bool)
    (hold : Option String) :
    let st : ScriptedStatement := ⟨s.world.serials + 1, sql, failsToClose⟩
    let w : ScriptWorld := { s.world with
      serials := st.serial, log := s.world.log ++ [.prepared st.serial sql] }
    ∃ D', Runs D D' ∧ D'.preparing = rest ∧
      Mirrors D' past (CacheUse.settle hold ⟨n, st⟩ ⟨s.cache.fulfil n st, w⟩) := by
  intro st w
  let D₁ : Desk := { D with
    session := unroll past ⟨s.cache, w⟩, preparing := ⟨n, sql, some st⟩ :: rest }
  let D₂ : Desk := {
    session := unroll past ⟨s.cache.fulfil n st, w⟩, preparing := rest,
    leases := ⟨n, st⟩ :: D.leases, delivered := st :: D.delivered }
  have hworld : ScriptWorld.prepare sql false failsToClose D.session.world =
      (.ok st, (unroll past ⟨s.cache, w⟩).world) := by
    rw [h.session]
    simp [ScriptWorld.prepare, unroll, w, st]
  have hprepared : Step D D₁ := by
    have hstep := @Step.prepare D [] rest ⟨n, sql, none⟩ failsToClose st _ hpreparing rfl hworld
    rw [h.session] at hstep
    exact hstep
  have hdelivered : Step D₁ D₂ := @Step.deliver D₁ [] rest ⟨n, sql, some st⟩ st _ _ rfl rfl rfl
  have hserials : (preparedSerials D₂.log).Perm (D₂.delivered.map ScriptedStatement.serial) := by
    have hlog : D₂.log = D.log ++ [.prepared st.serial sql] := by
      show past ++ (s.world.log ++ _) = D.session.world.log ++ _
      rw [h.session]
      exact (List.append_assoc past s.world.log _).symm
    rw [hlog, preparedSerials, List.filterMap_append]
    exact (List.perm_append_singleton _ _).trans (h.delivered.cons _)
  obtain ⟨D', hruns, hrest, hmirrors⟩ := comes_settle (D := D₂) (s := ⟨s.cache.fulfil n st, w⟩)
    (l := ⟨n, st⟩) rfl (h.leases.cons _) h.names hserials hold
  exact ⟨D', .head hprepared (.head hdelivered hruns), hrest, hmirrors⟩

end Mirrors

end Desk

/-! ## Requests of a script -/

namespace CacheUse

theorem closeAll_beside (ts : List ScriptedStatement) (w : ScriptWorld)
    (during : Option (List CacheAnswer)) :
    ts.foldl (fun p t => (closeBeside t).swallow p) (w, during) =
      (ts.foldl (fun w t => (ScriptWorld.close t).swallow w) w, during) := by
  induction ts generalizing w with
  | nil => rfl
  | cons t ts ih => exact ih _

theorem start_beside (sql : String) (s : ScriptSession) (during : Option (List CacheAnswer)) :
    CacheSession.start closeBeside sql ⟨s.cache, (s.world, during)⟩ =
      ((s.start ScriptWorld.close sql).1,
        ⟨(s.start ScriptWorld.close sql).2.cache,
          ((s.start ScriptWorld.close sql).2.world, during)⟩) := by
  unfold CacheSession.start CacheSession.closeRetired
  simp only [closeAll_beside]

/-- **A request of a script**, in the order of what happens. -/
theorem run_request (sql : String) (hold : Option String) (fails failsToClose : Bool)
    (during : List CacheUse) (s : ScriptSession) {n : Nat} {t : ScriptSession}
    (hstart : s.start ScriptWorld.close sql = (n, t)) :
    run (.request sql hold fails failsToClose during) s =
      match t.cache.statement? n with
      | some st => answer (.ok (.leased st.serial st.sql)) none (settle hold ⟨n, st⟩ t)
      | none =>
        match CacheSession.finish n ((ScriptWorld.prepare sql fails failsToClose).zoom
            CacheSession.world (fun w s => { s with world := w }) (runAll during t).2) with
        | (.ok l, u) => answer (.ok (.leased l.statement.serial l.statement.sql))
            (some (runAll during t).1) (settle hold l u)
        | (.error e, u) => answer (.error e) (some (runAll during t).1) u := by
  have hbeside := start_beside sql s none
  rw [hstart] at hbeside
  simp only [run, CacheSession.request, hbeside]
  cases hst : t.cache.statement? n with
  | some st => rfl
  | none =>
    simp only [Step.zoom]
    rcases ScriptWorld.prepare sql fails failsToClose (runAll during t).2.world with ⟨e | st, w⟩
    · rfl
    · rfl

open Desk (Comes Mirrors unroll)

mutual

/-- **A step of a script is a run of a desk.** The induction follows the script. -/
theorem run_mirrored (u : CacheUse) {D : Desk} {past : List CacheEvent} {s : ScriptSession}
    (h : Mirrors D past s) (hapart : u.Apart (D.preparing.map Preparation.sql)) :
    Comes D (past ++ (u.run s).1.events) (u.run s).2 := by
  cases u with
  | inspect hold => exact Comes.answer ⟨D, .refl, rfl, h⟩ _ none
  | release hold => exact (h.giveBackKept hold).answer _ none
  | clear => exact h.clear.answer _ none
  | request sql hold fails failsToClose during =>
    obtain ⟨hnot, hduring⟩ := hapart
    have hfree : D.Free sql := fun p hp hsame =>
      hnot (List.mem_map.mpr ⟨p, hp, hsame⟩)
    rcases hstart : s.start ScriptWorld.close sql with ⟨n, t⟩
    rw [run_request sql hold fails failsToClose during s hstart]
    cases hst : t.cache.statement? n with
    | some st => exact (h.found hstart hfree hst hold).answer _ none
    | none =>
      obtain ⟨hsession, hstarted⟩ := h.start hstart
      let D₁ : Desk := { D with
        session := unroll past t, preparing := ⟨n, sql, none⟩ :: D.preparing }
      have hbegin : Desk.Step D D₁ := .begin hfree hsession hst
      have hmirrors : Mirrors D₁ past t :=
        ⟨rfl, hstarted.leases, hstarted.names, hstarted.delivered⟩
      obtain ⟨D₂, hruns, hpreparing, hmirrors⟩ := runAll_mirrored during hmirrors hduring
      have hruns := Relation.ReflTransGen.head hbegin hruns
      cases fails with
      | true =>
        obtain ⟨D', hruns', hrest, hmirrors'⟩ :=
          hmirrors.fail hpreparing (.driver "prepare failed")
        have hcomes : Comes D _ _ := ⟨D', hruns.trans hruns', hrest, hmirrors'⟩
        have hanswer := hcomes.answer (.error (.driver "prepare failed"))
          (some (runAll during t).1)
        rw [List.append_assoc] at hanswer
        exact hanswer
      | false =>
        obtain ⟨D', hruns', hrest, hmirrors'⟩ := hmirrors.deliver hpreparing failsToClose hold
        have hcomes : Comes D _ _ := ⟨D', hruns.trans hruns', hrest, hmirrors'⟩
        have hanswer := hcomes.answer
          (.ok (.leased ((runAll during t).2.world.serials + 1) sql)) (some (runAll during t).1)
        rw [List.append_assoc] at hanswer
        exact hanswer

/-- **A script is a run of a desk.** -/
theorem runAll_mirrored (us : List CacheUse) {D : Desk} {past : List CacheEvent}
    {s : ScriptSession} (h : Mirrors D past s)
    (hapart : AllApart (D.preparing.map Preparation.sql) us) :
    Comes D (past ++ CacheAnswer.eventsAll (runAll us s).1) (runAll us s).2 := by
  cases us with
  | nil =>
    show Comes D (past ++ []) s
    rw [List.append_nil]
    exact ⟨D, .refl, rfl, h⟩
  | cons u us =>
    obtain ⟨D₁, hruns, hpreparing, hmirrors⟩ := run_mirrored u h hapart.1
    have hrest := runAll_mirrored us hmirrors (hpreparing ▸ hapart.2)
    have hcomes := hrest.after hruns hpreparing
    rw [List.append_assoc] at hcomes
    exact hcomes

end

/-- **When statements are closed in a script.** Of everything that a script writes into the log: no
statement that a lease is kept on is closed, no statement is closed twice, no more entries are held
than there is room for, and once no lease is kept, clearing leaves exactly the statements prepared
closed. -/
theorem script_closing {capacity : Nat} {keyOf : String → UInt64}
    {c : StatementCache ScriptedStatement} (hnew : StatementCache.new? capacity keyOf = some c)
    (us : List CacheUse) (hapart : AllApart [] us) :
    let s := (runAll us ⟨c, {}⟩).2
    let events := CacheAnswer.eventsAll (runAll us ⟨c, {}⟩).1
    (∀ p ∈ s.world.leases, p.2.statement.serial ∉ Desk.closedSerials (events ++ s.world.log)) ∧
      (Desk.closedSerials (events ++ s.world.log)).Nodup ∧
      s.cache.size ≤ capacity ∧
      (s.world.leases = [] →
        (Desk.closedSerials (events ++ (s.clear ScriptWorld.close).world.log)).Perm
          (Desk.preparedSerials (events ++ s.world.log))) := by
  intro s events
  have hstart : Mirrors { session := ⟨c, {}⟩ } [] ⟨c, {}⟩ :=
    ⟨rfl, .refl _, List.nodup_nil, .refl _⟩
  obtain ⟨D, hruns, -, hmirrors⟩ := runAll_mirrored us hstart hapart
  have hinv := Desk.inv_reachable ((Desk.Reachable.new hnew).runs hruns)
  have hsession : D.session = unroll events s := hmirrors.session
  have hlog : D.log = events ++ s.world.log := congrArg (fun t => t.world.log) hsession
  have hdelivered := hmirrors.delivered
  rw [hlog] at hdelivered
  refine ⟨?_, ?_, ?_, ?_⟩
  · intro p hp
    rw [← hlog]
    exact hinv.not_closed_of_lease (hmirrors.leases.mem_iff.mpr (List.mem_map_of_mem hp))
  · rw [← hlog]
    exact (List.nodup_append.mp hinv.nodup_account).1
  · have hroom := hinv.sound.placed.room
    rw [hinv.capacity_eq, Desk.cache, hsession] at hroom
    exact hroom
  · intro hnone
    have hleases : D.leases = [] := by
      have hperm := hmirrors.leases
      rw [show (runAll us ⟨c, {}⟩).2.world.leases = [] from hnone] at hperm
      exact hperm.eq_nil
    have haccount := hinv.account_clear hleases
    rw [hsession, Desk.clear_unroll] at haccount
    exact haccount.trans hdelivered.symm

end CacheUse

end Rowbind
