import Rowbind.Driver.Playback
import Rowbind.Proofs.Database.Overheard
import Rowbind.Proofs.StatementCache.Labels

/-!
# Statements that stand for their texts

A cache makes a driver run statements that were prepared earlier, where it would otherwise run their
texts. Whether that is the same is up to the driver, and `Driver.Interchangeable` says what it
takes: preparing succeeds; running a statement does what running its text does, also to states that
differ in nothing but what has been prepared; and closing a statement leaves the statements of other
texts. Rows are handed over when a statement runs, so that closing it cannot change them.

Of a driver like that a lease is on a statement of the text asked for, whether or not texts share
keys (`Database.lease_spec`).
-/

namespace Rowbind

variable {δ ρ τ χ α : Type}

/-- **Whether a step does in one state of a driver what another step does in another**: it is
answered alike, comes to the same, and leaves the statements that can be run. -/
structure Driver.Agree (Same : δ → δ → Prop) (Runs : δ → String → τ → Prop) (x y : Step δ α)
    (p d : δ) : Prop where
  answer : (x p).1 = (y d).1
  same : Same (x p).2 (y d).2
  runs : ∀ sql t, Runs p sql t → Runs (x p).2 sql t

variable [Driver δ ρ τ χ]

/-- **Whether the statements of a driver stand for their texts.** `Same p d` is to say that running
texts shows no difference between the states `p` and `d`, and `Runs p sql t` that `t` is a statement
of the text `sql` that can be run in the state `p`. -/
structure Driver.Interchangeable (Same : δ → δ → Prop) (Runs : δ → String → τ → Prop) : Prop where
  prepare : ∀ {p d}, Same p d → ∀ sql, ∃ t p', Driver.prepare sql p = (.ok t, p') ∧ Same p' d ∧
    Runs p' sql t ∧ ∀ sql' t', Runs p sql' t' → Runs p' sql' t'
  exec : ∀ {p d sql t}, Same p d → Runs p sql t → ∀ values,
    Agree Same Runs (Driver.statementExec t values) (Driver.exec sql values) p d
  query : ∀ {p d sql t}, Same p d → Runs p sql t → ∀ values,
    Agree Same Runs (Driver.statementQuery t values) (Driver.query sql values) p d
  close : ∀ {p d sql t}, Same p d → Runs p sql t →
    Same ((Driver.statementClose t).swallow p) d ∧
      ∀ sql' t', sql' ≠ sql → Runs p sql' t' → Runs ((Driver.statementClose t).swallow p) sql' t'
  dispose : ∀ {p d}, Same p d → ∀ rows, Same (Driver.dispose rows p) (Driver.dispose rows d) ∧
    ∀ sql t, Runs p sql t → Runs (Driver.dispose rows p) sql t

/-- The same state of an overheard driver: the same was heard, too. -/
def Overheard.Same (Same : δ → δ → Prop) (p d : Overheard δ) : Prop :=
  Same p.driver d.driver ∧ p.executed = d.executed

/-- A statement of an overheard driver that can be run: it has its text. -/
def Overheard.Runs (Runs : δ → String → τ → Prop) (p : Overheard δ) (sql : String) (t : Titled τ) :
    Prop :=
  t.sql = sql ∧ Runs p.driver sql t.statement

omit [Driver δ ρ τ χ] in
/-- The same is heard of steps that agree. -/
theorem Driver.Agree.hearing {Same : δ → δ → Prop} {Runs : δ → String → τ → Prop} {x y : Step δ α}
    {p d : Overheard δ} (h : Agree Same Runs x y p.driver d.driver)
    (hheard : p.executed = d.executed) (sql : String) (values : List Value) :
    Agree (Overheard.Same Same) (Overheard.Runs Runs) (Overheard.hearing sql values x)
      (Overheard.hearing sql values y) p d where
  answer := h.answer
  same := ⟨h.same, congrArg (· ++ [(sql, values)]) hheard⟩
  runs := fun sql' t ht => ⟨ht.1, h.runs sql' t.statement ht.2⟩

/-- **An overheard driver's statements stand for their texts** if the driver's do: the same is heard
of a statement and of its text. -/
theorem Overheard.interchangeable {Same : δ → δ → Prop} {Runs : δ → String → τ → Prop}
    (h : Driver.Interchangeable Same Runs) :
    Driver.Interchangeable (Overheard.Same Same) (Overheard.Runs Runs) where
  prepare := by
    rintro p d ⟨hsame, hheard⟩ sql
    obtain ⟨t, p', hprepare, hsame', hruns, hkept⟩ := h.prepare hsame sql
    refine ⟨⟨sql, t⟩, { p with driver := p' }, ?_, ⟨hsame', hheard⟩, ⟨rfl, hruns⟩,
      fun sql' t' ht' => ⟨ht'.1, hkept sql' t'.statement ht'.2⟩⟩
    show Overheard.prepare sql p = _
    unfold Overheard.prepare
    rw [hprepare]
    rfl
  exec := by
    rintro p d sql t ⟨hsame, hheard⟩ ⟨rfl, hruns⟩ values
    exact (h.exec hsame hruns values).hearing hheard t.sql values
  query := by
    rintro p d sql t ⟨hsame, hheard⟩ ⟨rfl, hruns⟩ values
    exact (h.query hsame hruns values).hearing hheard t.sql values
  close := by
    rintro p d sql t ⟨hsame, hheard⟩ ⟨rfl, hruns⟩
    obtain ⟨hsame', hkept⟩ := h.close hsame hruns
    exact ⟨⟨hsame', hheard⟩,
      fun sql' t' hne ht' => ⟨ht'.1, hkept sql' t'.statement hne ht'.2⟩⟩
  dispose := by
    rintro p d ⟨hsame, hheard⟩ rows
    obtain ⟨hsame', hkept⟩ := h.dispose hsame rows
    exact ⟨⟨hsame', hheard⟩, fun sql t ht => ⟨ht.1, hkept sql t.statement ht.2⟩⟩

section Lease

variable {Same : δ → δ → Prop} {Runs : δ → String → τ → Prop}
  (h : Driver.Interchangeable Same Runs)
include h

/-- **What a request has come to when it has begun**: nothing but the statement that it discards was
closed, and the statements left suit their texts. -/
theorem Driver.Interchangeable.start {c : StatementCache τ} {p d : δ} (hsame : Same p d)
    (hidle : c.Idle) (hsuited : c.Suited (Runs p)) (sql : String) :
    ∃ p', CacheSession.start (fun t => Driver.statementClose t) sql ⟨c, p⟩ =
        ((c.checkOut sql).1, ⟨c.begun sql, p'⟩) ∧
      Same p' d ∧ (c.begun sql).Suited (Runs p') := by
  refine ⟨(c.checkOut sql).2.takeRetired.1.foldl
    (fun p t => (Driver.statementClose t).swallow p) p, rfl, ?_⟩
  rw [StatementCache.taken_checkOut hidle sql]
  cases hout : (c.discarded? sql).bind c.statement? with
  | none => exact ⟨hsame, hsuited.begun hidle.sound sql⟩
  | some t =>
    obtain ⟨m, hm, hstatement⟩ := Option.bind_eq_some_iff.mp hout
    obtain ⟨e, he, ht⟩ := Option.bind_eq_some_iff.mp hstatement
    have hruns : Runs p e.sql t :=
      hsuited m e.sql t ((StatementCache.label?_of_entry he).trans (by rw [ht]))
    obtain ⟨hsame', hkept⟩ := h.close hsame hruns
    exact ⟨hsame', (hsuited.begun_apart hidle hm he).imp
      fun text t' ht' => hkept text t' ht'.1 ht'.2⟩

/-- **A lease is on a statement of the text asked for**, and comes to the same as no lease. -/
theorem Database.lease_spec {c : StatementCache τ} {db : Database δ τ} {d : δ}
    (hsame : Same db.driver d) (hidle : c.Idle) (hsuited : c.Suited (Runs db.driver))
    (sql : String) :
    ∃ l c' p', lease c sql db = (.ok l, { db with driver := p', cache := some c' }) ∧
      Same p' d ∧ StatementCache.UsedOnce l.entry c' ∧ c'.Suited (Runs p') ∧
      Runs p' sql l.statement := by
  obtain ⟨p₁, hstart, hsame₁, hsuited₁⟩ := h.start hsame hidle hsuited sql
  have hstatement := StatementCache.statement?_begun hidle.sound sql
  have hlabel := (StatementCache.label?_begun hidle.sound sql).1
  have hused : StatementCache.UsedOnce (c.checkOut sql).1 (c.begun sql) :=
    StatementCache.usedOnce_start hidle sql
  unfold lease CacheSession.request
  simp only [hstart, hstatement]
  cases hready : c.ready? sql with
  | some t =>
    exact ⟨⟨_, t⟩, _, _, rfl, hsame₁, hused, hsuited₁, hsuited₁ _ sql t (hready ▸ hlabel)⟩
  | none =>
    obtain ⟨t, p', hprepare, hsame', hruns, hkept⟩ := h.prepare hsame₁ sql
    simp only [Step.zoom, hprepare, CacheSession.finish]
    exact ⟨⟨_, t⟩, _, _, rfl, hsame', hused.fulfil t,
      (hsuited₁.imp hkept).fulfil hlabel hruns, hruns⟩

end Lease

namespace Playback

/-- A playback takes the next report, whatever is noted. -/
theorem report_eq (e : PlaybackEvent) (p : Playback) : report e p =
    (p.reports.headD (.ok ⟨1, 0⟩), { p.note e with reports := p.reports.tail }) := by
  obtain ⟨name, reports, results, faults, log⟩ := p
  cases reports <;> rfl

/-- A playback takes the next rows, whatever is noted. -/
theorem result_eq (e : PlaybackEvent) (p : Playback) : result e p =
    (p.results.headD (.ok { rows := { columns := [], rows := [] }, faults := {} }),
      { p.note e with results := p.results.tail }) := by
  obtain ⟨name, reports, results, faults, log⟩ := p
  cases results <;> rfl

/-- **The statements of a playback stand for their texts**, once no preparation is to fail. -/
theorem interchangeable :
    Driver.Interchangeable (δ := Playback)
      (fun p d => p.reports = d.reports ∧ p.results = d.results ∧ p.faults.preparations = 0)
      (fun _ sql t => t.sql = sql) where
  prepare := by
    rintro p d ⟨hreports, hresults, hfaults⟩ sql
    refine ⟨⟨sql⟩, p.note (.prepare sql), ?_, ⟨hreports, hresults, hfaults⟩, rfl,
      fun _ _ => id⟩
    show Playback.prepare sql p = _
    have hnoted : (p.note (.prepare sql)).faults.preparations = 0 := hfaults
    unfold Playback.prepare
    simp only [hnoted]
  exec := by
    rintro p d sql t ⟨hreports, hresults, hfaults⟩ rfl values
    show Driver.Agree _ _ (report (.statementExec t.sql values)) (report (.exec t.sql values)) p d
    refine ⟨?_, ?_, fun _ _ => id⟩
    · rw [report_eq, report_eq, hreports]
    · rw [report_eq, report_eq]
      exact ⟨congrArg List.tail hreports, hresults, hfaults⟩
  query := by
    rintro p d sql t ⟨hreports, hresults, hfaults⟩ rfl values
    show Driver.Agree _ _ (result (.statementQuery t.sql values)) (result (.query t.sql values)) p d
    refine ⟨?_, ?_, fun _ _ => id⟩
    · rw [result_eq, result_eq, hresults]
    · rw [result_eq, result_eq]
      exact ⟨hreports, congrArg List.tail hresults, hfaults⟩
  close := fun hsame _ => ⟨hsame, fun _ _ _ => id⟩
  dispose := fun hsame _ => ⟨hsame, fun _ _ => id⟩

end Playback

end Rowbind
