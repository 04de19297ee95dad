import Mathlib.Data.List.Induction
import Rowbind.Proofs.StatementCache.Labels
import Rowbind.Proofs.StatementCache.Scripted

/-!
# Completed requests

A step of a script is **completed** if nothing runs while a statement is being prepared. A completed
request finds a statement, or prepares one, or prepares one in vain (`CacheUse.ends_request`); the
steps between requests only give leases back, or clear the cache. So what a script of completed
steps leaves can be followed one step after the other.

Whether or not texts share keys, a lease is on a statement that was prepared for the text asked for
(`CacheUse.leased_for`): every entry's statement was prepared for the entry's text, and a request
uses an entry of its own text.
-/

namespace Rowbind

/-- Whether the preparation of a statement was run for an answer. -/
def CacheAnswer.prepares : CacheAnswer → Bool
  | .mk _ _ _ during => during.isSome

namespace CacheUse

open StatementCache

/-- **Whether a step is completed**: nothing runs while a statement is being prepared. -/
def Completed : CacheUse → Prop
  | request _ _ _ _ during => during = []
  | _ => True

/-- Giving a lease back under a name ends one use at most. -/
theorem eased_giveBackKept (hold : String) (s : ScriptSession) :
    Eased s.cache (giveBackKept hold s).2.cache := by
  unfold giveBackKept
  cases s.world.lease? hold with
  | none => exact .refl
  | some l => exact .inr ⟨l.entry, rfl⟩

/-- Keeping a new lease ends one use at most. -/
theorem eased_settle (hold : Option String) (l : Lease ScriptedStatement) (s : ScriptSession) :
    Eased s.cache (settle hold l s).cache := by
  cases hold with
  | none => exact .inr ⟨l.entry, rfl⟩
  | some name =>
    show Eased s.cache ((s.world.lease? name).elim _ _ : ScriptSession).cache
    cases s.world.lease? name with
    | none => exact .refl
    | some earlier => exact .inr ⟨earlier.entry, rfl⟩

theorem log_settle (hold : Option String) (l : Lease ScriptedStatement) (s : ScriptSession) :
    (settle hold l s).world.log = s.world.log := by
  cases hold with
  | none => rfl
  | some name =>
    show ((s.world.lease? name).elim _ _ : ScriptSession).world.log = _
    cases s.world.lease? name <;> rfl

/-- **How a completed request ends.** -/
inductive Ends (s : ScriptSession) (sql : String) (fails failsToClose : Bool) :
    CacheAnswer × ScriptSession → Prop
  /-- It finds a statement. -/
  | found {st : ScriptedStatement} {log : List CacheEvent} {size : Nat} {t : ScriptSession}
      (hready : s.cache.ready? sql = some st) (hcache : Eased (s.cache.begun sql) t.cache) :
      Ends s sql fails failsToClose (.mk (.ok (.leased st.serial st.sql)) log size none, t)
  /-- It prepares a statement in vain. -/
  | failed {e : Error} {log : List CacheEvent} {size : Nat} {t : ScriptSession}
      (hready : s.cache.ready? sql = none) (hfails : fails = true)
      (hcache : Eased (s.cache.begun sql) t.cache) :
      Ends s sql fails failsToClose (.mk (.error e) log size (some []), t)
  /-- It prepares a statement. -/
  | prepared {serial : Nat} {log : List CacheEvent} {size : Nat} {t : ScriptSession}
      (hready : s.cache.ready? sql = none) (hfails : fails = false)
      (hcache : Eased ((s.cache.begun sql).fulfil (s.cache.checkOut sql).1
        ⟨serial, sql, failsToClose⟩) t.cache) (hlog : .prepared serial sql ∈ log) :
      Ends s sql fails failsToClose (.mk (.ok (.leased serial sql)) log size (some []), t)

/-- **A completed request ends in one of these ways.** -/
theorem ends_request {s : ScriptSession} (hs : s.cache.Sound) (sql : String)
    (hold : Option String) (fails failsToClose : Bool) :
    Ends s sql fails failsToClose (run (.request sql hold fails failsToClose []) s) := by
  have hstart : s.start ScriptWorld.close sql =
      ((s.cache.checkOut sql).1, (s.start ScriptWorld.close sql).2) := rfl
  have hcache : (s.start ScriptWorld.close sql).2.cache = s.cache.begun sql := rfl
  rw [run_request sql hold fails failsToClose [] s hstart]
  generalize (s.start ScriptWorld.close sql).2 = t at hcache
  have hstatement : t.cache.statement? (s.cache.checkOut sql).1 = s.cache.ready? sql := by
    rw [hcache]
    exact statement?_begun hs sql
  rw [hstatement]
  cases hready : s.cache.ready? sql with
  | some st => exact .found hready (hcache ▸ eased_settle hold _ t)
  | none =>
    cases fails with
    | true => exact .failed hready rfl (hcache ▸ .inr ⟨(s.cache.checkOut sql).1, rfl⟩)
    | false =>
      refine .prepared hready rfl (hcache ▸ eased_settle hold _ _) ?_
      rw [log_settle]
      exact List.mem_append_right _ List.mem_cons_self

/-- A completed request prepares where it finds no statement. -/
theorem Ends.prepares_iff {s : ScriptSession} {sql : String} {fails failsToClose : Bool}
    {done : CacheAnswer × ScriptSession} (h : Ends s sql fails failsToClose done) :
    done.1.prepares = true ↔ s.cache.ready? sql = none := by
  cases h with
  | found hready hcache =>
    rw [hready]
    exact ⟨nofun, nofun⟩
  | failed hready hfails hcache => exact ⟨fun _ => hready, fun _ => rfl⟩
  | prepared hready hfails hcache hlog => exact ⟨fun _ => hready, fun _ => rfl⟩

section Step

variable {s : ScriptSession} (hs : s.cache.Sound) {u : CacheUse} (hu : u.Completed)
include hs hu

/-- No completed step changes the capacity or the keys. -/
theorem settings_run : (run u s).2.cache.capacity = s.cache.capacity ∧
    (run u s).2.cache.keyOf = s.cache.keyOf := by
  cases u with
  | inspect hold => exact ⟨rfl, rfl⟩
  | release hold => exact (eased_giveBackKept hold s).settings
  | clear => exact ⟨(evictAll_frame s.cache).2, keyOf_evictAll s.cache⟩
  | request sql hold fails failsToClose during =>
    obtain rfl : during = [] := hu
    have hbegun : (s.cache.begun sql).capacity = s.cache.capacity ∧
        (s.cache.begun sql).keyOf = s.cache.keyOf :=
      ⟨capacity_checkOut s.cache sql, keyOf_checkOut s.cache sql⟩
    have hends := ends_request hs sql hold fails failsToClose
    generalize run (.request sql hold fails failsToClose []) s = done at hends ⊢
    cases hends with
    | found _ hcache | failed _ _ hcache | prepared _ _ hcache _ =>
      exact ⟨hcache.settings.1.trans hbegun.1, hcache.settings.2.trans hbegun.2⟩

/-- **What the statements of a cache suit after a completed step**: what they suited, and what is
prepared for the text of a request. -/
theorem suited_run {suits : String → ScriptedStatement → Prop} (h : s.cache.Suited suits)
    (hprepared : ∀ serial sql failsToClose, .prepared serial sql ∈ (run u s).1.events →
      suits sql ⟨serial, sql, failsToClose⟩) :
    (run u s).2.cache.Suited suits := by
  cases u with
  | inspect hold => exact h
  | release hold => exact h.eased (eased_giveBackKept hold s)
  | clear =>
    have hevicted : s.cache.evictAll.Suited suits := h.of_labels fun n => .inl (label?_evictAll n)
    exact hevicted.of_labels (label?_takeRetired hs.evictAll)
  | request sql hold fails failsToClose during =>
    obtain rfl : during = [] := hu
    have hends := ends_request hs sql hold fails failsToClose
    generalize run (.request sql hold fails failsToClose []) s = done at hends hprepared ⊢
    have hbegun := h.begun hs sql
    cases hends with
    | found hready hcache => exact hbegun.eased hcache
    | failed hready hfails hcache => exact hbegun.eased hcache
    | @prepared serial log size t hready hfails hcache hlog =>
      have hlogged : .prepared serial sql ∈
          (CacheAnswer.mk (.ok (.leased serial sql)) log size (some [])).events :=
        List.mem_append_right _ hlog
      refine Suited.eased ?_ hcache
      exact hbegun.fulfil (label?_begun hs sql).1 (hprepared serial sql failsToClose hlogged)

end Step

/-! ## Runs -/

theorem runAll_append (us vs : List CacheUse) (s : ScriptSession) :
    runAll (us ++ vs) s = ((runAll us s).1 ++ (runAll vs (runAll us s).2).1,
      (runAll vs (runAll us s).2).2) := by
  induction us generalizing s with
  | nil => rfl
  | cons u us ih =>
    show runAll (u :: (us ++ vs)) s = _
    simp only [runAll, ih, List.cons_append]

/-- The session after one more step. -/
theorem runAll_concat (us : List CacheUse) (u : CacheUse) (s : ScriptSession) :
    (runAll (us ++ [u]) s).2 = (run u (runAll us s).2).2 :=
  congrArg Prod.snd (runAll_append us [u] s)

theorem runAll_runAll (us vs : List CacheUse) (s : ScriptSession) :
    (runAll vs (runAll us s).2).2 = (runAll (us ++ vs) s).2 := by
  rw [runAll_append]

theorem allApart_of_completed {us : List CacheUse} (hus : ∀ u ∈ us, u.Completed) :
    AllApart [] us := by
  induction us with
  | nil => trivial
  | cons u us ih =>
    obtain ⟨hu, hus⟩ := List.forall_mem_cons.mp hus
    refine ⟨?_, ih hus⟩
    cases u with
    | request sql hold fails failsToClose during =>
      obtain rfl : during = [] := hu
      exact ⟨List.not_mem_nil, trivial⟩
    | _ => trivial

theorem eventsAll_append (as bs : List CacheAnswer) :
    CacheAnswer.eventsAll (as ++ bs) = CacheAnswer.eventsAll as ++ CacheAnswer.eventsAll bs := by
  induction as with
  | nil => rfl
  | cons a as ih =>
    show a.events ++ CacheAnswer.eventsAll (as ++ bs) = _
    rw [ih, ← List.append_assoc]
    rfl

section Run

variable {capacity : Nat} {keyOf : String → UInt64} {c : StatementCache ScriptedStatement}
  (hnew : StatementCache.new? capacity keyOf = some c) {us : List CacheUse}
  (hus : ∀ u ∈ us, u.Completed)
include hnew hus

/-- The cache of a script is sound after every completed step. -/
theorem sound_runAll : (runAll us ⟨c, {}⟩).2.cache.Sound := by
  have hstart : Desk.Mirrors { session := ⟨c, {}⟩ } [] ⟨c, {}⟩ :=
    ⟨rfl, .refl _, List.nodup_nil, .refl _⟩
  obtain ⟨D, hruns, -, hmirrors⟩ := runAll_mirrored us hstart (allApart_of_completed hus)
  have hsound := (Desk.inv_reachable ((Desk.Reachable.new hnew).runs hruns)).sound
  rwa [Desk.cache, hmirrors.session] at hsound

/-- The capacity and the keys are those of the new cache. -/
theorem settings_runAll : (runAll us ⟨c, {}⟩).2.cache.capacity = capacity ∧
    (runAll us ⟨c, {}⟩).2.cache.keyOf = keyOf := by
  induction us using List.reverseRecOn with
  | nil =>
    unfold new? at hnew
    split at hnew
    · cases hnew
      exact ⟨rfl, rfl⟩
    · cases hnew
  | append_singleton us u ih =>
    have hus' : ∀ u ∈ us, u.Completed := fun u hu => hus u (List.mem_append_left _ hu)
    obtain ⟨hcapacity, hkeyOf⟩ := ih hus'
    obtain ⟨hcapacity', hkeyOf'⟩ := settings_run (sound_runAll hnew hus')
      (hus u (List.mem_append_right _ List.mem_cons_self))
    rw [runAll_concat]
    exact ⟨hcapacity'.trans hcapacity, hkeyOf'.trans hkeyOf⟩

/-- **In a script of completed steps, an entry's statement was prepared for its text.** -/
theorem prepared_runAll :
    (runAll us ⟨c, {}⟩).2.cache.Suited fun sql t =>
      t.sql = sql ∧ .prepared t.serial sql ∈ CacheAnswer.eventsAll (runAll us ⟨c, {}⟩).1 := by
  induction us using List.reverseRecOn with
  | nil => exact suited_new hnew
  | append_singleton us u ih =>
    obtain ⟨hus', hu⟩ := List.forall_mem_append.mp hus
    rw [runAll_append, eventsAll_append]
    simp only [runAll, CacheAnswer.eventsAll, List.append_nil]
    refine suited_run (sound_runAll hnew hus') (List.forall_mem_singleton.mp hu) ?_ ?_
    · exact (ih hus').imp fun sql t ht => ht.imp_right (List.mem_append_left _)
    · exact fun serial sql failsToClose hlog => ⟨rfl, List.mem_append_right _ hlog⟩

/-- **A lease is on a statement that was prepared for the text asked for.** -/
theorem leased_for {sql text : String} {hold : Option String} {fails failsToClose : Bool}
    {serial size : Nat} {log : List CacheEvent} {during : Option (List CacheAnswer)}
    (hanswer : (run (.request sql hold fails failsToClose []) (runAll us ⟨c, {}⟩).2).1 =
      .mk (.ok (.leased serial text)) log size during) :
    text = sql ∧
      .prepared serial sql ∈ CacheAnswer.eventsAll (runAll us ⟨c, {}⟩).1 ++ log := by
  have hsound := sound_runAll hnew hus
  have hprepared := prepared_runAll hnew hus
  have hends := ends_request hsound sql hold fails failsToClose
  generalize run (.request sql hold fails failsToClose []) (runAll us ⟨c, {}⟩).2 = done
    at hends hanswer
  cases hends with
  | found hready hcache =>
    cases hanswer
    exact (hprepared.ready hsound hready).imp_right (List.mem_append_left _)
  | failed hready hfails hcache => cases hanswer
  | prepared hready hfails hcache hlog =>
    cases hanswer
    exact ⟨rfl, List.mem_append_right _ hlog⟩

end Run

end CacheUse

end Rowbind
