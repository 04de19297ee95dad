import Rowbind.Proofs.StatementCache.Uses

/-!
# A cache between requests

When one request after another is made and its lease given back, a cache is **idle** in between:
nobody uses an entry, and no entry is evicted (`Idle`). From there it can be said exactly what a
request closes: the statement of the entry that its text's own entry replaces, and nothing where the
text has an entry (`mem_taken_checkOut`). Clearing an idle cache closes every statement that stands
(`Idle.clear`).
-/

namespace Rowbind.StatementCache

variable {τ : Type}

/-- **The entry that a request for a text discards**: the one that the text's new entry replaces. -/
def discarded? (sql : String) (c : StatementCache τ) : Option Nat :=
  match c.find? sql with
  | some _ => none
  | none => (c.replaced? (c.keyOf sql)).map Prod.snd

/-- **A cache that one entry of is used**, once. -/
structure UsedOnce (n : Nat) (c : StatementCache τ) : Prop where
  sound : c.Sound
  entry : ∃ e, c.entryAt? n = some e
  users : ∀ m e, c.entryAt? m = some e → e.evicted = false ∧ e.users = if m = n then 1 else 0

/-- **A cache that no entry of is used or evicted.** -/
structure Idle (c : StatementCache τ) : Prop where
  sound : c.Sound
  unused : ∀ n e, c.entryAt? n = some e → e.evicted = false ∧ e.users = 0

/-- A new cache is idle. -/
theorem idle_new {capacity : Nat} {keyOf : String → UInt64} {c : StatementCache τ}
    (h : new? capacity keyOf = some c) : Idle c := by
  obtain ⟨hsound, hentries, -⟩ := sound_new h
  refine ⟨hsound, ?_⟩
  intro n e he
  have hmem := mem_of_found he
  rw [hentries] at hmem
  exact absurd hmem List.not_mem_nil

/-- No two entries of an idle cache have one text. -/
theorem Idle.eq_of_sql {c : StatementCache τ} (h : Idle c) {n m : Nat} {e e' : CacheEntry τ}
    (hn : c.entryAt? n = some e) (hm : c.entryAt? m = some e') (hsql : e.sql = e'.sql) :
    n = m := by
  have hplace : ∀ {k x}, c.entryAt? k = some x → (c.keyOf x.sql, k) ∈ c.held := by
    intro k x hx
    have hmem := (h.sound.placed.held _ k).mpr ⟨x, hx, (h.unused k x hx).1, rfl⟩
    rwa [List.append_nil] at hmem
  have hsame := List.inj_on_of_nodup_map h.sound.placed.keys (hplace hn) (hplace hm)
    (congrArg c.keyOf hsql)
  exact congrArg Prod.snd hsame

/-! ## A request -/

section Request

variable {c : StatementCache τ} (h : Idle c) (sql : String)
include h

/-- A discarded entry is there. -/
theorem entryAt?_of_discarded {m : Nat} (hm : c.discarded? sql = some m) :
    ∃ e, c.entryAt? m = some e := by
  unfold discarded? at hm
  split at hm
  · cases hm
  · obtain ⟨out, hout, rfl⟩ := Option.map_eq_some_iff.mp hm
    obtain ⟨e, he, -⟩ := (h.sound.placed.held out.1 out.2).mp
      (List.mem_append_left _ (replaced?_mem hout))
    exact ⟨e, he⟩

/-- **The entries when a request has begun**: its own has a user, and of the others, which have
none, the discarded one is evicted. -/
theorem entryAt?_checkOut {m : Nat} {e : CacheEntry τ}
    (he : (c.checkOut sql).2.entryAt? m = some e) :
    m = (c.checkOut sql).1 ∧ e.evicted = false ∧ e.users = 1 ∨
      m ≠ (c.checkOut sql).1 ∧ e.users = 0 ∧ (e.evicted = true ↔ c.discarded? sql = some m) := by
  unfold discarded?
  unfold StatementCache.checkOut at he ⊢
  cases hfind : c.find? sql with
  | some n =>
    simp only [hfind] at he ⊢
    have he : ((c.promote (c.keyOf sql) n).edit n CacheEntry.join).entryAt? m = some e := he
    rw [entryAt?_edit (f := CacheEntry.join) fun _ => rfl] at he
    obtain ⟨e', he', rfl⟩ := Option.map_eq_some_iff.mp he
    obtain ⟨hevicted, husers⟩ := h.unused m e' he'
    by_cases hm : m = n
    · rw [if_pos hm]
      exact .inl ⟨hm, hevicted, congrArg (· + 1) husers⟩
    · rw [if_neg hm, hevicted]
      exact .inr ⟨hm, husers, by simp⟩
  | none =>
    simp only [hfind] at he ⊢
    have he : ((c.insert sql).2.edit c.made CacheEntry.join).entryAt? m = some e := he
    rw [entryAt?_edit (f := CacheEntry.join) fun _ => rfl, entryAt?_insert h.sound.placed] at he
    obtain ⟨e', he', rfl⟩ := Option.map_eq_some_iff.mp he
    by_cases hm : m = c.made
    · rw [if_pos hm] at he'
      cases he'
      rw [if_pos hm]
      exact .inl ⟨hm, rfl, rfl⟩
    · rw [if_neg hm] at he'
      obtain ⟨e₀, he₀, rfl⟩ := Option.map_eq_some_iff.mp he'
      obtain ⟨hevicted, husers⟩ := h.unused m e₀ he₀
      rw [if_neg hm]
      refine .inr ⟨hm, ?_⟩
      by_cases hout : (c.replaced? (c.keyOf sql)).map Prod.snd = some m
      · rw [if_pos hout]
        exact ⟨husers, by simp [hout, CacheEntry.markEvicted]⟩
      · rw [if_neg hout]
        exact ⟨husers, by simp [hout, hevicted]⟩

/-- A request's own entry is not the discarded one. -/
theorem discarded?_ne {m : Nat} (hm : c.discarded? sql = some m) : m ≠ (c.checkOut sql).1 := by
  obtain ⟨e, he⟩ := entryAt?_of_discarded h sql hm
  unfold discarded? at hm
  unfold StatementCache.checkOut
  cases hfind : c.find? sql with
  | some n =>
    rw [hfind] at hm
    cases hm
  | none =>
    rintro rfl
    have he : c.entryAt? c.made = some e := he
    rw [entryAt?_fresh h.sound.placed] at he
    cases he

/-- **What is due when a request has begun** is the discarded entry. -/
theorem isDue_checkOut (m : Nat) :
    (c.checkOut sql).2.IsDue m ↔ c.discarded? sql = some m := by
  constructor
  · rintro ⟨e, he, hevicted, husers⟩
    rcases entryAt?_checkOut h sql he with ⟨-, -, hone⟩ | ⟨-, -, hiff⟩
    · rw [husers] at hone
      cases hone
    · exact hiff.mp hevicted
  · intro hm
    have hne := discarded?_ne h sql hm
    obtain ⟨e₀, he₀⟩ := entryAt?_of_discarded h sql hm
    obtain ⟨_, _, -, hafter⟩ := use?_checkOut h.sound sql
    have huse : (c.checkOut sql).2.use? m = some e₀.use := by
      rw [hafter, if_neg hne, use?, he₀]
      rfl
    obtain ⟨e, he, -⟩ := Option.map_eq_some_iff.mp huse
    rcases entryAt?_checkOut h sql he with ⟨heq, -⟩ | ⟨-, husers, hiff⟩
    · exact absurd heq hne
    · exact ⟨e, he, hiff.mpr hm, husers⟩

/-- What a request closes is one statement, or none. -/
theorem taken_checkOut :
    (c.checkOut sql).2.takeRetired.1 = ((c.discarded? sql).bind c.statement?).toList := by
  have hdue := (h.sound.checkOut sql).due
  have hretired : (c.checkOut sql).2.retired = (c.discarded? sql).toList := by
    have hmem : ∀ m, m ∈ (c.checkOut sql).2.retired ↔ c.discarded? sql = some m := fun m =>
      (hdue.retired m).trans (isDue_checkOut h sql m)
    cases hout : c.discarded? sql with
    | none =>
      refine List.eq_nil_iff_forall_not_mem.mpr fun m hm => ?_
      rw [hmem, hout] at hm
      cases hm
    | some m =>
      refine List.perm_singleton.mp
        ((List.perm_ext_iff_of_nodup hdue.once (List.nodup_singleton m)).mpr fun m' => ?_)
      rw [hmem, hout, Option.some.injEq, List.mem_singleton]
      exact eq_comm
  show (c.checkOut sql).2.retired.filterMap (c.checkOut sql).2.statement? = _
  rw [hretired]
  cases hout : c.discarded? sql with
  | none => rfl
  | some m =>
    obtain ⟨_, _, -, hafter⟩ := use?_checkOut h.sound sql
    have hsame : (c.checkOut sql).2.statement? m = c.statement? m := by
      rw [statement?_eq, statement?_eq, hafter, if_neg (discarded?_ne h sql hout)]
    rw [Option.toList_some, List.filterMap_cons, List.filterMap_nil, hsame, Option.bind_some]
    cases c.statement? m with
    | none => rfl
    | some t => rfl

/-- **A request closes the statement of the entry that it discards**, and no other. -/
theorem mem_taken_checkOut (t : τ) :
    t ∈ (c.checkOut sql).2.takeRetired.1 ↔
      ∃ m, c.discarded? sql = some m ∧ c.statement? m = some t := by
  rw [taken_checkOut h, Option.mem_toList, Option.bind_eq_some_iff]

/-- **A request that has begun** uses its entry, and what it discards is gone. -/
theorem usedOnce_start :
    UsedOnce (c.checkOut sql).1 (c.checkOut sql).2.takeRetired.2 := by
  have hsound := h.sound.checkOut sql
  have hkept : ∀ {m e}, (c.checkOut sql).2.takeRetired.2.entryAt? m = some e →
      (c.checkOut sql).2.entryAt? m = some e ∧ ¬ (c.checkOut sql).2.IsDue m := by
    intro m e he
    rw [entryAt?_takeRetired] at he
    by_cases hm : m ∈ (c.checkOut sql).2.retired
    · rw [if_pos hm] at he
      cases he
    · rw [if_neg hm] at he
      exact ⟨he, fun hdue => hm ((hsound.due.retired m).mpr hdue)⟩
  refine ⟨hsound.takeRetired, ?_, ?_⟩
  · obtain ⟨statement, users, -, hafter⟩ := use?_checkOut h.sound sql
    have hself := hafter (c.checkOut sql).1
    rw [if_pos rfl] at hself
    obtain ⟨e, he, -⟩ := Option.map_eq_some_iff.mp hself
    refine ⟨e, ?_⟩
    rw [entryAt?_takeRetired, if_neg, he]
    intro hmem
    rw [hsound.due.retired, isDue_checkOut h sql] at hmem
    exact discarded?_ne h sql hmem rfl
  · intro m e he
    obtain ⟨he, hnot⟩ := hkept he
    rcases entryAt?_checkOut h sql he with ⟨hm, hevicted, husers⟩ | ⟨hm, husers, hiff⟩
    · exact ⟨hevicted, by rw [if_pos hm, husers]⟩
    · rw [if_neg hm]
      refine ⟨Bool.eq_false_iff.mpr fun hevicted => hnot ?_, husers⟩
      exact (isDue_checkOut h sql m).mpr (hiff.mp hevicted)

end Request

/-- Giving the used entry a statement leaves it used. -/
theorem UsedOnce.fulfil {c : StatementCache τ} {n : Nat} (h : UsedOnce n c) (t : τ) :
    UsedOnce n (c.fulfil n t) := by
  have hentry : ∀ m, (c.fulfil n t).entryAt? m =
      (c.entryAt? m).map fun e => if m = n then e.give t else e :=
    entryAt?_edit (f := CacheEntry.give t) (fun _ => rfl) n c
  refine ⟨h.sound.fulfil n t, ?_, ?_⟩
  · obtain ⟨e, he⟩ := h.entry
    exact ⟨e.give t, by rw [hentry, he, Option.map_some, if_pos rfl]⟩
  · intro m e he
    rw [hentry] at he
    obtain ⟨e', he', rfl⟩ := Option.map_eq_some_iff.mp he
    have hsame : ∀ e : CacheEntry τ, (e.give t).evicted = e.evicted ∧ (e.give t).users = e.users :=
      fun _ => ⟨rfl, rfl⟩
    have husers := h.users m e' he'
    by_cases hm : m = n
    · rw [if_pos hm, (hsame e').1, (hsame e').2]
      exact husers
    · rw [if_neg hm]
      exact husers

/-- **A cache is idle once the use has ended.** -/
theorem UsedOnce.release {c : StatementCache τ} {n : Nat} (h : UsedOnce n c) :
    Idle (c.release n) := by
  obtain ⟨e, he⟩ := h.entry
  have hone := (h.users n e he).2
  rw [if_pos rfl] at hone
  refine ⟨h.sound.release he (by omega), ?_⟩
  intro m e' he'
  rw [entryAt?_release] at he'
  obtain ⟨e'', he'', rfl⟩ := Option.map_eq_some_iff.mp he'
  obtain ⟨hevicted, husers⟩ := h.users m e'' he''
  by_cases hm : m = n
  · rw [if_pos hm] at husers ⊢
    refine ⟨hevicted, ?_⟩
    show e''.users - 1 = 0
    omega
  · rw [if_neg hm] at husers ⊢
    exact ⟨hevicted, husers⟩

/-! ## Clearing -/

section Clear

variable {c : StatementCache τ} (h : Idle c)
include h

/-- Every entry of an idle cache is due once all are evicted. -/
theorem entryAt?_clear (n : Nat) : c.evictAll.takeRetired.2.entryAt? n = none := by
  have hsound := h.sound.evictAll
  rw [entryAt?_takeRetired]
  by_cases hn : n ∈ c.evictAll.retired
  · rw [if_pos hn]
  · rw [if_neg hn]
    cases he : c.evictAll.entryAt? n with
    | none => rfl
    | some e =>
      have hevicted : e.evicted = true := by
        rw [← Bool.not_eq_false]
        intro hevicted
        have hplace := (hsound.placed.held _ n).mpr ⟨e, he, hevicted, rfl⟩
        rw [(evictAll_frame c).1] at hplace
        exact absurd hplace List.not_mem_nil
      have husers : e.users = 0 := by
        have huse : c.use? n = some e.use := by
          rw [← use?_evictAll, use?, he]
          rfl
        obtain ⟨e', he', hsame⟩ := Option.map_eq_some_iff.mp huse
        have hunused := (h.unused n e' he').2
        exact (congrArg EntryUse.users hsame).symm.trans hunused
      exact absurd ((hsound.due.retired n).mpr ⟨e, he, hevicted, husers⟩) hn

/-- **Clearing an idle cache** closes every statement that stands, and leaves the cache idle. -/
theorem Idle.clear : Idle c.evictAll.takeRetired.2 ∧ c.evictAll.takeRetired.2.standing = [] ∧
    c.evictAll.takeRetired.1.Perm c.standing := by
  have hsound := h.sound.evictAll
  have hstanding : c.evictAll.takeRetired.2.standing = [] := by
    apply List.filterMap_eq_nil_iff.mpr
    intro e he
    have hentry := entryAt?_of_mem hsound.takeRetired.placed.numbers he
    rw [entryAt?_clear h] at hentry
    cases hentry
  refine ⟨⟨hsound.takeRetired, ?_⟩, hstanding, ?_⟩
  · intro n e he
    rw [entryAt?_clear h] at he
    cases he
  · have htaken := standing_takeRetired hsound
    rw [hstanding, List.append_nil, standing_evictAll] at htaken
    exact htaken

end Clear

end Rowbind.StatementCache
