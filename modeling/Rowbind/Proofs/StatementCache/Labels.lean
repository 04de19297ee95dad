import Rowbind.Proofs.StatementCache.Idle

/-!
# What the entries of a cache are labelled

The **label** of an entry is its text and its statement: what an entry is, whoever uses it and
wherever it stands. Only giving an entry its statement changes a label; a request makes sure that
its text has an entry (`label?_begun`).

So whatever ties statements to texts when entries are given them ties them for good: a cache whose
statements **suit** the texts of their entries keeps them suited (`Suited`), and the statement that
a request finds suits the text asked for (`Suited.ready`).
-/

namespace Rowbind

/-- What an entry is labelled. -/
def EntryUse.label {τ : Type} (u : EntryUse τ) : String × Option τ := (u.sql, u.statement)

namespace StatementCache

variable {τ : Type}

/-- **What the entry with a number is labelled.** -/
def label? (c : StatementCache τ) (n : Nat) : Option (String × Option τ) :=
  (c.use? n).map EntryUse.label

/-- **The statement that a request for a text finds**, if there is one. -/
def ready? (sql : String) (c : StatementCache τ) : Option τ := (c.find? sql).bind c.statement?

/-- The cache when a request has begun. -/
def begun (sql : String) (c : StatementCache τ) : StatementCache τ :=
  (c.checkOut sql).2.takeRetired.2

/-- **Whether a cache is another after no more than the end of a use.** -/
def Eased (c c' : StatementCache τ) : Prop := c' = c ∨ ∃ n, c' = c.release n

variable {c c' : StatementCache τ}

theorem label?_of_entry {n : Nat} {e : CacheEntry τ} (h : c.entryAt? n = some e) :
    c.label? n = some (e.sql, e.statement) := by
  rw [label?, use?, h]
  rfl

theorem statement?_eq_label (n : Nat) : c.statement? n = (c.label? n).bind Prod.snd := by
  rw [statement?_eq, label?]
  cases c.use? n <;> rfl

/-! ## The moves -/

theorem label?_join (n m : Nat) : (c.edit n CacheEntry.join).label? m = c.label? m := by
  rw [label?, use?_edit (f := CacheEntry.join) fun _ => rfl, label?, use?, Option.map_map,
    Option.map_map]
  refine Option.map_congr fun e _ => ?_
  show (if m = n then e.join.use else e.use).label = e.use.label
  split <;> rfl

theorem label?_release (n m : Nat) : (c.release n).label? m = c.label? m := by
  rw [label?, use?_release, Option.map_map]
  refine Option.map_congr fun u _ => ?_
  show (if m = n then { u with users := u.users - 1 } else u : EntryUse τ).label = u.label
  split <;> rfl

theorem Eased.refl : Eased c c := .inl rfl

theorem Eased.label? (h : Eased c c') (m : Nat) : c'.label? m = c.label? m := by
  rcases h with rfl | ⟨n, rfl⟩
  · rfl
  · exact label?_release n m

theorem Eased.settings (h : Eased c c') : c'.capacity = c.capacity ∧ c'.keyOf = c.keyOf := by
  rcases h with rfl | ⟨n, rfl⟩
  · exact ⟨rfl, rfl⟩
  · exact ⟨capacity_release c n, keyOf_release c n⟩

theorem label?_evict (n m : Nat) : (c.evict n).label? m = c.label? m :=
  congrArg _ (use?_evict c n m)

theorem label?_evictAll (m : Nat) : c.evictAll.label? m = c.label? m :=
  congrArg _ (use?_evictAll c m)

theorem label?_fulfil (n : Nat) (t : τ) (m : Nat) :
    (c.fulfil n t).label? m = (c.label? m).map fun l => if m = n then (l.1, some t) else l := by
  rw [label?, use?_fulfil, label?, Option.map_map, Option.map_map]
  refine Option.map_congr fun u _ => ?_
  show (if m = n then { u with statement := some t } else u : EntryUse τ).label =
    if m = n then _ else _
  split <;> rfl

theorem label?_takeRetired (h : Sound c) (m : Nat) :
    c.takeRetired.2.label? m = c.label? m ∨ c.takeRetired.2.label? m = none := by
  rcases use?_takeRetired h m with hsame | ⟨hnone, -⟩
  · exact .inl (congrArg _ hsame)
  · exact .inr (by rw [label?, hnone, Option.map_none])

/-- **What a request finds when it has begun**: its own entry, which has the text asked for and the
statement that was there for it. Nothing new stands elsewhere. -/
theorem label?_begun (h : Sound c) (sql : String) :
    (c.begun sql).label? (c.checkOut sql).1 = some (sql, c.ready? sql) ∧
      ∀ m, m ≠ (c.checkOut sql).1 →
        (c.begun sql).label? m = c.label? m ∨ (c.begun sql).label? m = none := by
  obtain ⟨statement, users, hbefore, hafter⟩ := use?_checkOut h sql
  have hself := hafter (c.checkOut sql).1
  rw [if_pos rfl] at hself
  have hready : statement = c.ready? sql := by
    unfold ready?
    unfold checkOut at hbefore
    cases hfind : c.find? sql with
    | some n =>
      simp only [hfind] at hbefore
      rw [Option.bind_some, statement?_eq]
      rcases hbefore with hused | ⟨hnone, -⟩
      · rw [hused]
        rfl
      · obtain ⟨-, e, he, -⟩ := find?_spec h.placed hfind
        rw [use?, he] at hnone
        cases hnone
    | none =>
      simp only [hfind] at hbefore
      rcases hbefore with hused | ⟨-, hstatement, -⟩
      · have hfresh : c.use? c.made = none := by rw [use?, entryAt?_fresh h.placed]; rfl
        rw [show (c.insert sql).1 = c.made from rfl, hfresh] at hused
        cases hused
      · exact hstatement
  constructor
  · -- its entry has a user, so it is not taken out
    rcases use?_takeRetired (h.checkOut sql) (c.checkOut sql).1 with hsame | ⟨-, u, hu, husers⟩
    · rw [label?, begun, hsame, hself, ← hready]
      rfl
    · rw [hself] at hu
      cases hu
      cases husers
  · intro m hm
    have hother : (c.checkOut sql).2.label? m = c.label? m := by
      rw [label?, hafter, if_neg hm, label?]
    rcases label?_takeRetired (h.checkOut sql) m with hsame | hnone
    · exact .inl (hsame.trans hother)
    · exact .inr hnone

/-- **A request that has begun finds the statement that was there.** -/
theorem statement?_begun (h : Sound c) (sql : String) :
    (c.begun sql).statement? (c.checkOut sql).1 = c.ready? sql := by
  rw [statement?_eq_label, (label?_begun h sql).1, Option.bind_some]

/-! ## Statements that suit their texts -/

/-- **Whether every statement of a cache suits the text of its entry.** -/
def Suited (suits : String → τ → Prop) (c : StatementCache τ) : Prop :=
  ∀ n sql t, c.label? n = some (sql, some t) → suits sql t

section Suited

variable {suits : String → τ → Prop}

theorem suited_new {capacity : Nat} {keyOf : String → UInt64}
    (h : StatementCache.new? capacity keyOf = some c) : c.Suited suits := by
  intro n sql t hlabel
  have hentries := (sound_new h).2.1
  rw [label?, use?, entryAt?] at hlabel
  simp only [hentries, List.find?_nil, Option.map_none, reduceCtorEq] at hlabel

theorem Suited.imp {suits' : String → τ → Prop} (h : c.Suited suits)
    (himp : ∀ sql t, suits sql t → suits' sql t) : c.Suited suits' :=
  fun n sql t hlabel => himp sql t (h n sql t hlabel)

/-- Moves that change no label, or take entries out, keep statements suited. -/
theorem Suited.of_labels (h : c.Suited suits)
    (hlabels : ∀ n, c'.label? n = c.label? n ∨ c'.label? n = none) : c'.Suited suits := by
  intro n sql t hlabel
  rcases hlabels n with hsame | hnone
  · exact h n sql t (hsame ▸ hlabel)
  · rw [hnone] at hlabel
    cases hlabel

theorem Suited.eased (h : c.Suited suits) (heased : Eased c c') : c'.Suited suits :=
  h.of_labels fun n => .inl (heased.label? n)

/-- **The statement that a request finds suits the text asked for.** -/
theorem Suited.ready (h : c.Suited suits) (hc : Sound c) {sql : String} {t : τ}
    (hready : c.ready? sql = some t) : suits sql t := by
  obtain ⟨n, hfind, hstatement⟩ := Option.bind_eq_some_iff.mp hready
  obtain ⟨-, e, he, -, rfl⟩ := find?_spec hc.placed hfind
  rw [statement?, he] at hstatement
  exact h n e.sql t ((label?_of_entry he).trans (by rw [show e.statement = some t from hstatement]))

theorem Suited.begun (h : c.Suited suits) (hc : Sound c) (sql : String) :
    (c.begun sql).Suited suits := by
  obtain ⟨hself, hothers⟩ := label?_begun hc sql
  intro n text t hlabel
  by_cases hn : n = (c.checkOut sql).1
  · rw [hn, hself, Option.some.injEq, Prod.mk.injEq] at hlabel
    exact hlabel.1 ▸ h.ready hc hlabel.2
  · rcases hothers n hn with hsame | hnone
    · exact h n text t (hsame ▸ hlabel)
    · rw [hnone] at hlabel
      cases hlabel

/-- The entry that a request discards is gone when the request has begun. -/
theorem label?_begun_discarded (hc : Idle c) {sql : String} {m : Nat}
    (hm : c.discarded? sql = some m) : (c.begun sql).label? m = none := by
  have hretired := ((hc.sound.checkOut sql).due.retired m).mpr ((isDue_checkOut hc sql m).mpr hm)
  rw [label?, use?, begun, entryAt?_takeRetired, if_pos hretired]
  rfl

/-- **No other entry has the text of the entry that a request discards.** -/
theorem Suited.begun_apart (h : c.Suited suits) (hc : Idle c) {sql : String} {m : Nat}
    {e : CacheEntry τ} (hm : c.discarded? sql = some m) (he : c.entryAt? m = some e) :
    (c.begun sql).Suited fun text t => text ≠ e.sql ∧ suits text t := by
  intro n text t hlabel
  refine ⟨?_, h.begun hc.sound sql n text t hlabel⟩
  rintro rfl
  obtain ⟨hself, hothers⟩ := label?_begun hc.sound sql
  by_cases hn : n = (c.checkOut sql).1
  · -- its own entry has no statement, since an entry had to be made
    have hfind : c.find? sql = none := by
      unfold discarded? at hm
      cases hfind : c.find? sql with
      | none => rfl
      | some k =>
        rw [hfind] at hm
        cases hm
    rw [hn, hself, ready?, hfind] at hlabel
    cases hlabel
  · rcases hothers n hn with hsame | hnone
    · rw [hsame, label?, use?, Option.map_map] at hlabel
      obtain ⟨e', he', heq⟩ := Option.map_eq_some_iff.mp hlabel
      have hsql : e'.sql = e.sql := congrArg Prod.fst heq
      have hgone := label?_begun_discarded hc hm
      rw [← hc.eq_of_sql he' he hsql, hsame, label?_of_entry he'] at hgone
      cases hgone
    · rw [hnone] at hlabel
      cases hlabel

/-- Giving an entry a statement that suits its text. -/
theorem Suited.fulfil (h : c.Suited suits) {n : Nat} {sql : String} {statement : Option τ} {t : τ}
    (hn : c.label? n = some (sql, statement)) (ht : suits sql t) :
    (c.fulfil n t).Suited suits := by
  intro m text t' hlabel
  rw [label?_fulfil] at hlabel
  by_cases hm : m = n
  · rw [hm, hn, Option.map_some, if_pos rfl] at hlabel
    cases hlabel
    exact ht
  · simp only [if_neg hm, Option.map_id'] at hlabel
    exact h m text t' hlabel

end Suited

end StatementCache

end Rowbind
