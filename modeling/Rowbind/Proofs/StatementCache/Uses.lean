import Rowbind.Proofs.StatementCache.Upkeep

/-!
# What the users of cached statements see

The users of an entry see its text, its statement and their own number (`use?`). Making, placing and
evicting entries leaves that as it is; an entry is taken away only when it has no user
(`use?_takeRetired`). So what each move means to users can be said without places and evictions.

The statements of a cache are those that **stand** (`standing`). A statement stands from when its
entry is given it until it is taken out to be closed, once (`standing_fulfil`,
`standing_takeRetired`), and no other move adds or loses one.
-/

namespace Rowbind

/-- **What the users of an entry see.** -/
structure EntryUse (τ : Type) where
  sql : String
  statement : Option τ
  users : Nat

/-- What the users of an entry see. -/
def CacheEntry.use {τ : Type} (e : CacheEntry τ) : EntryUse τ := ⟨e.sql, e.statement, e.users⟩

namespace StatementCache

variable {τ : Type}

/-- What the users of the entry with a number see. -/
def use? (c : StatementCache τ) (n : Nat) : Option (EntryUse τ) :=
  (c.entryAt? n).map CacheEntry.use

/-! ## What users see -/

section Uses

variable {c : StatementCache τ}

theorem use?_edit {f : CacheEntry τ → CacheEntry τ} (hf : ∀ e, (f e).number = e.number)
    (n m : Nat) :
    (c.edit n f).use? m = (c.entryAt? m).map fun e => if m = n then (f e).use else e.use := by
  rw [use?, entryAt?_edit hf, Option.map_map]
  refine Option.map_congr ?_
  intro e _
  show (if m = n then f e else e).use = _
  split <;> rfl

/-- An eviction changes nothing for users. -/
theorem use?_evict (c : StatementCache τ) (n m : Nat) : (c.evict n).use? m = c.use? m := by
  rw [use?, entryAt?_evict, Option.map_map, use?]
  refine Option.map_congr ?_
  intro e _
  show (if m = n then e.markEvicted else e).use = e.use
  split <;> rfl

/-- Making an entry changes nothing for the users of another. -/
theorem use?_insert (hplaced : Placed [] c) (sql : String) {m : Nat} (hm : m ≠ c.made) :
    (c.insert sql).2.use? m = c.use? m := by
  rw [use?, entryAt?_insert hplaced, if_neg hm, Option.map_map, use?]
  refine Option.map_congr ?_
  intro e _
  show (if (c.replaced? (c.keyOf sql)).map Prod.snd = some m then e.markEvicted else e).use = e.use
  split <;> rfl

/-- **The entry of a text** is one made for the text, or a new one without a statement, and has one
user more than before. -/
theorem use?_checkOut (h : Sound c) (sql : String) :
    ∃ statement users,
      (c.use? (c.checkOut sql).1 = some ⟨sql, statement, users⟩ ∨
        c.use? (c.checkOut sql).1 = none ∧ statement = none ∧ users = 0) ∧
      ∀ m, (c.checkOut sql).2.use? m =
        if m = (c.checkOut sql).1 then some ⟨sql, statement, users + 1⟩ else c.use? m := by
  unfold StatementCache.checkOut
  cases hfind : c.find? sql with
  | some n =>
    obtain ⟨-, e, he, -, hsql⟩ := find?_spec h.placed hfind
    refine ⟨e.statement, e.users, .inl ?_, ?_⟩
    · show (c.entryAt? n).map CacheEntry.use = _
      rw [he, ← hsql]
      rfl
    · intro m
      show ((c.promote (c.keyOf sql) n).edit n CacheEntry.join).use? m = if m = n then _ else _
      rw [use?_edit (f := CacheEntry.join) fun _ => rfl]
      show (c.entryAt? m).map _ = _
      by_cases hm : m = n
      · rw [if_pos hm, hm, he, Option.map_some, if_pos rfl, ← hsql]
        rfl
      · simp only [if_neg hm]
        rfl
  | none =>
    refine ⟨none, 0, .inr ⟨?_, rfl, rfl⟩, ?_⟩
    · show (c.entryAt? c.made).map CacheEntry.use = none
      rw [entryAt?_fresh h.placed]
      rfl
    · intro m
      show ((c.insert sql).2.edit c.made CacheEntry.join).use? m = if m = c.made then _ else _
      rw [use?_edit (f := CacheEntry.join) fun _ => rfl]
      by_cases hm : m = c.made
      · rw [if_pos hm, hm, entryAt?_insert_self h.placed, Option.map_some, if_pos rfl]
        rfl
      · simp only [if_neg hm]
        exact use?_insert h.placed sql hm

/-- Ending a use leaves the entry with one user less. -/
theorem use?_release (c : StatementCache τ) (n m : Nat) :
    (c.release n).use? m =
      (c.use? m).map fun u => if m = n then { u with users := u.users - 1 } else u := by
  rw [use?, entryAt?_release, use?, Option.map_map, Option.map_map]
  refine Option.map_congr ?_
  intro e _
  show (if m = n then e.leave else e).use = if m = n then _ else _
  split <;> rfl

/-- An entry that is given a statement has it. -/
theorem use?_fulfil (c : StatementCache τ) (n : Nat) (t : τ) (m : Nat) :
    (c.fulfil n t).use? m =
      (c.use? m).map fun u => if m = n then { u with statement := some t } else u := by
  have hedit : (c.fulfil n t).use? m =
      (c.entryAt? m).map fun e => if m = n then (e.give t).use else e.use :=
    use?_edit (f := CacheEntry.give t) (fun _ => rfl) n m
  rw [hedit, use?, Option.map_map]
  refine Option.map_congr ?_
  intro e _
  show _ = if m = n then _ else _
  split <;> rfl

/-- Evicting everything changes nothing for users. -/
theorem use?_evictAll (c : StatementCache τ) (m : Nat) : c.evictAll.use? m = c.use? m :=
  evictAll_eq c (fun c => c.use? m) fun c n => use?_evict c n m

/-- An entry that is taken out has no user. -/
theorem use?_takeRetired (h : Sound c) (m : Nat) :
    c.takeRetired.2.use? m = c.use? m ∨
      c.takeRetired.2.use? m = none ∧ ∃ u, c.use? m = some u ∧ u.users = 0 := by
  unfold use?
  rw [entryAt?_takeRetired]
  by_cases hm : m ∈ c.retired
  · rw [if_pos hm]
    obtain ⟨e, he, -, husers⟩ := (h.due.retired m).mp hm
    exact .inr ⟨rfl, e.use, by rw [he]; rfl, husers⟩
  · rw [if_neg hm]
    exact .inl rfl

/-- The statement of an entry, as its users see it. -/
theorem statement?_eq (c : StatementCache τ) (n : Nat) :
    c.statement? n = (c.use? n).bind EntryUse.statement := by
  unfold statement? use?
  cases c.entryAt? n <;> rfl

end Uses

/-! ## The statements that stand -/

/-- **The statements that stand**: prepared, and not taken out to be closed. -/
def standing (c : StatementCache τ) : List τ :=
  c.entries.filterMap CacheEntry.statement

section Standing

variable {c : StatementCache τ}

theorem standing_edit {f : CacheEntry τ → CacheEntry τ} (hf : ∀ e, (f e).statement = e.statement)
    (n : Nat) : (c.edit n f).standing = c.standing := by
  unfold standing edit
  rw [List.filterMap_map]
  apply List.filterMap_congr
  intro e _
  show (if e.number = n then f e else e).statement = e.statement
  split
  · exact hf e
  · rfl

theorem standing_retireIfDone (n : Nat) : (c.retireIfDone n).standing = c.standing := by
  rw [standing, entries_retireIfDone, standing]

theorem standing_evict (n : Nat) : (c.evict n).standing = c.standing :=
  (standing_retireIfDone n).trans (standing_edit (f := CacheEntry.markEvicted) (fun _ => rfl) n)

theorem standing_release (n : Nat) : (c.release n).standing = c.standing :=
  (standing_retireIfDone n).trans (standing_edit (f := CacheEntry.leave) (fun _ => rfl) n)

theorem standing_evictAll : c.evictAll.standing = c.standing :=
  evictAll_eq c standing fun _ n => standing_evict n

/-- A new entry has no statement. -/
theorem standing_checkOut (sql : String) : (c.checkOut sql).2.standing = c.standing := by
  unfold StatementCache.checkOut
  cases hfind : c.find? sql with
  | some n => exact standing_edit (f := CacheEntry.join) (fun _ => rfl) n
  | none =>
    refine (standing_edit (f := CacheEntry.join) (fun _ => rfl) _).trans ?_
    have hadopted : ∀ out, (c.adopt sql out).standing = c.standing := by
      intro out
      show (c.entries ++ [CacheEntry.blank c.made sql]).filterMap CacheEntry.statement = _
      rw [List.filterMap_append]
      exact List.append_nil _
    show ((c.replaced? (c.keyOf sql)).elim (c.adopt sql (c.replaced? (c.keyOf sql)))
      fun h => (c.adopt sql (c.replaced? (c.keyOf sql))).evict h.2).standing = c.standing
    cases c.replaced? (c.keyOf sql) with
    | none => exact hadopted none
    | some h => exact (standing_evict h.2).trans (hadopted (some h))

/-- **A statement stands once its entry has it.** -/
theorem standing_fulfil (hnumbers : (c.entries.map CacheEntry.number).Nodup) {n : Nat}
    {e : CacheEntry τ} (he : c.entryAt? n = some e) (hnone : e.statement = none) (t : τ) :
    (c.fulfil n t).standing.Perm (t :: c.standing) := by
  obtain ⟨before, after, hentries⟩ := List.append_of_mem (mem_of_found he)
  have hperm : c.entries.Perm (e :: (before ++ after)) := hentries ▸ List.perm_middle
  have hnumber : e.number = n := number_of_found he
  have hdistinct := (hperm.map CacheEntry.number).nodup_iff.mp hnumbers
  rw [List.map_cons, List.nodup_cons, hnumber] at hdistinct
  -- only the entry itself is changed
  have hother : (before ++ after).map (fun e => if e.number = n then e.give t else e) =
      before ++ after := by
    conv_rhs => rw [← List.map_id (before ++ after)]
    apply List.map_congr_left
    intro e' he'
    refine if_neg ?_
    intro hsame
    exact hdistinct.1 (hsame ▸ List.mem_map_of_mem he')
  have hgiven : (c.fulfil n t).entries.Perm (e.give t :: (before ++ after)) := by
    refine (hperm.map fun e => if e.number = n then e.give t else e).trans ?_
    rw [List.map_cons, if_pos hnumber, hother]
  have hbefore : c.standing.Perm ((before ++ after).filterMap CacheEntry.statement) := by
    have h := hperm.filterMap CacheEntry.statement
    rwa [List.filterMap_cons_none hnone] at h
  have hafter := hgiven.filterMap CacheEntry.statement
  rw [List.filterMap_cons_some (by rfl : (e.give t).statement = some t)] at hafter
  exact hafter.trans (hbefore.symm.cons t)

/-- **What is taken out and what stands after are what stood before.** -/
theorem standing_takeRetired (h : Sound c) :
    (c.takeRetired.1 ++ c.takeRetired.2.standing).Perm c.standing := by
  let gone := c.entries.filter fun e => c.retired.contains e.number
  have hnumbers : c.retired.Perm (gone.map CacheEntry.number) := by
    have hgone : (gone.map CacheEntry.number).Nodup :=
      h.placed.numbers.sublist (List.filter_sublist.map _)
    rw [List.perm_ext_iff_of_nodup h.due.once hgone]
    intro n
    rw [List.mem_map]
    constructor
    · intro hn
      obtain ⟨e, he, -⟩ := (h.due.retired n).mp hn
      have hnumber := number_of_found he
      refine ⟨e, List.mem_filter.mpr ⟨mem_of_found he, ?_⟩, hnumber⟩
      rw [hnumber, List.contains_iff_mem]
      exact hn
    · rintro ⟨e, he, rfl⟩
      exact List.contains_iff_mem.mp (List.mem_filter.mp he).2
  have hgone : (gone.map CacheEntry.number).filterMap c.statement? =
      gone.filterMap CacheEntry.statement := by
    rw [List.filterMap_map]
    apply List.filterMap_congr
    intro e he
    show (c.entryAt? e.number).bind CacheEntry.statement = e.statement
    rw [entryAt?_of_mem h.placed.numbers (List.mem_filter.mp he).1]
    rfl
  have htaken : c.takeRetired.1.Perm (gone.filterMap CacheEntry.statement) :=
    hgone ▸ hnumbers.filterMap c.statement?
  refine (htaken.append_right _).trans ?_
  show (gone.filterMap CacheEntry.statement ++ (c.entries.filter fun e =>
    !c.retired.contains e.number).filterMap CacheEntry.statement).Perm _
  rw [← List.filterMap_append]
  exact (List.filter_append_perm _ c.entries).filterMap _

end Standing

end StatementCache

end Rowbind
