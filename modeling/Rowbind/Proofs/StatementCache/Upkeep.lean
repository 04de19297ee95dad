import Mathlib.Data.List.Nodup
import Mathlib.Data.List.Perm.Basic
import Rowbind.StatementCache.Basic

/-!
# The upkeep of the statement cache

What holds of a cache between any two of its moves. It has two halves. Every entry that is not
evicted has one place among the held ones, under the key of its text, and there is room for them
(`Placed`). And the entries that retired, each once, are those that are evicted and unused (`Due`).

A move that takes a place away from an entry evicts it right after. In between, the place is
**pending**: `Placed` keeps the list of the places taken away, and an eviction strikes one out
(`Placed.evict`).
-/

namespace Rowbind

/-! ## Lists by key -/

section Keyed

variable {κ α : Type} [DecidableEq κ] {l : List (κ × α)} {key : κ} {a : α}

theorem mem_of_lookup (h : l.lookup key = some a) : (key, a) ∈ l := by
  obtain ⟨before, after, rfl, -⟩ := List.lookup_eq_some_iff.mp h
  exact List.mem_append_right _ List.mem_cons_self

theorem not_mem_of_lookup (h : l.lookup key = none) : key ∉ l.map Prod.fst := by
  intro hmem
  obtain ⟨p, hp, hkey⟩ := List.mem_map.mp hmem
  exact absurd hkey.symm (bne_iff_ne.mp (List.lookup_eq_none_iff.mp h p hp))

/-- What is kept under a key, in front of what is kept under others, is all that is kept. -/
theorem cons_filter_perm (hkeys : (l.map Prod.fst).Nodup) (h : (key, a) ∈ l) :
    ((key, a) :: l.filter (·.1 ≠ key)).Perm l := by
  obtain ⟨before, after, rfl⟩ := List.append_of_mem h
  have hothers : ∀ p ∈ before ++ after, p.1 ≠ key := by
    intro p hp heq
    rw [List.map_append, List.map_cons, List.nodup_middle, ← List.map_append] at hkeys
    exact (List.nodup_cons.mp hkeys).1 (List.mem_map.mpr ⟨p, hp, heq⟩)
  have hfilter : (before ++ (key, a) :: after).filter (·.1 ≠ key) = before ++ after := by
    rw [List.filter_append, List.filter_cons_of_neg (by simp), ← List.filter_append]
    exact List.filter_eq_self.mpr fun p hp => decide_eq_true (hothers p hp)
  rw [hfilter]
  exact List.perm_middle.symm

end Keyed

namespace CacheEntry

variable {τ : Type}

/-- A new entry for a text. -/
def blank (number : Nat) (sql : String) : CacheEntry τ := { number := number, sql := sql }

/-! The changes that the cache makes to an entry. -/

def markEvicted (e : CacheEntry τ) : CacheEntry τ := { e with evicted := true }

def join (e : CacheEntry τ) : CacheEntry τ := { e with users := e.users + 1 }

def leave (e : CacheEntry τ) : CacheEntry τ := { e with users := e.users - 1 }

def give (t : τ) (e : CacheEntry τ) : CacheEntry τ := { e with statement := some t }

end CacheEntry

namespace StatementCache

variable {τ : Type}

/-! ## Entries by number -/

theorem number_of_found {c : StatementCache τ} {n : Nat} {e : CacheEntry τ}
    (h : c.entryAt? n = some e) : e.number = n := by
  have hfound := List.find?_some h
  exact beq_iff_eq.mp hfound

theorem mem_of_found {c : StatementCache τ} {n : Nat} {e : CacheEntry τ}
    (h : c.entryAt? n = some e) : e ∈ c.entries :=
  List.mem_of_find?_eq_some h

/-- With numbers that differ, an entry is the one with its number. -/
theorem entryAt?_of_mem {c : StatementCache τ} (hnumbers : (c.entries.map CacheEntry.number).Nodup)
    {e : CacheEntry τ} (h : e ∈ c.entries) : c.entryAt? e.number = some e := by
  obtain ⟨e', he'⟩ : ∃ e', c.entryAt? e.number = some e' := by
    cases hfind : c.entryAt? e.number with
    | some e' => exact ⟨e', rfl⟩
    | none =>
      have := List.find?_eq_none.mp hfind e h
      simp at this
  rw [he']
  exact congrArg some (List.inj_on_of_nodup_map hnumbers (mem_of_found he') h (number_of_found he'))

section Edit

variable {f : CacheEntry τ → CacheEntry τ} (hf : ∀ e, (f e).number = e.number) (n : Nat)
  (c : StatementCache τ)
include hf

/-- Editing keeps the numbers. -/
theorem map_number_edit :
    (c.edit n f).entries.map CacheEntry.number = c.entries.map CacheEntry.number := by
  rw [edit, List.map_map]
  apply List.map_congr_left
  intro e _
  show (if e.number = n then f e else e).number = e.number
  split
  · exact hf e
  · rfl

/-- Editing changes the entry with the number. -/
theorem entryAt?_edit (m : Nat) :
    (c.edit n f).entryAt? m = (c.entryAt? m).map fun e => if m = n then f e else e := by
  have hsame : ((fun e : CacheEntry τ => e.number == m) ∘
      fun e => if e.number = n then f e else e) = fun e => e.number == m := by
    funext e
    show ((if e.number = n then f e else e).number == m) = (e.number == m)
    split
    · rw [hf e]
    · rfl
  have hfound : (c.edit n f).entryAt? m =
      (c.entryAt? m).map fun e => if e.number = n then f e else e := by
    unfold entryAt? edit
    rw [List.find?_map, hsame]
  rw [hfound]
  cases hm : c.entryAt? m with
  | none => rfl
  | some e => rw [Option.map_some, Option.map_some, number_of_found hm]

end Edit

/-- Retiring an entry changes no entry. -/
theorem entries_retireIfDone (n : Nat) (c : StatementCache τ) :
    (c.retireIfDone n).entries = c.entries := by
  unfold retireIfDone
  split
  · split <;> rfl
  · rfl

theorem entryAt?_retireIfDone (n : Nat) (c : StatementCache τ) (m : Nat) :
    (c.retireIfDone n).entryAt? m = c.entryAt? m := by
  unfold entryAt?
  rw [entries_retireIfDone]

/-! ## The two halves -/

/-- **Every entry that is not evicted has one place**, under its key, `pending` places having been
taken away already. -/
structure Placed (pending : List (UInt64 × Nat)) (c : StatementCache τ) : Prop where
  numbers : (c.entries.map CacheEntry.number).Nodup
  fresh : ∀ e ∈ c.entries, e.number < c.made
  keys : (c.held.map Prod.fst).Nodup
  places : ((c.held ++ pending).map Prod.snd).Nodup
  held : ∀ key n, (key, n) ∈ c.held ++ pending ↔
    ∃ e, c.entryAt? n = some e ∧ e.evicted = false ∧ c.keyOf e.sql = key
  room : c.held.length ≤ c.capacity

/-- **Whether an entry's statement is to be closed**: the entry is evicted, and nobody uses it. -/
def IsDue (c : StatementCache τ) (n : Nat) : Prop :=
  ∃ e, c.entryAt? n = some e ∧ e.evicted = true ∧ e.users = 0

/-- **The retired entries are those that are due**, each once. -/
structure Due (c : StatementCache τ) : Prop where
  once : c.retired.Nodup
  retired : ∀ n, n ∈ c.retired ↔ c.IsDue n

/-- **What holds of a cache between its moves.** -/
structure Sound (c : StatementCache τ) : Prop where
  placed : Placed [] c
  due : Due c

/-- A new cache has no entries. -/
theorem sound_new {capacity : Nat} {keyOf : String → UInt64} {c : StatementCache τ}
    (h : new? capacity keyOf = some c) : Sound c ∧ c.entries = [] ∧ c.capacity = capacity := by
  unfold new? at h
  split at h
  · rename_i hpos
    cases h
    have hentry : ∀ {e : CacheEntry τ} {n : Nat},
        ({ capacity := capacity, capacity_pos := hpos, keyOf := keyOf } :
          StatementCache τ).entryAt? n ≠ some e := fun h => by cases h
    refine ⟨⟨?_, ?_⟩, rfl, rfl⟩
    · exact {
        numbers := List.nodup_nil
        fresh := nofun
        keys := List.nodup_nil
        places := List.nodup_nil
        held := fun _ _ =>
          ⟨fun h => absurd h List.not_mem_nil, fun ⟨e, he, _⟩ => absurd he hentry⟩
        room := Nat.zero_le _ }
    · exact {
        once := List.nodup_nil
        retired := fun _ =>
          ⟨fun h => absurd h List.not_mem_nil, fun ⟨e, he, _⟩ => absurd he hentry⟩ }
  · cases h

/-- An entry that is not evicted has not retired. -/
theorem Due.not_mem {c : StatementCache τ} (h : Due c) {n : Nat} {e : CacheEntry τ}
    (hn : c.entryAt? n = some e) (hnot : ¬ (e.evicted = true ∧ e.users = 0)) : n ∉ c.retired := by
  intro hmem
  obtain ⟨e', he', hdue⟩ := (h.retired n).mp hmem
  rw [hn] at he'
  cases he'
  exact hnot hdue

theorem entryAt?_fresh {pending : List (UInt64 × Nat)} {c : StatementCache τ}
    (h : Placed pending c) : c.entryAt? c.made = none := by
  cases hn : c.entryAt? c.made with
  | none => rfl
  | some e =>
    have := h.fresh e (mem_of_found hn)
    rw [number_of_found hn] at this
    exact absurd this (Nat.lt_irrefl _)

/-- An entry that is due retires. -/
theorem retireIfDone_of_due {c : StatementCache τ} {n : Nat} (h : c.IsDue n) :
    c.retireIfDone n = { c with retired := c.retired ++ [n] } := by
  obtain ⟨e, he, hevicted, husers⟩ := h
  rw [retireIfDone, he]
  show (if (e.evicted && e.users == 0) = true then _ else _) = _
  rw [hevicted, husers]
  rfl

/-- An entry that is not due stays. -/
theorem retireIfDone_of_not_due {c : StatementCache τ} {n : Nat} (h : ¬ c.IsDue n) :
    c.retireIfDone n = c := by
  unfold retireIfDone
  split
  · rename_i e he
    refine if_neg fun hdue => h ⟨e, he, ?_⟩
    rw [Bool.and_eq_true, beq_iff_eq] at hdue
    exact hdue
  · rfl

/-! ## Editing an entry -/

section Edits

variable {pending : List (UInt64 × Nat)} {c : StatementCache τ} {n : Nat}
  {f : CacheEntry τ → CacheEntry τ}

/-- Editing keeps the places where it keeps texts and evictions. -/
theorem Placed.edit (h : Placed pending c) (hf : ∀ e, (f e).number = e.number)
    (hkeeps : ∀ e, (f e).sql = e.sql ∧ (f e).evicted = e.evicted) :
    Placed pending (c.edit n f) where
  numbers := by
    rw [map_number_edit hf]
    exact h.numbers
  fresh e he := by
    obtain ⟨e', he', rfl⟩ := List.mem_map.mp he
    split
    · rw [hf]
      exact h.fresh e' he'
    · exact h.fresh e' he'
  keys := h.keys
  places := h.places
  held key m := by
    rw [entryAt?_edit hf]
    refine (h.held key m).trans ⟨?_, ?_⟩
    · rintro ⟨e, he, hevicted, hkey⟩
      refine ⟨if m = n then f e else e, by rw [he, Option.map_some], ?_⟩
      split
      · rw [(hkeeps e).1, (hkeeps e).2]
        exact ⟨hevicted, hkey⟩
      · exact ⟨hevicted, hkey⟩
    · rintro ⟨e, he, hevicted, hkey⟩
      obtain ⟨e', he', rfl⟩ := Option.map_eq_some_iff.mp he
      refine ⟨e', he', ?_⟩
      by_cases hm : m = n
      · rw [if_pos hm, (hkeeps e').1] at hkey
        rw [if_pos hm, (hkeeps e').2] at hevicted
        exact ⟨hevicted, hkey⟩
      · rw [if_neg hm] at hkey hevicted
        exact ⟨hevicted, hkey⟩
  room := h.room

/-- Editing another entry does not make an entry due. -/
theorem isDue_edit_of_ne (hf : ∀ e, (f e).number = e.number) {m : Nat} (hm : m ≠ n) :
    (c.edit n f).IsDue m ↔ c.IsDue m := by
  unfold IsDue
  rw [entryAt?_edit hf]
  cases c.entryAt? m with
  | none => exact Iff.rfl
  | some e => rw [Option.map_some, if_neg hm]

/-- Editing keeps what is due where the entry is due after as it was before. -/
theorem Due.edit (h : Due c) (hf : ∀ e, (f e).number = e.number)
    (hdue : ∀ e, c.entryAt? n = some e →
      ((f e).evicted = true ∧ (f e).users = 0 ↔ e.evicted = true ∧ e.users = 0)) :
    Due (c.edit n f) where
  once := h.once
  retired m := by
    by_cases hm : m = n
    · rw [hm]
      refine (h.retired n).trans ?_
      unfold IsDue
      rw [entryAt?_edit hf]
      cases he : c.entryAt? n with
      | none => exact Iff.rfl
      | some e =>
        simp only [Option.map_some, if_true, Option.some.injEq, exists_eq_left']
        exact (hdue e he).symm
    · rw [isDue_edit_of_ne hf hm]
      exact h.retired m

/-- **An edited entry retires if it is due**: what an entry that was not due becomes by an edit is
settled by `retireIfDone`. -/
theorem Due.retireIfDone (h : Due c) (hf : ∀ e, (f e).number = e.number) (hn : n ∉ c.retired) :
    Due ((c.edit n f).retireIfDone n) := by
  have hother : ∀ m, m ≠ n → (m ∈ c.retired ↔ (c.edit n f).IsDue m) := by
    intro m hm
    rw [isDue_edit_of_ne hf hm]
    exact h.retired m
  by_cases hdue : (c.edit n f).IsDue n
  · rw [retireIfDone_of_due hdue]
    refine ⟨List.nodup_append.mpr ⟨h.once, List.nodup_singleton n, ?_⟩, ?_⟩
    · rintro m hm _ hmem rfl
      exact hn (List.mem_singleton.mp hmem ▸ hm)
    · intro m
      show m ∈ c.retired ++ [n] ↔ (c.edit n f).IsDue m
      rw [List.mem_append, List.mem_singleton]
      by_cases hm : m = n
      · rw [hm]
        exact ⟨fun _ => hdue, fun _ => .inr rfl⟩
      · rw [← hother m hm]
        exact ⟨fun h => h.resolve_right hm, .inl⟩
  · rw [retireIfDone_of_not_due hdue]
    refine ⟨h.once, ?_⟩
    intro m
    by_cases hm : m = n
    · rw [hm]
      exact ⟨fun hmem => absurd hmem hn, fun h => absurd h hdue⟩
    · exact hother m hm

end Edits

/-! ## Moves on one entry -/

section Moves

variable {pending : List (UInt64 × Nat)} {c : StatementCache τ} {n : Nat}

/-- Retiring an entry takes no place away. -/
theorem Placed.retireIfDone (h : Placed pending c) : Placed pending (c.retireIfDone n) := by
  by_cases hdue : c.IsDue n
  · rw [retireIfDone_of_due hdue]
    exact ⟨h.numbers, h.fresh, h.keys, h.places, h.held, h.room⟩
  · rw [retireIfDone_of_not_due hdue]
    exact h

/-- **An eviction strikes out the place taken away.** -/
theorem Placed.evict {key : UInt64} (h : Placed ((key, n) :: pending) c) :
    Placed pending (c.evict n) := by
  have hf : ∀ e : CacheEntry τ, e.markEvicted.number = e.number := fun _ => rfl
  have hplaces := h.places
  rw [List.map_append, List.map_cons, List.nodup_middle, ← List.map_append, List.nodup_cons]
    at hplaces
  have hedited : Placed pending (c.edit n CacheEntry.markEvicted) := {
    numbers := by
      rw [map_number_edit hf]
      exact h.numbers
    fresh := by
      intro e he
      obtain ⟨e', he', rfl⟩ := List.mem_map.mp he
      split
      · exact h.fresh e' he'
      · exact h.fresh e' he'
    keys := h.keys
    places := hplaces.2
    held := by
      intro key' m
      show (key', m) ∈ c.held ++ pending ↔ ∃ e, (c.edit n CacheEntry.markEvicted).entryAt? m =
        some e ∧ e.evicted = false ∧ c.keyOf e.sql = key'
      rw [entryAt?_edit hf]
      by_cases hm : m = n
      · rw [hm]
        refine ⟨fun hmem => absurd (List.mem_map_of_mem (f := Prod.snd) hmem) hplaces.1, ?_⟩
        rintro ⟨e, he, hevicted, -⟩
        obtain ⟨e', -, rfl⟩ := Option.map_eq_some_iff.mp he
        rw [if_pos rfl] at hevicted
        cases hevicted
      · simp only [if_neg hm, Option.map_id']
        rw [← h.held key' m, List.mem_append, List.mem_append, List.mem_cons, Prod.mk.injEq]
        exact ⟨fun h => h.imp_right .inr, fun h => h.imp_right fun h =>
          h.resolve_left fun h => hm h.2⟩
    room := h.room }
  exact hedited.retireIfDone

/-- An eviction retires what it makes due. -/
theorem Due.evict {key : UInt64} (hplaced : Placed ((key, n) :: pending) c) (h : Due c) :
    Due (c.evict n) := by
  obtain ⟨e, he, hevicted, -⟩ := (hplaced.held key n).mp
    (List.mem_append_right _ List.mem_cons_self)
  refine h.retireIfDone (f := CacheEntry.markEvicted) (fun _ => rfl) (h.not_mem he ?_)
  intro hdue
  rw [hevicted] at hdue
  cases hdue.1

/-- Ending a use retires what it makes due. -/
theorem Sound.release (h : Sound c) {e : CacheEntry τ} (he : c.entryAt? n = some e)
    (husers : 0 < e.users) : Sound (c.release n) where
  placed := (h.placed.edit (f := CacheEntry.leave) (fun _ => rfl)
    fun _ => ⟨rfl, rfl⟩).retireIfDone
  due := h.due.retireIfDone (f := CacheEntry.leave) (fun _ => rfl)
    (h.due.not_mem he fun hdue => by omega)

/-- Giving an entry its statement changes neither half. -/
theorem Sound.fulfil (h : Sound c) (n : Nat) (t : τ) : Sound (c.fulfil n t) where
  placed := h.placed.edit (f := CacheEntry.give t) (fun _ => rfl) fun _ => ⟨rfl, rfl⟩
  due := h.due.edit (f := CacheEntry.give t) (fun _ => rfl) fun _ _ => Iff.rfl

/-- Beginning a use changes neither half, if the entry is not evicted. -/
theorem Sound.join (h : Sound c) {e : CacheEntry τ} (he : c.entryAt? n = some e)
    (hevicted : e.evicted = false) : Sound (c.edit n CacheEntry.join) where
  placed := h.placed.edit (fun _ => rfl) fun _ => ⟨rfl, rfl⟩
  due := h.due.edit (fun _ => rfl) fun e' he' => by
    rw [he] at he'
    cases he'
    show e.evicted = true ∧ e.users + 1 = 0 ↔ e.evicted = true ∧ e.users = 0
    rw [hevicted]
    exact ⟨fun h => absurd h.1 Bool.false_ne_true, fun h => absurd h.1 Bool.false_ne_true⟩

end Moves

/-- What an eviction does to the entries. -/
theorem entryAt?_evict (c : StatementCache τ) (n m : Nat) :
    (c.evict n).entryAt? m = (c.entryAt? m).map fun e => if m = n then e.markEvicted else e :=
  (entryAt?_retireIfDone n _ m).trans
    (entryAt?_edit (f := CacheEntry.markEvicted) (fun _ => rfl) n c m)

/-- What ending a use does to the entries. -/
theorem entryAt?_release (c : StatementCache τ) (n m : Nat) :
    (c.release n).entryAt? m = (c.entryAt? m).map fun e => if m = n then e.leave else e :=
  (entryAt?_retireIfDone n _ m).trans (entryAt?_edit (f := CacheEntry.leave) (fun _ => rfl) n c m)

/-! ## Places -/

section Places

variable {c : StatementCache τ} {key : UInt64} {n : Nat}

/-- The held entry found for a text was made for it, and is not evicted. -/
theorem find?_spec {sql : String} (hplaced : Placed [] c) (h : c.find? sql = some n) :
    (c.keyOf sql, n) ∈ c.held ∧
      ∃ e, c.entryAt? n = some e ∧ e.evicted = false ∧ e.sql = sql := by
  obtain ⟨hlookup, hsql⟩ := Option.filter_eq_some_iff.mp h
  have hmem := mem_of_lookup hlookup
  obtain ⟨e, he, hevicted, -⟩ := (hplaced.held _ _).mp (List.mem_append_left _ hmem)
  refine ⟨hmem, e, he, hevicted, ?_⟩
  rw [he] at hsql
  exact beq_iff_eq.mp hsql

/-- The place that a new entry takes is one of those held. -/
theorem replaced?_mem {out : UInt64 × Nat} (h : c.replaced? key = some out) : out ∈ c.held := by
  unfold replaced? at h
  split at h
  · rename_i hlookup
    cases h
    exact mem_of_lookup hlookup
  · split at h
    · cases h
    · exact List.mem_of_getLast? h

/-- What is left of the held places and the place taken away are all of them. -/
theorem filter_append_out {out : Option (UInt64 × Nat)} (hkeys : (c.held.map Prod.fst).Nodup)
    (hout : ∀ h, out = some h → h ∈ c.held) :
    (c.held.filter (fun h => some h ≠ out) ++ out.toList).Perm c.held := by
  have hnodup : c.held.Nodup := hkeys.of_map _
  cases out with
  | none => simp
  | some h =>
    have herase : c.held.filter (fun p => some p ≠ some h) = c.held.erase h := by
      rw [hnodup.erase_eq_filter]
      apply List.filter_congr
      intro p _
      rw [Bool.eq_iff_iff, decide_eq_true_iff, bne_iff_ne, Ne, Option.some.injEq]
    rw [herase]
    exact (List.perm_append_singleton h _).trans (List.perm_cons_erase (hout h rfl)).symm

end Places

/-! ## Making an entry -/

/-- The cache with a new entry for a text in the place that is taken away, before what had the place
is evicted. -/
def adopt (sql : String) (out : Option (UInt64 × Nat)) (c : StatementCache τ) : StatementCache τ :=
  { c with
    entries := c.entries ++ [.blank c.made sql]
    held := (c.keyOf sql, c.made) :: c.held.filter fun h => some h ≠ out
    made := c.made + 1 }

section Adopt

variable {c : StatementCache τ} (hplaced : Placed [] c) (sql : String)
include hplaced

theorem entryAt?_adopt (out : Option (UInt64 × Nat)) (m : Nat) :
    (c.adopt sql out).entryAt? m =
      if m = c.made then some (.blank c.made sql) else c.entryAt? m := by
  have hfind : (c.adopt sql out).entryAt? m =
      (c.entryAt? m).or ([CacheEntry.blank c.made sql].find? (·.number == m)) := List.find?_append
  rw [hfind]
  by_cases hm : m = c.made
  · rw [hm, entryAt?_fresh hplaced, if_pos rfl, Option.none_or]
    exact List.find?_cons_of_pos (beq_self_eq_true _)
  · rw [if_neg hm, List.find?_cons_of_neg, List.find?_nil, Option.or_none]
    exact fun h => hm (beq_iff_eq.mp h).symm

/-- What a new entry replaces makes room for it. -/
theorem length_filter_lt {out : Option (UInt64 × Nat)} (hout : c.replaced? (c.keyOf sql) = out) :
    (c.held.filter fun h => some h ≠ out).length < c.capacity := by
  have hlength := (filter_append_out hplaced.keys
    fun (h : UInt64 × Nat) hh => replaced?_mem (hout.trans hh)).length_eq
  have hroom := hplaced.room
  rw [List.length_append] at hlength
  cases out with
  | some h =>
    rw [Option.toList_some, List.length_singleton] at hlength
    omega
  | none =>
    unfold replaced? at hout
    split at hout
    · cases hout
    · split at hout
      · rename_i hlt
        rw [Option.toList_none, List.length_nil] at hlength
        omega
      · rw [List.getLast?_eq_none_iff.mp hout]
        exact c.capacity_pos

/-- Once the replaced place is taken away, no place has the new entry's key. -/
theorem key_not_mem {out : Option (UInt64 × Nat)} (hout : c.replaced? (c.keyOf sql) = out) :
    c.keyOf sql ∉ (c.held.filter fun h => some h ≠ out).map Prod.fst := by
  intro hmem
  obtain ⟨p, hp, hkey⟩ := List.mem_map.mp hmem
  obtain ⟨hheld, hne⟩ := List.mem_filter.mp hp
  cases hlookup : c.held.lookup (c.keyOf sql) with
  | none => exact not_mem_of_lookup hlookup (hkey ▸ List.mem_map_of_mem hheld)
  | some n =>
    have hout : out = some (c.keyOf sql, n) := by
      rw [← hout, replaced?, hlookup]
    have hsame : p = (c.keyOf sql, n) :=
      List.inj_on_of_nodup_map hplaced.keys hheld (mem_of_lookup hlookup) hkey
    rw [hsame, hout] at hne
    exact absurd rfl (of_decide_eq_true hne)

/-- A new entry has its place, and the place of what it replaces is pending. -/
theorem Placed.adopt {out : Option (UInt64 × Nat)} (hout : c.replaced? (c.keyOf sql) = out) :
    Placed out.toList (c.adopt sql out) := by
  have hperm := filter_append_out hplaced.keys
    fun (h : UInt64 × Nat) hh => replaced?_mem (hout.trans hh)
  have hnumber : ∀ key n, (key, n) ∈ c.held → n < c.made := by
    intro key n hmem
    obtain ⟨e, he, -⟩ := (hplaced.held key n).mp (List.mem_append_left _ hmem)
    have := hplaced.fresh e (mem_of_found he)
    rwa [number_of_found he] at this
  exact {
    numbers := by
      show ((c.entries ++ [CacheEntry.blank c.made sql]).map CacheEntry.number).Nodup
      rw [List.map_append, List.nodup_append]
      refine ⟨hplaced.numbers, List.nodup_singleton _, ?_⟩
      rintro _ hmem _ hmade rfl
      obtain ⟨e, he, hnumber⟩ := List.mem_map.mp hmem
      have hlt := hplaced.fresh e he
      rw [hnumber, List.mem_singleton.mp hmade] at hlt
      exact Nat.lt_irrefl _ hlt
    fresh := by
      intro e he
      show e.number < c.made + 1
      rcases List.mem_append.mp he with he | he
      · exact Nat.lt_succ_of_lt (hplaced.fresh e he)
      · rw [List.mem_singleton.mp he]
        exact Nat.lt_succ_self _
    keys := List.nodup_cons.mpr ⟨key_not_mem hplaced sql hout,
      hplaced.keys.sublist (List.filter_sublist.map _)⟩
    places := by
      show (((c.keyOf sql, c.made) :: (c.held.filter (fun h => some h ≠ out) ++ out.toList)).map
        Prod.snd).Nodup
      have hplaces := hplaced.places
      rw [List.append_nil] at hplaces
      rw [List.map_cons, List.nodup_cons, (hperm.map Prod.snd).nodup_iff, (hperm.map _).mem_iff]
      refine ⟨?_, hplaces⟩
      intro hmem
      obtain ⟨p, hp, hmade⟩ := List.mem_map.mp hmem
      have hlt := hnumber p.1 p.2 hp
      rw [hmade] at hlt
      exact Nat.lt_irrefl _ hlt
    held := by
      intro key m
      show (key, m) ∈ (c.keyOf sql, c.made) ::
          (c.held.filter (fun h => some h ≠ out) ++ out.toList) ↔
        ∃ e, (c.adopt sql out).entryAt? m = some e ∧ e.evicted = false ∧ c.keyOf e.sql = key
      rw [List.mem_cons, hperm.mem_iff, entryAt?_adopt hplaced, Prod.mk.injEq]
      by_cases hm : m = c.made
      · rw [if_pos hm]
        constructor
        · rintro (⟨rfl, -⟩ | hmem)
          · exact ⟨_, rfl, rfl, rfl⟩
          · exact absurd (hm ▸ hnumber key m hmem) (Nat.lt_irrefl _)
        · rintro ⟨e, he, -, hkey⟩
          cases he
          exact .inl ⟨hkey.symm, hm⟩
      · have hheld := hplaced.held key m
        rw [List.append_nil] at hheld
        rw [if_neg hm, ← hheld]
        exact ⟨fun h => h.resolve_left fun h => hm h.2, .inr⟩
    room := length_filter_lt hplaced sql hout }

/-- A new entry is not due, and no other becomes so. -/
theorem Due.adopt (h : Due c) (out : Option (UInt64 × Nat)) : Due (c.adopt sql out) where
  once := h.once
  retired m := by
    refine (h.retired m).trans ?_
    unfold IsDue
    rw [entryAt?_adopt hplaced]
    by_cases hm : m = c.made
    · rw [if_pos hm, hm, entryAt?_fresh hplaced]
      constructor
      · rintro ⟨e, he, -⟩
        cases he
      · rintro ⟨e, he, hevicted, -⟩
        cases he
        cases hevicted
    · rw [if_neg hm]

/-- **Making an entry** keeps both halves. -/
theorem Sound.insert (hdue : Due c) : Sound (c.insert sql).2 := by
  have hinsert : (c.insert sql).2 = (c.replaced? (c.keyOf sql)).elim
      (c.adopt sql (c.replaced? (c.keyOf sql)))
      fun h => (c.adopt sql (c.replaced? (c.keyOf sql))).evict h.2 := rfl
  have hadopted := hdue.adopt hplaced sql (c.replaced? (c.keyOf sql))
  rw [hinsert]
  cases hout : c.replaced? (c.keyOf sql) with
  | none =>
    rw [hout] at hadopted
    exact ⟨Placed.adopt hplaced sql hout, hadopted⟩
  | some h =>
    rw [hout] at hadopted
    have hpending : Placed [(h.1, h.2)] (c.adopt sql (some h)) := Placed.adopt hplaced sql hout
    exact ⟨hpending.evict, hadopted.evict hpending⟩

/-- **What making an entry does to the entries**: one is there that was not, and the one it replaces
is evicted. -/
theorem entryAt?_insert (m : Nat) :
    (c.insert sql).2.entryAt? m =
      if m = c.made then some (.blank c.made sql)
      else (c.entryAt? m).map fun e =>
        if (c.replaced? (c.keyOf sql)).map Prod.snd = some m then e.markEvicted else e := by
  have hinsert : (c.insert sql).2 = (c.replaced? (c.keyOf sql)).elim
      (c.adopt sql (c.replaced? (c.keyOf sql)))
      fun h => (c.adopt sql (c.replaced? (c.keyOf sql))).evict h.2 := rfl
  have hadopted := entryAt?_adopt hplaced sql (c.replaced? (c.keyOf sql)) m
  rw [hinsert]
  cases hout : c.replaced? (c.keyOf sql) with
  | none =>
    rw [hout] at hadopted
    simp only [Option.map_none, reduceCtorEq, if_false, Option.map_id']
    exact hadopted
  | some h =>
    rw [hout] at hadopted
    show ((c.adopt sql (some h)).evict h.2).entryAt? m = _
    rw [entryAt?_evict, hadopted]
    by_cases hm : m = c.made
    · have hne : m ≠ h.2 := by
        rintro rfl
        obtain ⟨e, he, -⟩ := (hplaced.held h.1 h.2).mp
          (List.mem_append_left _ (replaced?_mem hout))
        rw [hm, entryAt?_fresh hplaced] at he
        cases he
      rw [if_pos hm, if_pos hm, Option.map_some, if_neg hne]
    · rw [if_neg hm, if_neg hm]
      simp only [Option.map_some, Option.some.injEq, eq_comm (a := m)]

/-- A new entry is there as it was made. -/
theorem entryAt?_insert_self : (c.insert sql).2.entryAt? c.made = some (.blank c.made sql) := by
  rw [entryAt?_insert hplaced, if_pos rfl]

end Adopt

/-! ## The other moves -/

section OtherMoves

variable {c : StatementCache τ}

/-- **Moving a place to the front** keeps both halves. -/
theorem Sound.promote {key : UInt64} {n : Nat} (h : Sound c) (hmem : (key, n) ∈ c.held) :
    Sound (c.promote key n) := by
  have hperm : (c.promote key n).held.Perm c.held := cons_filter_perm h.placed.keys hmem
  have hplaced : Placed [] (c.promote key n) := {
    numbers := h.placed.numbers
    fresh := h.placed.fresh
    keys := (hperm.map _).nodup_iff.mpr h.placed.keys
    places := ((hperm.append_right []).map _).nodup_iff.mpr h.placed.places
    held := fun key' m => (hperm.append_right []).mem_iff.trans (h.placed.held key' m)
    room := hperm.length_eq ▸ h.placed.room }
  exact ⟨hplaced, h.due.once, h.due.retired⟩

/-- **Beginning a use** keeps both halves. -/
theorem Sound.checkOut (h : Sound c) (sql : String) : Sound (c.checkOut sql).2 := by
  unfold StatementCache.checkOut
  cases hfind : c.find? sql with
  | some n =>
    obtain ⟨hmem, e, he, hevicted, -⟩ := find?_spec h.placed hfind
    exact (h.promote hmem).join (e := e) he hevicted
  | none =>
    exact (Sound.insert h.placed sql h.due).join (entryAt?_insert_self h.placed sql) rfl

/-- **Evicting entries whose places are taken away** keeps both halves. The induction is on the
places that are left pending. -/
theorem sound_evictEach {pending : List (UInt64 × Nat)} (hplaced : Placed pending c)
    (hdue : Due c) : Sound (pending.foldl (fun c h => c.evict h.2) c) := by
  induction pending generalizing c with
  | nil => exact ⟨hplaced, hdue⟩
  | cons h pending ih =>
    have hplaced : Placed ((h.1, h.2) :: pending) c := hplaced
    exact ih hplaced.evict (hdue.evict hplaced)

/-- **Evicting everything** keeps both halves. -/
theorem Sound.evictAll (h : Sound c) : Sound c.evictAll := by
  have hpending : Placed c.held.reverse { c with held := [] } := {
    numbers := h.placed.numbers
    fresh := h.placed.fresh
    keys := List.nodup_nil
    places := by
      have hplaces := h.placed.places
      rw [List.append_nil] at hplaces
      rw [List.nil_append, List.map_reverse, List.nodup_reverse]
      exact hplaces
    held := by
      intro key n
      have hheld := h.placed.held key n
      rw [List.append_nil] at hheld
      rw [List.nil_append, List.mem_reverse]
      exact hheld
    room := Nat.zero_le _ }
  exact sound_evictEach hpending ⟨h.due.once, h.due.retired⟩

/-- What is left without the retired entries. -/
theorem entryAt?_takeRetired (n : Nat) :
    c.takeRetired.2.entryAt? n = if n ∈ c.retired then none else c.entryAt? n := by
  show (c.entries.filter fun e => !c.retired.contains e.number).find? (·.number == n) = _
  rw [List.find?_filter]
  by_cases hn : n ∈ c.retired
  · rw [if_pos hn]
    apply List.find?_eq_none.mpr
    intro e _ h
    obtain ⟨hleft, hnumber⟩ := of_decide_eq_true h
    rw [beq_iff_eq.mp hnumber, List.contains_iff_mem.mpr hn] at hleft
    cases hleft
  · rw [if_neg hn, entryAt?]
    apply congrArg (fun p => c.entries.find? p)
    funext e
    rw [Bool.eq_iff_iff, decide_eq_true_iff]
    refine ⟨And.right, fun hnumber => ⟨?_, hnumber⟩⟩
    rw [beq_iff_eq.mp hnumber, List.contains_eq_mem, decide_eq_false hn]
    rfl

/-- **Taking out what has retired** keeps both halves. -/
theorem Sound.takeRetired (h : Sound c) : Sound c.takeRetired.2 := by
  have hplaced : Placed [] c.takeRetired.2 := {
    numbers := h.placed.numbers.sublist (List.filter_sublist.map _)
    fresh := fun e he => h.placed.fresh e (List.mem_filter.mp he).1
    keys := h.placed.keys
    places := h.placed.places
    held := by
      intro key n
      refine (h.placed.held key n).trans ?_
      rw [entryAt?_takeRetired]
      by_cases hn : n ∈ c.retired
      · rw [if_pos hn]
        obtain ⟨e, he, hevicted, -⟩ := (h.due.retired n).mp hn
        constructor
        · rintro ⟨e', he', hheld, -⟩
          rw [he] at he'
          cases he'
          rw [hevicted] at hheld
          cases hheld
        · rintro ⟨e', he', -⟩
          cases he'
      · rw [if_neg hn]
        exact Iff.rfl
    room := h.placed.room }
  refine ⟨hplaced, List.nodup_nil, ?_⟩
  intro n
  show n ∈ [] ↔ c.takeRetired.2.IsDue n
  unfold IsDue
  rw [entryAt?_takeRetired]
  by_cases hn : n ∈ c.retired
  · simp [hn]
  · rw [if_neg hn]
    exact ⟨fun hmem => absurd hmem List.not_mem_nil,
      fun hdue => absurd ((h.due.retired n).mpr hdue) hn⟩

end OtherMoves

/-! ## What no move changes -/

section Frame

variable (c : StatementCache τ)

/-- An eviction takes no place away and leaves the capacity as it is. -/
theorem evict_frame (n : Nat) :
    (c.evict n).held = c.held ∧ (c.evict n).capacity = c.capacity := by
  unfold evict retireIfDone
  split
  · split <;> exact ⟨rfl, rfl⟩
  · exact ⟨rfl, rfl⟩

theorem capacity_release (n : Nat) : (c.release n).capacity = c.capacity := by
  unfold release retireIfDone
  split
  · split <;> rfl
  · rfl

theorem capacity_checkOut (sql : String) : (c.checkOut sql).2.capacity = c.capacity := by
  unfold checkOut
  cases c.find? sql with
  | some n => rfl
  | none =>
    show ((c.replaced? (c.keyOf sql)).elim (c.adopt sql (c.replaced? (c.keyOf sql)))
      fun h => (c.adopt sql (c.replaced? (c.keyOf sql))).evict h.2).capacity = c.capacity
    cases c.replaced? (c.keyOf sql) with
    | none => rfl
    | some h => exact (evict_frame _ h.2).2

theorem keyOf_evict (n : Nat) : (c.evict n).keyOf = c.keyOf := by
  unfold evict retireIfDone
  split
  · split <;> rfl
  · rfl

theorem keyOf_release (n : Nat) : (c.release n).keyOf = c.keyOf := by
  unfold release retireIfDone
  split
  · split <;> rfl
  · rfl

theorem keyOf_checkOut (sql : String) : (c.checkOut sql).2.keyOf = c.keyOf := by
  unfold checkOut
  cases c.find? sql with
  | some n => rfl
  | none =>
    show ((c.replaced? (c.keyOf sql)).elim (c.adopt sql (c.replaced? (c.keyOf sql)))
      fun h => (c.adopt sql (c.replaced? (c.keyOf sql))).evict h.2).keyOf = c.keyOf
    cases c.replaced? (c.keyOf sql) with
    | none => rfl
    | some h => exact keyOf_evict _ h.2

/-- **What no eviction changes**, evicting everything does not change either, but that no place is
left. The induction is on the places. -/
theorem evictAll_eq {α : Type} (f : StatementCache τ → α) (hf : ∀ c n, f (c.evict n) = f c) :
    f c.evictAll = f { c with held := [] } := by
  have heach : ∀ (places : List (UInt64 × Nat)) (c : StatementCache τ),
      f (places.foldl (fun c h => c.evict h.2) c) = f c := by
    intro places
    induction places with
    | nil =>
      intro c
      rfl
    | cons h places ih =>
      intro c
      rw [List.foldl_cons, ih, hf]
  exact heach c.held.reverse { c with held := [] }

/-- Evicting everything leaves nothing held, and the capacity as it is. -/
theorem evictAll_frame : c.evictAll.held = [] ∧ c.evictAll.capacity = c.capacity :=
  ⟨evictAll_eq c held fun c n => (evict_frame c n).1,
    evictAll_eq c capacity fun c n => (evict_frame c n).2⟩

theorem keyOf_evictAll : c.evictAll.keyOf = c.keyOf := evictAll_eq c keyOf keyOf_evict

end Frame

end StatementCache

end Rowbind
