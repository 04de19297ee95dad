import Rowbind.Proofs.StatementCache.Completed
import Rowbind.Proofs.StatementCache.Recency

/-!
# The cache is an ideal one

What a script of completed steps leaves on the shelf is what an ideal cache would hold: the texts
asked for since the last clearing, each once, the latest first, cut to the capacity
(`CacheUse.texts_runAll`). That needs that the texts asked for do not share keys; failed
preparations count as well, and leases do not matter.

A request prepares exactly where no statement is on the shelf with its text. A statement gets there
by a preparation that succeeds, and leaves with its text (`CacheUse.ready_iff_succeeded`). So within
one stay of a text on the shelf, preparing goes on until it succeeds, once.
-/

namespace Rowbind

/-! ## Lists without repetitions -/

section Lists

variable {α : Type} [DecidableEq α]

/-- Leaving elements out and leaving repetitions out can be done in either order. The induction is
on the length. -/
theorem eraseDups_filter (p : α → Bool) (l : List α) :
    (l.filter p).eraseDups = l.eraseDups.filter p := by
  generalize hn : l.length = n
  induction n using Nat.strongRecOn generalizing l with
  | ind n ih =>
    cases l with
    | nil => rfl
    | cons a l =>
      have hshorter : (l.filter fun b => !b == a).length < n := by
        have := List.length_filter_le (fun b => !b == a) l
        rw [← hn, List.length_cons]
        omega
      have hrest := ih _ hshorter (l.filter fun b => !b == a) rfl
      rw [List.eraseDups_cons]
      by_cases ha : p a = true
      · rw [List.filter_cons_of_pos ha, List.filter_cons_of_pos ha, List.eraseDups_cons, ← hrest,
          List.filter_filter, List.filter_filter]
        simp only [Bool.and_comm]
      · rw [List.filter_cons_of_neg ha, List.filter_cons_of_neg ha, ← hrest, List.filter_filter]
        congr 1
        refine List.filter_congr fun b _ => ?_
        by_cases hb : b = a
        · simp [hb, ha]
        · simp [hb]

theorem nodup_eraseDups (l : List α) : l.eraseDups.Nodup := by
  generalize hn : l.length = n
  induction n using Nat.strongRecOn generalizing l with
  | ind n ih =>
    cases l with
    | nil => exact List.nodup_nil
    | cons a l =>
      have hshorter : (l.filter fun b => !b == a).length < n := by
        have := List.length_filter_le (fun b => !b == a) l
        rw [← hn, List.length_cons]
        omega
      rw [List.eraseDups_cons, List.nodup_cons]
      exact ⟨by simp [List.mem_eraseDups], ih _ hshorter _ rfl⟩

/-- Of a list without repetitions that was cut, an element is left out and the rest cut once more:
as if it had not been cut before. -/
theorem take_filter_take {l : List α} (hl : l.Nodup) (a : α) (k : Nat) :
    ((l.take (k + 1)).filter (· ≠ a)).take k = (l.filter (· ≠ a)).take k := by
  induction l generalizing k with
  | nil => rfl
  | cons b l ih =>
    obtain ⟨hb, hl⟩ := List.nodup_cons.mp hl
    rw [List.take_succ_cons]
    by_cases hsame : b = a
    · have hall : ∀ l' : List α, l'.Sublist l → l'.filter (· ≠ a) = l' := fun l' hsub =>
        List.filter_eq_self.mpr fun x hx => decide_eq_true fun hx' =>
          hb (hsame ▸ hx' ▸ hsub.subset hx)
      rw [List.filter_cons_of_neg (by simp [hsame]), List.filter_cons_of_neg (by simp [hsame]),
        hall _ (List.take_sublist k l), hall l (.refl l), List.take_take, Nat.min_self]
    · rw [List.filter_cons_of_pos (by simp [hsame]), List.filter_cons_of_pos (by simp [hsame])]
      cases k with
      | zero => rfl
      | succ k => rw [List.take_succ_cons, List.take_succ_cons, ih hl k]

end Lists

namespace CacheUse

open StatementCache

/-! ## The shelf after a step -/

/-- **The shelf after a completed request**, for a text that shares its key with none on the
shelf. -/
theorem Ends.shelf {s : ScriptSession} {sql : String} {fails failsToClose : Bool}
    {done : CacheAnswer × ScriptSession} (h : Ends s sql fails failsToClose done)
    (hs : s.cache.Sound)
    (hkeys : ∀ text ∈ s.cache.texts, s.cache.keyOf text = s.cache.keyOf sql → text = sql) :
    ∃ statement, done.2.cache.shelf =
        (sql, statement) :: (s.cache.shelf.filter (·.1 ≠ sql)).take (s.cache.capacity - 1) ∧
      (statement ≠ none ↔ s.cache.ready? sql ≠ none ∨ fails = false) := by
  have hstart : (s.cache.begun sql).shelf = _ := shelf_begun hs hkeys
  cases h with
  | found hready hcache =>
    refine ⟨_, hcache.shelf.trans hstart, ?_⟩
    rw [hready]
    exact ⟨fun h => .inl h, fun _ => nofun⟩
  | failed hready hfails hcache =>
    refine ⟨_, hcache.shelf.trans hstart, ?_⟩
    rw [hready, hfails]
    exact ⟨fun h => .inl h, fun h => h.resolve_right nofun⟩
  | @prepared serial log size t hready hfails hcache hlog =>
    obtain ⟨places, hheld⟩ := held_checkOut (c := s.cache) sql
    have hplaced : Placed [] (s.cache.begun sql) := (hs.checkOut sql).takeRetired.placed
    refine ⟨some ⟨serial, sql, failsToClose⟩, ?_, ?_⟩
    · rw [hcache.shelf, shelf_fulfil hplaced hheld, hstart]
      rfl
    · exact ⟨fun _ => .inr hfails, fun _ => nofun⟩

/-- The text that a step asks for. -/
def text? : CacheUse → Option String
  | request sql .. => some sql
  | _ => none

/-- The texts asked for since the last clearing, the latest first, after one more step. -/
def ask (texts : List String) : CacheUse → List String
  | request sql .. => sql :: texts
  | clear => []
  | _ => texts

/-- **The texts that a script asks for since its last clearing**, the latest first. -/
def asked (us : List CacheUse) : List String := us.foldl ask []

section Step

variable {s : ScriptSession} (hs : s.cache.Sound) {u : CacheUse} (hu : u.Completed)
include hs hu

variable (hkeys : ∀ sql, u.text? = some sql → ∀ text ∈ s.cache.texts,
  s.cache.keyOf text = s.cache.keyOf sql → text = sql)
include hkeys

/-- **A completed step keeps the shelf that of an ideal cache.** -/
theorem texts_run {texts : List String}
    (h : s.cache.texts = texts.eraseDups.take s.cache.capacity) :
    (run u s).2.cache.texts = (ask texts u).eraseDups.take s.cache.capacity := by
  cases u with
  | inspect hold => exact h
  | release hold =>
    have hshelf : (run (.release hold) s).2.cache.shelf = s.cache.shelf :=
      (eased_giveBackKept hold s).shelf
    rw [StatementCache.texts, hshelf]
    exact h
  | clear =>
    show (s.cache.evictAll.takeRetired.2).shelf.map Prod.fst = [].take _
    rw [shelf_takeRetired hs.evictAll, shelf_evictAll, List.take_nil]
    rfl
  | request sql hold fails failsToClose during =>
    obtain rfl : during = [] := hu
    have hends := ends_request hs sql hold fails failsToClose
    generalize run (.request sql hold fails failsToClose []) s = done at hends ⊢
    obtain ⟨statement, hshelf, -⟩ := hends.shelf hs (hkeys sql rfl)
    have hpos := s.cache.capacity_pos
    obtain ⟨k, hk⟩ : ∃ k, s.cache.capacity = k + 1 := ⟨s.cache.capacity - 1, by omega⟩
    have hothers : ((s.cache.shelf.filter (·.1 ≠ sql)).take k).map Prod.fst =
        (s.cache.texts.filter (· ≠ sql)).take k := by
      rw [List.map_take, StatementCache.texts, List.filter_map]
      rfl
    have hspelling : (fun text : String => !text == sql) = fun text => decide (text ≠ sql) := by
      funext text
      by_cases hsame : text = sql <;> simp [hsame]
    rw [StatementCache.texts, hshelf, List.map_cons, hk, Nat.add_sub_cancel, hothers, h, hk,
      take_filter_take (nodup_eraseDups texts), ask, List.eraseDups_cons, eraseDups_filter,
      List.take_succ_cons, hspelling]

/-- **Which texts have a statement after a completed step**: of those on the shelf, the ones that
had one, and the one that was prepared for. -/
theorem ready_run (hafter : (run u s).2.cache.Sound) (text : String) :
    (run u s).2.cache.ready? text ≠ none ↔ text ∈ (run u s).2.cache.texts ∧
      (s.cache.ready? text ≠ none ∨
        ∃ hold failsToClose, u = .request text hold false failsToClose []) := by
  have hkept : (run u s).2.cache.shelf = s.cache.shelf →
      (∀ hold failsToClose, u ≠ .request text hold false failsToClose []) →
      ((run u s).2.cache.ready? text ≠ none ↔ text ∈ (run u s).2.cache.texts ∧
        (s.cache.ready? text ≠ none ∨
          ∃ hold failsToClose, u = .request text hold false failsToClose [])) := by
    intro hshelf hother
    rw [ready?_ne_none_iff hafter.placed, StatementCache.texts, hshelf,
      ready?_ne_none_iff hs.placed]
    constructor
    · rintro ⟨t, ht⟩
      exact ⟨List.mem_map_of_mem ht, .inl ⟨t, ht⟩⟩
    · rintro ⟨-, hready | ⟨hold, failsToClose, rfl⟩⟩
      · exact hready
      · exact absurd rfl (hother hold failsToClose)
  cases u with
  | inspect hold => exact hkept rfl fun _ _ h => by cases h
  | release hold =>
    exact hkept (eased_giveBackKept hold s).shelf fun _ _ h => by cases h
  | clear =>
    have hshelf : (run .clear s).2.cache.shelf = [] :=
      (shelf_takeRetired hs.evictAll).trans (shelf_evictAll s.cache)
    rw [ready?_ne_none_iff hafter.placed, StatementCache.texts, hshelf]
    exact ⟨fun h => absurd h.choose_spec List.not_mem_nil, fun h => absurd h.1 List.not_mem_nil⟩
  | request sql hold fails failsToClose during =>
    obtain rfl : during = [] := hu
    have hends := ends_request hs sql hold fails failsToClose
    generalize run (.request sql hold fails failsToClose []) s = done at hends hafter ⊢
    obtain ⟨statement, hshelf, hstatement⟩ := hends.shelf hs (hkeys sql rfl)
    rw [ready?_ne_none_iff hafter.placed]
    by_cases hsame : text = sql
    · subst hsame
      have hfront : (text, statement) ∈ done.2.cache.shelf := by
        rw [hshelf]
        exact List.mem_cons_self
      constructor
      · rintro ⟨t, ht⟩
        have hsome : statement ≠ none := by
          rw [← statement_unique hafter.placed ht hfront]
          exact Option.some_ne_none t
        refine ⟨List.mem_map_of_mem hfront, ?_⟩
        rcases hstatement.mp hsome with hready | rfl
        · exact .inl hready
        · exact .inr ⟨hold, failsToClose, rfl⟩
      · rintro ⟨-, hready⟩
        have hsome : statement ≠ none := by
          refine hstatement.mpr (hready.imp_right ?_)
          rintro ⟨_, _, heq⟩
          cases heq
          rfl
        obtain ⟨t, rfl⟩ := Option.ne_none_iff_exists'.mp hsome
        exact ⟨t, hfront⟩
    · have hbefore : ∀ x, (text, x) ∈ done.2.cache.shelf → (text, x) ∈ s.cache.shelf := by
        intro x hx
        rw [hshelf, List.mem_cons] at hx
        rcases hx with heq | hx
        · cases heq
          exact absurd rfl hsame
        · exact (List.mem_filter.mp (List.mem_of_mem_take hx)).1
      constructor
      · rintro ⟨t, ht⟩
        exact ⟨List.mem_map_of_mem ht,
          .inl ((ready?_ne_none_iff hs.placed).mpr ⟨t, hbefore _ ht⟩)⟩
      · rintro ⟨hmem, hready | ⟨_, _, heq⟩⟩
        · obtain ⟨⟨_, x⟩, hx, rfl⟩ := List.mem_map.mp hmem
          obtain ⟨t, ht⟩ := (ready?_ne_none_iff hs.placed).mp hready
          exact ⟨t, statement_unique hs.placed (hbefore x hx) ht ▸ hx⟩
        · cases heq
          exact absurd rfl hsame

end Step

/-! ## Runs -/

/-- **Whether the texts that a script asks for share no key.** -/
def Unshared (keyOf : String → UInt64) (us : List CacheUse) : Prop :=
  ∀ a ∈ us.filterMap text?, ∀ b ∈ us.filterMap text?, keyOf a = keyOf b → a = b

/-- **Whether a text is on the shelf throughout some steps**, from their beginning to their end. -/
def Stays (s : ScriptSession) (sql : String) (us : List CacheUse) : Prop :=
  ∀ mid rest, us = mid ++ rest → sql ∈ (runAll mid s).2.cache.texts

/-- What was asked for since the last clearing was asked for. -/
theorem mem_of_mem_asked {us : List CacheUse} {text : String} (h : text ∈ asked us) :
    text ∈ us.filterMap text? := by
  induction us using List.reverseRecOn with
  | nil => exact absurd h List.not_mem_nil
  | append_singleton us u ih =>
    rw [asked, List.foldl_append] at h
    rw [List.filterMap_append, List.mem_append]
    cases u with
    | request sql hold fails failsToClose during =>
      rcases List.mem_cons.mp h with rfl | h
      · exact .inr List.mem_cons_self
      · exact .inl (ih h)
    | inspect hold => exact .inl (ih h)
    | release hold => exact .inl (ih h)
    | clear => exact absurd h List.not_mem_nil

section Run

variable {capacity : Nat} {keyOf : String → UInt64} {c : StatementCache ScriptedStatement}
  (hnew : StatementCache.new? capacity keyOf = some c) {us : List CacheUse}
  (hus : ∀ u ∈ us, u.Completed)
include hnew hus

/-- Where the shelf is that of an ideal cache, nothing on it shares its key with what the next step
asks for: that was asked for as well. -/
theorem apart_of_texts {u : CacheUse} (hkeys : Unshared keyOf (us ++ [u]))
    (htexts : (runAll us ⟨c, {}⟩).2.cache.texts = (asked us).eraseDups.take capacity) :
    ∀ sql, u.text? = some sql → ∀ text ∈ (runAll us ⟨c, {}⟩).2.cache.texts,
      (runAll us ⟨c, {}⟩).2.cache.keyOf text = (runAll us ⟨c, {}⟩).2.cache.keyOf sql →
      text = sql := by
  intro sql hsql text htext hsame
  rw [(settings_runAll hnew hus).2] at hsame
  rw [htexts] at htext
  have hasked := mem_of_mem_asked (List.mem_eraseDups.mp (List.mem_of_mem_take htext))
  refine hkeys text ?_ sql ?_ hsame
  · rw [List.filterMap_append]
    exact List.mem_append_left _ hasked
  · exact List.mem_filterMap.mpr ⟨u, List.mem_append_right _ List.mem_cons_self, hsql⟩

omit hnew hus in
/-- Fewer steps share no more keys. -/
theorem Unshared.before {vs : List CacheUse} (hkeys : Unshared keyOf (us ++ vs)) :
    Unshared keyOf us := by
  rw [Unshared, List.filterMap_append] at hkeys
  exact fun a ha b hb => hkeys a (List.mem_append_left _ ha) b (List.mem_append_left _ hb)

/-- **What is on the shelf is what an ideal cache would hold.** The induction is on the last
step. -/
theorem texts_runAll (hkeys : Unshared keyOf us) :
    (runAll us ⟨c, {}⟩).2.cache.texts = (asked us).eraseDups.take capacity := by
  induction us using List.reverseRecOn with
  | nil =>
    unfold new? at hnew
    split at hnew
    · cases hnew
      exact List.take_nil.symm
    · cases hnew
  | append_singleton us u ih =>
    obtain ⟨hus', hu⟩ := List.forall_mem_append.mp hus
    have htexts := ih hus' hkeys.before
    have hcapacity := (settings_runAll hnew hus').1
    have hstep := texts_run (sound_runAll hnew hus') (List.forall_mem_singleton.mp hu)
      (apart_of_texts hnew hus' hkeys htexts) (htexts.trans (by rw [hcapacity]))
    rw [runAll_concat, hstep, hcapacity, asked, asked, List.foldl_append]
    rfl

/-! ## Preparations -/

omit hnew hus in
/-- A text that stays, and is on the shelf after one more step, stays throughout. -/
theorem Stays.concat {s : ScriptSession} {sql : String} {u : CacheUse} (h : Stays s sql us)
    (hlast : sql ∈ (runAll (us ++ [u]) s).2.cache.texts) : Stays s sql (us ++ [u]) := by
  intro mid rest hsplit
  rcases List.eq_nil_or_concat' rest with rfl | ⟨rest', u', rfl⟩
  · rw [List.append_nil] at hsplit
    rwa [← hsplit]
  · rw [← List.append_assoc] at hsplit
    exact h mid rest' (List.append_inj_left' hsplit rfl)

/-- **A text has a statement when one was prepared for it since it came onto the shelf.** The
induction is on the last step. -/
theorem ready_iff_succeeded (hkeys : Unshared keyOf us) (sql : String) :
    (runAll us ⟨c, {}⟩).2.cache.ready? sql ≠ none ↔
      ∃ before hold failsToClose after,
        us = before ++ .request sql hold false failsToClose [] :: after ∧
        (runAll before ⟨c, {}⟩).2.cache.ready? sql = none ∧
        Stays (runAll (before ++ [.request sql hold false failsToClose []]) ⟨c, {}⟩).2 sql
          after := by
  induction us using List.reverseRecOn with
  | nil =>
    constructor
    · unfold new? at hnew
      split at hnew
      · cases hnew
        exact fun h => absurd rfl h
      · cases hnew
    · rintro ⟨before, hold, failsToClose, after, hsplit, -⟩
      cases before <;> cases hsplit
  | append_singleton us u ih =>
    obtain ⟨hus', hu⟩ := List.forall_mem_append.mp hus
    have hsound := sound_runAll hnew hus
    rw [runAll_concat] at hsound
    have hstep := ready_run (sound_runAll hnew hus') (List.forall_mem_singleton.mp hu)
      (apart_of_texts hnew hus' hkeys (texts_runAll hnew hus' hkeys.before)) hsound sql
    have ih := ih hus' hkeys.before
    rw [runAll_concat, hstep, ← runAll_concat]
    constructor
    · rintro ⟨hlast, hready⟩
      by_cases hbefore : (runAll us ⟨c, {}⟩).2.cache.ready? sql = none
      · obtain ⟨hold, failsToClose, rfl⟩ := hready.resolve_left (fun h => h hbefore)
        refine ⟨us, hold, failsToClose, [], rfl, hbefore, fun mid rest hsplit => ?_⟩
        rw [(List.append_eq_nil_iff.mp hsplit.symm).1]
        exact hlast
      · obtain ⟨before, hold, failsToClose, after, rfl, hnone, hstays⟩ := ih.mp hbefore
        refine ⟨before, hold, failsToClose, after ++ [u], List.append_assoc .., hnone,
          hstays.concat ?_⟩
        rw [runAll_runAll, List.append_assoc]
        rwa [List.append_assoc] at hlast
    · rintro ⟨before, hold, failsToClose, after, hsplit, hnone, hstays⟩
      rcases List.eq_nil_or_concat' after with rfl | ⟨after, u', rfl⟩
      · obtain ⟨rfl, hu'⟩ := List.append_inj' hsplit rfl
        cases hu'
        exact ⟨hstays [] [] rfl, .inr ⟨hold, failsToClose, rfl⟩⟩
      · rw [← List.cons_append, ← List.append_assoc] at hsplit
        obtain ⟨rfl, hu'⟩ := List.append_inj' hsplit rfl
        cases hu'
        have hlast := hstays (after ++ [u]) [] (List.append_nil _).symm
        rw [runAll_runAll, List.append_assoc] at hlast
        refine ⟨by rwa [List.append_assoc], .inl (ih.mpr ?_)⟩
        refine ⟨before, hold, failsToClose, after, rfl, hnone, fun mid rest hmid => ?_⟩
        exact hstays mid (rest ++ [u]) (by rw [hmid, List.append_assoc])

/-- A request of a script prepares where it finds no statement. -/
theorem prepares_iff (sql : String) (hold : Option String) (fails failsToClose : Bool) :
    (run (.request sql hold fails failsToClose []) (runAll us ⟨c, {}⟩).2).1.prepares = true ↔
      (runAll us ⟨c, {}⟩).2.cache.ready? sql = none :=
  (ends_request (sound_runAll hnew hus) sql hold fails failsToClose).prepares_iff

/-- **A request prepares exactly where its text is not on the shelf, or has only been prepared for
in vain** since it came there. -/
theorem prepares_iff_failed (hkeys : Unshared keyOf us) (sql : String) (hold : Option String)
    (fails failsToClose : Bool) :
    (run (.request sql hold fails failsToClose []) (runAll us ⟨c, {}⟩).2).1.prepares = true ↔
      sql ∉ (runAll us ⟨c, {}⟩).2.cache.texts ∨
      ∀ earlier hold' fails' failsToClose' since,
        us = earlier ++ .request sql hold' fails' failsToClose' [] :: since →
        Stays (runAll (earlier ++ [.request sql hold' fails' failsToClose' []]) ⟨c, {}⟩).2 sql
          since →
        (run (.request sql hold' fails' failsToClose' [])
          (runAll earlier ⟨c, {}⟩).2).1.prepares = true →
        fails' = true := by
  have hready := ready_iff_succeeded hnew hus hkeys sql
  rw [prepares_iff hnew hus]
  constructor
  · intro hnone
    right
    rintro earlier hold' fails' failsToClose' since rfl hstays hprepares
    rw [prepares_iff hnew fun u hu => hus u (List.mem_append_left _ hu)] at hprepares
    cases fails' with
    | true => rfl
    | false =>
      exact absurd hnone
        (hready.mpr ⟨earlier, hold', failsToClose', since, rfl, hprepares, hstays⟩)
  · intro hfailed
    by_contra hne
    obtain ⟨earlier, hold', failsToClose', since, rfl, hnone, hstays⟩ := hready.mp hne
    rcases hfailed with habsent | hfailed
    · obtain ⟨t, ht⟩ := (ready?_ne_none_iff (sound_runAll hnew hus).placed).mp hne
      exact habsent (List.mem_map_of_mem ht)
    · have hprepares := (prepares_iff hnew (fun u hu => hus u (List.mem_append_left _ hu))
        sql hold' false failsToClose').mpr hnone
      cases hfailed earlier hold' false failsToClose' since rfl hstays hprepares

/-- **Between two preparations that succeed, the text was not on the shelf.** -/
theorem not_stays_of_prepares {earlier since : List CacheUse} {sql : String}
    {hold hold' : Option String} {failsToClose failsToClose' : Bool}
    (hsplit : us = earlier ++ .request sql hold false failsToClose [] :: since)
    (hkeys : Unshared keyOf us)
    (hfirst : (run (.request sql hold false failsToClose [])
      (runAll earlier ⟨c, {}⟩).2).1.prepares = true)
    (hsecond : (run (.request sql hold' false failsToClose' [])
      (runAll us ⟨c, {}⟩).2).1.prepares = true) :
    ¬ Stays (runAll (earlier ++ [.request sql hold false failsToClose []]) ⟨c, {}⟩).2 sql
      since := by
  intro hstays
  have hearlier : ∀ u ∈ earlier, u.Completed := fun u hu =>
    hus u (hsplit ▸ List.mem_append_left _ hu)
  rw [prepares_iff hnew hus] at hsecond
  rw [prepares_iff hnew hearlier] at hfirst
  exact (ready_iff_succeeded hnew hus hkeys sql).mpr
    ⟨earlier, hold, failsToClose, since, hsplit, hfirst, hstays⟩ hsecond

end Run

/-- **The cache is an ideal one.** For every script of completed steps: where the texts asked for do
not share keys, the shelf has the texts asked for since the last clearing, each once, the latest
first, cut to the capacity; a request prepares exactly if its text is not on the shelf, or if every
preparation failed that was run for it since it came there; and between two preparations for a text
that succeed, it was not on the shelf. Whether or not they share keys, a lease is on a statement
that was prepared for the text asked for. -/
theorem ideal_cache {capacity : Nat} {keyOf : String → UInt64}
    {c : StatementCache ScriptedStatement}
    (hnew : StatementCache.new? capacity keyOf = some c) (us : List CacheUse)
    (hus : ∀ u ∈ us, u.Completed) :
    let after (us : List CacheUse) := (runAll us ⟨c, {}⟩).2
    let request (sql : String) (hold : Option String) (fails failsToClose : Bool) :=
      CacheUse.request sql hold fails failsToClose []
    (Unshared keyOf us →
      (after us).cache.texts = (asked us).eraseDups.take capacity ∧
      (∀ before sql hold fails failsToClose rest,
        us = before ++ request sql hold fails failsToClose :: rest →
        ((run (request sql hold fails failsToClose) (after before)).1.prepares = true ↔
          sql ∉ (after before).cache.texts ∨
          ∀ earlier hold' fails' failsToClose' since,
            before = earlier ++ request sql hold' fails' failsToClose' :: since →
            Stays (after (earlier ++ [request sql hold' fails' failsToClose'])) sql since →
            (run (request sql hold' fails' failsToClose') (after earlier)).1.prepares = true →
            fails' = true)) ∧
      ∀ earlier sql hold failsToClose since hold' failsToClose' rest,
        us = earlier ++ request sql hold false failsToClose ::
          (since ++ request sql hold' false failsToClose' :: rest) →
        (run (request sql hold false failsToClose) (after earlier)).1.prepares = true →
        (run (request sql hold' false failsToClose') (after
          (earlier ++ request sql hold false failsToClose :: since))).1.prepares = true →
        ¬ Stays (after (earlier ++ [request sql hold false failsToClose])) sql since) ∧
    ∀ before sql hold fails failsToClose rest serial text log size during,
      us = before ++ request sql hold fails failsToClose :: rest →
      (run (request sql hold fails failsToClose) (after before)).1 =
        .mk (.ok (.leased serial text)) log size during →
      text = sql ∧
        .prepared serial sql ∈ CacheAnswer.eventsAll (runAll before ⟨c, {}⟩).1 ++ log := by
  intro after request
  have hbefore : ∀ {before rest : List CacheUse}, us = before ++ rest →
      ∀ u ∈ before, u.Completed := by
    rintro before rest rfl u hu
    exact hus u (List.mem_append_left _ hu)
  refine ⟨fun hkeys => ⟨texts_runAll hnew hus hkeys, ?_, ?_⟩, ?_⟩
  · intro before sql hold fails failsToClose rest hsplit
    exact prepares_iff_failed hnew (hbefore hsplit) (hsplit ▸ hkeys).before sql hold fails
      failsToClose
  · intro earlier sql hold failsToClose since hold' failsToClose' rest hsplit hfirst hsecond
    rw [← List.cons_append, ← List.append_assoc] at hsplit
    exact not_stays_of_prepares hnew (hbefore hsplit) rfl (hsplit ▸ hkeys).before hfirst hsecond
  · intro before sql hold fails failsToClose rest serial text log size during hsplit hanswer
    exact leased_for hnew (hbefore hsplit) hanswer

/-- Room for two texts, of which the first cannot be prepared at first: asked for again it is
prepared again, and a third text takes the place of the other one, on which a lease is kept. -/
theorem ideal_cache_of_two :
    let keyOf (sql : String) := UInt64.ofNat sql.length
    let c : StatementCache ScriptedStatement :=
      { capacity := 2, capacity_pos := by decide, keyOf := keyOf }
    let before : List CacheUse :=
      [.request "a" none true false [], .request "bb" (some "kept") false false []]
    let us := before ++
      [.request "a" none false false [], .request "ccc" none false false [], .release "kept"]
    (runAll us ⟨c, {}⟩).2.cache.texts = ["ccc", "a"] ∧
      (run (.request "a" none false false []) (runAll before ⟨c, {}⟩).2).1.prepares = true := by
  intro keyOf c before us
  have hnew : StatementCache.new? 2 keyOf = some c := rfl
  have hus : ∀ u ∈ us, u.Completed := by simp [us, before, Completed]
  have hkeys : Unshared keyOf us := by
    unfold Unshared
    decide
  obtain ⟨hideal, -⟩ := ideal_cache hnew us hus
  obtain ⟨htexts, hprepares, -⟩ := hideal hkeys
  refine ⟨htexts.trans rfl, (hprepares before "a" none false false _ rfl).mpr (.inr ?_)⟩
  intro earlier hold fails failsToClose since hsplit _ _
  rcases earlier with _ | ⟨_, _ | ⟨_, earlier⟩⟩
  · simp only [before, List.nil_append, List.cons.injEq, CacheUse.request.injEq] at hsplit
    exact hsplit.1.2.2.1.symm
  · simp [before] at hsplit
  · simp [before] at hsplit

end CacheUse

end Rowbind
