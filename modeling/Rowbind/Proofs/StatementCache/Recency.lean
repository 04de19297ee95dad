import Mathlib.Data.List.Nodup
import Rowbind.Proofs.StatementCache.Labels

/-!
# The cache as a shelf

What a cache holds is a **shelf**: texts, the most recently asked for first, each with its statement
once prepared (`shelf`). Where no text on the shelf shares its key with the one asked for, a request
takes that text out of the shelf, puts it in front, and cuts the shelf to the capacity
(`shelf_checkOut`). That is what an ideal cache does. Ending uses and closing what has retired do
nothing to the shelf.

Whether a request finds a statement is seen on the shelf too (`ready?_eq_some_iff`), whether or not
texts share keys.
-/

namespace Rowbind

namespace StatementCache

variable {τ : Type} {c : StatementCache τ}

/-- What the entries in some places are labelled. -/
def labels (c : StatementCache τ) (places : List (UInt64 × Nat)) : List (String × Option τ) :=
  places.filterMap fun place => c.label? place.2

/-- **The shelf**: the texts of the held entries, the most recent first, with their statements. -/
def shelf (c : StatementCache τ) : List (String × Option τ) := c.labels c.held

/-- The texts on the shelf. -/
def texts (c : StatementCache τ) : List String := c.shelf.map Prod.fst

/-! ## Moves that leave the shelf -/

theorem labels_congr {c' : StatementCache τ} {places : List (UInt64 × Nat)}
    (hlabels : ∀ place ∈ places, c'.label? place.2 = c.label? place.2) :
    c'.labels places = c.labels places :=
  List.filterMap_congr hlabels

theorem labels_cons {key : UInt64} {n : Nat} {l : String × Option τ} (hn : c.label? n = some l)
    (places : List (UInt64 × Nat)) : c.labels ((key, n) :: places) = l :: c.labels places :=
  List.filterMap_cons_some hn

/-- A move that keeps the places, and the labels of the entries in them, keeps the shelf. -/
theorem shelf_congr {c' : StatementCache τ} (hheld : c'.held = c.held)
    (hlabels : ∀ place ∈ c.held, c'.label? place.2 = c.label? place.2) :
    c'.shelf = c.shelf := by
  rw [shelf, hheld]
  exact labels_congr hlabels

theorem held_retireIfDone (n : Nat) : (c.retireIfDone n).held = c.held := by
  unfold retireIfDone
  split
  · split <;> rfl
  · rfl

/-- Ending a use leaves the shelf. -/
theorem shelf_release (n : Nat) : (c.release n).shelf = c.shelf :=
  shelf_congr (held_retireIfDone n) fun place _ => label?_release n place.2

theorem Eased.shelf {c' : StatementCache τ} (h : Eased c c') : c'.shelf = c.shelf := by
  rcases h with rfl | ⟨n, rfl⟩
  · rfl
  · exact shelf_release n

/-- The entry in a place. -/
theorem Placed.entry (h : Placed [] c) {place : UInt64 × Nat} (hplace : place ∈ c.held) :
    ∃ e, c.entryAt? place.2 = some e ∧ e.evicted = false ∧ c.keyOf e.sql = place.1 :=
  (h.held place.1 place.2).mp (List.mem_append_left _ hplace)

/-- Closing what has retired leaves the shelf: what is held has not retired. -/
theorem shelf_takeRetired (h : Sound c) : c.takeRetired.2.shelf = c.shelf := by
  refine shelf_congr rfl fun place hplace => ?_
  obtain ⟨e, he, hevicted, -⟩ := h.placed.entry hplace
  have hstays : place.2 ∉ c.retired := h.due.not_mem he fun hdue => by
    rw [hevicted] at hdue
    cases hdue.1
  rw [label?, use?, entryAt?_takeRetired, if_neg hstays, label?, use?]

/-- Evicting everything leaves the shelf empty. -/
theorem shelf_evictAll (c : StatementCache τ) : c.evictAll.shelf = [] := by
  rw [shelf, (evictAll_frame c).1]
  rfl

/-! ## What is on the shelf -/

section Placed

variable (h : Placed [] c)
include h

/-- A text on the shelf is that of an entry in the place of its key. -/
theorem mem_shelf {sql : String} {statement : Option τ} :
    (sql, statement) ∈ c.shelf ↔ ∃ n e, (c.keyOf sql, n) ∈ c.held ∧ c.entryAt? n = some e ∧
      e.sql = sql ∧ e.statement = statement := by
  rw [shelf, labels, List.mem_filterMap]
  constructor
  · rintro ⟨⟨key, n⟩, hplace, hlabel⟩
    obtain ⟨e, he, -, rfl⟩ := h.entry hplace
    rw [label?_of_entry he] at hlabel
    cases hlabel
    exact ⟨n, e, hplace, he, rfl, rfl⟩
  · rintro ⟨n, e, hplace, he, rfl, rfl⟩
    exact ⟨(c.keyOf e.sql, n), hplace, label?_of_entry he⟩

/-- The keys of the texts on the shelf are those of the places. -/
theorem map_keyOf_texts : c.texts.map c.keyOf = c.held.map Prod.fst := by
  rw [texts, shelf, labels, List.map_map, List.map_filterMap, ← List.filterMap_eq_map]
  refine List.filterMap_congr fun place hplace => ?_
  obtain ⟨e, he, -, hkey⟩ := h.entry hplace
  rw [label?_of_entry he]
  exact congrArg some hkey

/-- No text is on the shelf twice. -/
theorem nodup_texts : c.texts.Nodup := by
  have hkeys := h.keys
  rw [← map_keyOf_texts h] at hkeys
  exact hkeys.of_map _

/-- Every place shows a text. -/
theorem length_labels {places : List (UInt64 × Nat)} (hplaces : ∀ place ∈ places, place ∈ c.held) :
    (c.labels places).length = places.length := by
  rw [labels, List.filterMap_length_eq_length]
  intro place hplace
  obtain ⟨e, he, -⟩ := h.entry (hplaces place hplace)
  rw [label?_of_entry he]
  rfl

theorem length_shelf : c.shelf.length = c.held.length := length_labels h fun _ hplace => hplace

/-- What the most recent places show stands first on the shelf. -/
theorem labels_take (k : Nat) : c.labels (c.held.take k) = c.shelf.take k := by
  have hsplit : c.shelf = c.labels (c.held.take k) ++ c.labels (c.held.drop k) := by
    rw [labels, labels, ← List.filterMap_append, List.take_append_drop]
    rfl
  have hfirst := length_labels h fun place => List.mem_of_mem_take (i := k)
  rw [List.length_take] at hfirst
  rcases Nat.le_total k c.held.length with hk | hk
  · rw [hsplit, List.take_left' (hfirst.trans (Nat.min_eq_left hk))]
  · rw [List.take_of_length_le hk, List.take_of_length_le]
    · rfl
    · rw [length_shelf h]
      exact hk

/-- **The held entry found for a text** is the one in its place that was made for it. -/
theorem find?_eq_some_iff {sql : String} {n : Nat} : c.find? sql = some n ↔
    (c.keyOf sql, n) ∈ c.held ∧ ∃ e, c.entryAt? n = some e ∧ e.sql = sql := by
  constructor
  · intro hfind
    obtain ⟨hplace, e, he, -, hsql⟩ := find?_spec h hfind
    exact ⟨hplace, e, he, hsql⟩
  · rintro ⟨hplace, e, he, hsql⟩
    have hlookup : c.held.lookup (c.keyOf sql) = some n := by
      cases hn : c.held.lookup (c.keyOf sql) with
      | none => exact absurd (List.mem_map_of_mem hplace) (not_mem_of_lookup hn)
      | some m =>
        have hsame := List.inj_on_of_nodup_map h.keys (mem_of_lookup hn) hplace rfl
        exact congrArg (fun place => some place.2) hsame
    rw [find?, hlookup, Option.filter_some, he]
    simp [hsql]

/-- A text is on the shelf when an entry is found for it. -/
theorem mem_texts_iff {sql : String} : sql ∈ c.texts ↔ ∃ n, c.find? sql = some n := by
  rw [texts, List.mem_map]
  constructor
  · rintro ⟨⟨_, statement⟩, hmem, rfl⟩
    obtain ⟨n, e, hplace, he, hsql, -⟩ := (mem_shelf h).mp hmem
    exact ⟨n, (find?_eq_some_iff h).mpr ⟨hplace, e, he, hsql⟩⟩
  · rintro ⟨n, hfind⟩
    obtain ⟨hplace, e, he, hsql⟩ := (find?_eq_some_iff h).mp hfind
    exact ⟨(sql, e.statement), (mem_shelf h).mpr ⟨n, e, hplace, he, hsql, rfl⟩, rfl⟩

/-- **A request finds the statement that is on the shelf with its text.** -/
theorem ready?_eq_some_iff {sql : String} {t : τ} :
    c.ready? sql = some t ↔ (sql, some t) ∈ c.shelf := by
  rw [ready?, Option.bind_eq_some_iff, mem_shelf h]
  constructor
  · rintro ⟨n, hfind, hstatement⟩
    obtain ⟨hplace, e, he, hsql⟩ := (find?_eq_some_iff h).mp hfind
    rw [statement?, he] at hstatement
    exact ⟨n, e, hplace, he, hsql, hstatement⟩
  · rintro ⟨n, e, hplace, he, hsql, hstatement⟩
    refine ⟨n, (find?_eq_some_iff h).mpr ⟨hplace, e, he, hsql⟩, ?_⟩
    rw [statement?, he]
    exact hstatement

/-- A text has a statement when it is on the shelf with one. -/
theorem ready?_ne_none_iff {sql : String} :
    c.ready? sql ≠ none ↔ ∃ t, (sql, some t) ∈ c.shelf := by
  rw [Option.ne_none_iff_exists']
  exact exists_congr fun t => ready?_eq_some_iff h

/-- A text is on the shelf with one statement at most. -/
theorem statement_unique {sql : String} {x y : Option τ} (hx : (sql, x) ∈ c.shelf)
    (hy : (sql, y) ∈ c.shelf) : x = y :=
  congrArg Prod.snd (List.inj_on_of_nodup_map (nodup_texts h) hx hy rfl)

end Placed

/-! ## A request -/

/-- Beginning a use leaves the shelf. -/
theorem shelf_join (n : Nat) : (c.edit n CacheEntry.join).shelf = c.shelf :=
  shelf_congr rfl fun place _ => label?_join n place.2

/-- **Moving an entry to the front** moves its text there. -/
theorem shelf_promote (h : Placed [] c) {sql : String} {n : Nat}
    (hkeys : ∀ text ∈ c.texts, c.keyOf text = c.keyOf sql → text = sql)
    (hfind : c.find? sql = some n) :
    (c.promote (c.keyOf sql) n).shelf =
      (sql, c.statement? n) :: c.shelf.filter (·.1 ≠ sql) := by
  obtain ⟨hplace, e, he, rfl⟩ := (find?_eq_some_iff h).mp hfind
  have hrest : c.labels (c.held.filter (·.1 ≠ c.keyOf e.sql)) =
      c.shelf.filter (·.1 ≠ e.sql) := by
    rw [shelf, labels, labels, List.filterMap_filter, List.filter_filterMap]
    refine List.filterMap_congr fun place hplace => ?_
    obtain ⟨e', he', -, hkey⟩ := h.entry hplace
    have hmem : e'.sql ∈ c.texts :=
      List.mem_map.mpr ⟨(e'.sql, e'.statement),
        (mem_shelf h).mpr ⟨place.2, e', hkey ▸ hplace, he', rfl, rfl⟩, rfl⟩
    have hiff : place.1 = c.keyOf e.sql ↔ e'.sql = e.sql := by
      rw [← hkey]
      exact ⟨hkeys e'.sql hmem, congrArg c.keyOf⟩
    rw [label?_of_entry he', Option.filter_some]
    by_cases hsame : e'.sql = e.sql
    · simp [hiff, hsame]
    · simp [hiff, hsame]
  have hstatement : c.statement? n = e.statement := by rw [statement?, he, Option.bind_some]
  rw [hstatement, ← hrest]
  exact labels_cons (c := c) (label?_of_entry he) _

/-- A new entry's text stands in front of those that keep their places. -/
theorem shelf_insert (h : Placed [] c) (sql : String) :
    (c.insert sql).2.shelf =
      (sql, none) ::
        c.labels (c.held.filter fun place => some place ≠ c.replaced? (c.keyOf sql)) := by
  have hadopt : (c.insert sql).2.shelf = (c.adopt sql (c.replaced? (c.keyOf sql))).shelf := by
    show ((c.replaced? (c.keyOf sql)).elim (c.adopt sql (c.replaced? (c.keyOf sql)))
      fun out => (c.adopt sql (c.replaced? (c.keyOf sql))).evict out.2).shelf = _
    cases hout : c.replaced? (c.keyOf sql) with
    | none => rfl
    | some out =>
      refine shelf_congr (evict_frame _ out.2).1 fun place _ => ?_
      exact label?_evict out.2 place.2
  have hfront : (c.adopt sql (c.replaced? (c.keyOf sql))).label? c.made = some (sql, none) := by
    rw [label?, use?, entryAt?_adopt h, if_pos rfl]
    rfl
  rw [hadopt]
  refine (labels_cons hfront _).trans (congrArg _ (labels_congr fun place hplace => ?_))
  have hne : place.2 ≠ c.made := fun heq => by
    obtain ⟨e, he, -⟩ := h.entry (List.mem_filter.mp hplace).1
    rw [heq, entryAt?_fresh h] at he
    cases he
  rw [label?, use?, entryAt?_adopt h, if_neg hne, label?, use?]

/-- A list without its last element is what differs from it. -/
theorem filter_ne_getLast? {α : Type} [DecidableEq α] {l : List α} (hnodup : l.Nodup) :
    l.filter (fun a => some a ≠ l.getLast?) = l.dropLast := by
  rcases List.eq_nil_or_concat' l with rfl | ⟨before, last, rfl⟩
  · rfl
  have hlast : ∀ a ∈ before, a ≠ last := fun a ha =>
    (List.nodup_append.mp hnodup).2.2 a ha last List.mem_cons_self
  have hbefore : before.filter (fun a => some a ≠ some last) = before :=
    List.filter_eq_self.mpr fun a ha => by simpa using hlast a ha
  rw [List.getLast?_concat, List.dropLast_concat, List.filter_append, hbefore]
  simp

/-- Where a text is not on the shelf, a new entry replaces the least recent one, if there is no
room. -/
theorem labels_kept (h : Placed [] c) {sql : String}
    (hkeys : ∀ text ∈ c.texts, c.keyOf text = c.keyOf sql → text = sql)
    (hfind : c.find? sql = none) :
    c.labels (c.held.filter fun place => some place ≠ c.replaced? (c.keyOf sql)) =
      c.shelf.take (c.capacity - 1) := by
  have hlookup : c.held.lookup (c.keyOf sql) = none := by
    cases hn : c.held.lookup (c.keyOf sql) with
    | none => rfl
    | some n =>
      obtain ⟨e, he, -, hkey⟩ := h.entry (mem_of_lookup hn)
      have hmem : e.sql ∈ c.texts :=
        List.mem_map.mpr ⟨(e.sql, e.statement),
          (mem_shelf h).mpr ⟨n, e, hkey ▸ mem_of_lookup hn, he, rfl, rfl⟩, rfl⟩
      have hsame := (find?_eq_some_iff h).mpr ⟨mem_of_lookup hn, e, he, hkeys _ hmem hkey⟩
      rw [hfind] at hsame
      cases hsame
  have hplaces : (c.held.filter fun place => some place ≠ c.replaced? (c.keyOf sql)) =
      c.held.take (c.capacity - 1) := by
    have hroom := h.room
    unfold replaced?
    simp only [hlookup]
    split
    · have hall : (c.held.filter fun place => some place ≠ none) = c.held :=
        List.filter_eq_self.mpr fun _ _ => rfl
      rw [hall, List.take_of_length_le (by omega)]
    · rw [filter_ne_getLast? (h.keys.of_map _), List.dropLast_eq_take]
      congr 1
      omega
  rw [hplaces, labels_take h]

/-- **A request takes its text out of the shelf, puts it in front, and cuts the shelf to the
capacity.** It has the statement that it had. -/
theorem shelf_checkOut (h : Placed [] c) {sql : String}
    (hkeys : ∀ text ∈ c.texts, c.keyOf text = c.keyOf sql → text = sql) :
    (c.checkOut sql).2.shelf =
      (sql, c.ready? sql) :: (c.shelf.filter (·.1 ≠ sql)).take (c.capacity - 1) := by
  unfold ready? checkOut
  cases hfind : c.find? sql with
  | some n =>
    have hmem := (mem_texts_iff h).mpr ⟨n, hfind⟩
    have hfewer : (c.shelf.filter (·.1 ≠ sql)).length < c.shelf.length := by
      obtain ⟨p, hp, hsql⟩ := List.mem_map.mp hmem
      exact List.length_filter_lt_length_iff_exists.mpr ⟨p, hp, by simp [hsql]⟩
    have hroom := h.room
    rw [length_shelf h] at hfewer
    refine (shelf_join n).trans ((shelf_promote h hkeys hfind).trans ?_)
    rw [List.take_of_length_le (by omega), Option.bind_some]
  | none =>
    have hall : c.shelf.filter (·.1 ≠ sql) = c.shelf := by
      refine List.filter_eq_self.mpr fun p hp => decide_eq_true fun hsql => ?_
      obtain ⟨n, hn⟩ := (mem_texts_iff h).mp (List.mem_map.mpr ⟨p, hp, hsql⟩)
      rw [hfind] at hn
      cases hn
    refine (shelf_join c.made).trans ((shelf_insert h sql).trans ?_)
    rw [labels_kept h hkeys hfind, hall, Option.bind_none]

/-- The entry of a request stands in the first place. -/
theorem held_checkOut (sql : String) :
    ∃ places, (c.checkOut sql).2.held = (c.keyOf sql, (c.checkOut sql).1) :: places := by
  unfold checkOut
  cases c.find? sql with
  | some n => exact ⟨_, rfl⟩
  | none =>
    show ∃ places, ((c.replaced? (c.keyOf sql)).elim (c.adopt sql (c.replaced? (c.keyOf sql)))
      fun out => (c.adopt sql (c.replaced? (c.keyOf sql))).evict out.2).held = _
    cases c.replaced? (c.keyOf sql) with
    | none => exact ⟨_, rfl⟩
    | some out => exact ⟨_, (evict_frame (c.adopt sql (some out)) out.2).1⟩

/-- The shelf once a request has begun. -/
theorem shelf_begun (h : Sound c) {sql : String}
    (hkeys : ∀ text ∈ c.texts, c.keyOf text = c.keyOf sql → text = sql) :
    (c.begun sql).shelf =
      (sql, c.ready? sql) :: (c.shelf.filter (·.1 ≠ sql)).take (c.capacity - 1) :=
  (shelf_takeRetired (h.checkOut sql)).trans (shelf_checkOut h.placed hkeys)

/-- Giving the entry in the first place its statement. -/
theorem shelf_fulfil (h : Placed [] c) {key : UInt64} {n : Nat} {places : List (UInt64 × Nat)}
    (hheld : c.held = (key, n) :: places) (t : τ) :
    (c.fulfil n t).shelf = c.shelf.modifyHead fun p => (p.1, some t) := by
  obtain ⟨e, he, -⟩ := h.entry (hheld ▸ List.mem_cons_self : (key, n) ∈ c.held)
  have hn := label?_of_entry he
  have hgiven : (c.fulfil n t).label? n = some (e.sql, some t) := by
    rw [label?_fulfil, hn, Option.map_some, if_pos rfl]
  have hothers : (c.fulfil n t).labels places = c.labels places := by
    refine labels_congr fun place hplace => ?_
    have hplaces := h.places
    rw [List.append_nil, hheld, List.map_cons, List.nodup_cons] at hplaces
    have hne : place.2 ≠ n := fun heq =>
      hplaces.1 (List.mem_map.mpr ⟨place, hplace, heq⟩)
    rw [label?_fulfil]
    simp only [if_neg hne, Option.map_id']
  have hshelf : c.shelf = (e.sql, e.statement) :: c.labels places := by
    rw [shelf, hheld]
    exact labels_cons hn places
  rw [hshelf, List.modifyHead_cons, shelf]
  show (c.fulfil n t).labels c.held = _
  rw [hheld]
  exact (labels_cons hgiven places).trans (congrArg _ hothers)

end StatementCache

end Rowbind
