import Mathlib.Data.List.Lex
import Rowbind.Record.FieldMap

/-!
# Derivations of keys

A key of a record type has a **derivation**: a walk from the type through fields that are visible,
records all of them but the last, which is a scalar. Every field on the walk adds its key behind the
others, except that an embedded record may be passed without a word (`Walk.Derives`).

Of two derivations the shorter one is the **earlier**, and of two equally long ones the one that
turns off first: to a field that stands before, or into an embedded record without its key instead
of with it (`Earlier`). That is the order of a breadth-first walk, and the levels of the walk list
the derivations in it: every derivation of their lengths, and none before an earlier one
(`mem_ended`, `pairwise_ended`). A list of derivations forgets its turns to become the list of
entries that a field map is built from (`entries_eq`).
-/

namespace Rowbind.FieldMap

/-! ## Derivations -/

/-- **One step of a derivation**: the position of a field, and whether the field's key is taken. -/
structure Turn where
  index : Nat
  named : Bool
  deriving DecidableEq, Repr

/-- Whether a type shows a field at a position, under a key. -/
def Walk.Shows (w : Walk) (t : TypeId) (i : Nat) (f : Field) (key : String) : Prop :=
  (w.schema t).fields[i]? = some f ∧ f.key? w.tag w.rename = some key

/-- **The records that turns lead into**, with the keys joined on the way. -/
inductive Walk.Enters (w : Walk) (root : TypeId) : List Turn → TypeId → String → Prop
  | root : w.Enters root [] root ""
  | named {turns : List Turn} {t u : TypeId} {qualifier key : String} {i : Nat} {f : Field}
      {embedded : Bool} (h : w.Enters root turns t qualifier) (hf : w.Shows t i f key)
      (hkind : f.kind = .record embedded u) :
      w.Enters root (turns ++ [⟨i, true⟩]) u (w.qualify qualifier key)
  | unnamed {turns : List Turn} {t u : TypeId} {qualifier key : String} {i : Nat} {f : Field}
      (h : w.Enters root turns t qualifier) (hf : w.Shows t i f key)
      (hkind : f.kind = .record true u) :
      w.Enters root (turns ++ [⟨i, false⟩]) u qualifier

/-- **The keys that turns derive**, of the scalar that the last one leads to. -/
inductive Walk.Derives (w : Walk) (root : TypeId) : List Turn → String → Prop
  | scalar {turns : List Turn} {t : TypeId} {qualifier key : String} {i : Nat} {f : Field}
      (h : w.Enters root turns t qualifier) (hf : w.Shows t i f key) (hkind : f.kind = .scalar) :
      w.Derives root (turns ++ [⟨i, true⟩]) (w.qualify qualifier key)

/-- The path that turns take. -/
def pathOf (turns : List Turn) : Path := turns.map Turn.index

/-! ## Their order -/

/-- Whether a turn comes before another: it is to an earlier field, or to the same one without its
key. -/
def Turn.Before (a b : Turn) : Prop :=
  a.index < b.index ∨ (a.index = b.index ∧ a.named = false ∧ b.named = true)

/-- **Whether a derivation is earlier than another**: shorter, or of one length and the first to
turn off. -/
def Earlier (a b : List Turn) : Prop :=
  a.length < b.length ∨ (a.length = b.length ∧ List.Lex Turn.Before a b)

theorem Turn.Before.asymm {a b : Turn} (h : a.Before b) : ¬ b.Before a := by
  rintro (h' | ⟨h', hb, ha⟩)
  · rcases h with h | ⟨h, -, -⟩ <;> omega
  · rcases h with h | ⟨-, ha', -⟩
    · omega
    · rw [ha'] at ha
      cases ha

theorem Earlier.asymm {a b : List Turn} (h : Earlier a b) : ¬ Earlier b a := by
  rintro (h' | ⟨hlength, hlex⟩)
  · rcases h with h | ⟨h, -⟩ <;> omega
  · rcases h with h | ⟨-, hlex'⟩
    · omega
    · exact List.lex_asymm Turn.Before.asymm hlex hlex'

/-- The order of equally long lists is the order of whatever they go on to. -/
theorem lex_append_of_length_eq {a b : List Turn} (hlength : a.length = b.length)
    (h : List.Lex Turn.Before a b) (x y : List Turn) :
    List.Lex Turn.Before (a ++ x) (b ++ y) := by
  induction h with
  | nil => cases hlength
  | rel h => exact .rel h
  | cons h ih => exact .cons (ih (Nat.succ.inj hlength))

/-- One more turn is one longer. -/
theorem length_append_turn {turns : List Turn} {turn : Turn} {k : Nat} :
    (turns ++ [turn]).length = k + 1 ↔ turns.length = k := by
  rw [List.length_append, List.length_singleton, Nat.add_right_cancel_iff]

/-! ## The levels of the walk -/

/-- **A record on the walk**, with the turns that lead there. -/
structure Trail where
  turns : List Turn
  type : TypeId
  qualifier : String

/-- The record itself. -/
def Trail.visit (r : Trail) : Visit := ⟨r.type, pathOf r.turns, r.qualifier⟩

/-- The fields that a type shows, with their positions and keys. -/
def Walk.shown (w : Walk) (t : TypeId) : List (Nat × Field × String) :=
  (w.schema t).fields.zipIdx.filterMap fun (f, i) =>
    (f.key? w.tag w.rename).map fun key => (i, f, key)

/-- The derivations that end in a record's scalars. -/
def Walk.ends (w : Walk) (r : Trail) : List (List Turn × String) :=
  (w.shown r.type).filterMap fun (i, f, key) =>
    match f.kind with
    | .record .. => none
    | _ => some (r.turns ++ [⟨i, true⟩], w.qualify r.qualifier key)

/-- The records nested in a record, with the turns that lead to them. -/
def Walk.next (w : Walk) (r : Trail) : List Trail :=
  (w.shown r.type).flatMap fun (i, f, key) =>
    match f.kind with
    | .record embedded t =>
      (if embedded then [⟨r.turns ++ [⟨i, false⟩], t, r.qualifier⟩] else []) ++
        [⟨r.turns ++ [⟨i, true⟩], t, w.qualify r.qualifier key⟩]
    | _ => []

/-- **The derivations that end on so many levels**, the given records being the first level. -/
def Walk.ended (w : Walk) : (levels : Nat) → List Trail → List (List Turn × String)
  | 0, _ => []
  | levels + 1, rs => rs.flatMap w.ends ++ w.ended levels (rs.flatMap w.next)

/-- An entry of a field map, for a derivation. -/
def entryOf (d : List Turn × String) : String × Path := (d.2, pathOf d.1)

section Levels

variable (w : Walk)

theorem fields_visit (r : Trail) :
    w.fields r.visit = (w.shown r.type).map fun (i, f, key) =>
      (f, pathOf r.turns ++ [i], w.qualify r.qualifier key) := by
  rw [Walk.fields, Walk.shown, List.map_filterMap]
  congr 1
  funext ⟨f, i⟩
  rw [Option.map_map]
  rfl

theorem pathOf_append (turns : List Turn) (i : Nat) (named : Bool) :
    pathOf (turns ++ [⟨i, named⟩]) = pathOf turns ++ [i] := by
  rw [pathOf, List.map_append]
  rfl

theorem scalars_visit (r : Trail) : w.scalars r.visit = (w.ends r).map entryOf := by
  rw [Walk.scalars, fields_visit, Walk.ends, List.map_filterMap, List.filterMap_map]
  congr 1
  funext ⟨i, f, key⟩
  simp only [Function.comp_apply]
  cases f.kind with
  | record embedded t => rfl
  | _ => simp only [Option.map_some, entryOf, pathOf_append]

theorem nested_visit (r : Trail) : w.nested r.visit = (w.next r).map Trail.visit := by
  rw [Walk.nested, fields_visit, Walk.next, List.map_flatMap, List.flatMap_map]
  congr 1
  funext ⟨i, f, key⟩
  simp only
  cases f.kind with
  | record embedded t => cases embedded <;> simp [Trail.visit, pathOf_append]
  | _ => rfl

/-- **The entries that the walk meets are its derivations' entries**, in order. -/
theorem entries_eq (levels : Nat) (rs : List Trail) :
    w.entries levels (rs.map Trail.visit) = (w.ended levels rs).map entryOf := by
  induction levels generalizing rs with
  | zero => rfl
  | succ levels ih =>
    have hscalars : (rs.map Trail.visit).flatMap w.scalars = (rs.flatMap w.ends).map entryOf := by
      simp only [List.flatMap_map, List.map_flatMap, scalars_visit]
    have hnested : (rs.map Trail.visit).flatMap w.nested =
        (rs.flatMap w.next).map Trail.visit := by
      simp only [List.flatMap_map, List.map_flatMap, nested_visit]
    rw [Walk.entries, Walk.ended, List.map_append, hscalars, hnested, ih]

/-! ## Every derivation is met -/

variable {w}

theorem mem_shown {t : TypeId} {i : Nat} {f : Field} {key : String} :
    (i, f, key) ∈ w.shown t ↔ w.Shows t i f key := by
  rw [Walk.shown, List.mem_filterMap, Walk.Shows]
  constructor
  · rintro ⟨⟨f', i'⟩, hmem, hsome⟩
    obtain ⟨key', hkey, heq⟩ := Option.map_eq_some_iff.mp hsome
    cases heq
    exact ⟨List.mk_mem_zipIdx_iff_getElem?.mp hmem, hkey⟩
  · rintro ⟨hf, hkey⟩
    exact ⟨(f, i), List.mk_mem_zipIdx_iff_getElem?.mpr hf, by simp only [hkey, Option.map_some]⟩

/-- A field with a key is no skipped one. -/
theorem Walk.Shows.kind {t : TypeId} {i : Nat} {f : Field} {key : String}
    (h : w.Shows t i f key) : f.kind = .scalar ∨ ∃ embedded u, f.kind = .record embedded u := by
  cases hkind : f.kind with
  | scalar => exact .inl rfl
  | skip =>
    have hkey := h.2
    rw [Field.key?, if_pos hkind] at hkey
    cases hkey
  | record embedded u => exact .inr ⟨embedded, u, rfl⟩

/-- The derivations that end in a record's scalars. -/
theorem mem_ends {r : Trail} {turns : List Turn} {key : String} :
    (turns, key) ∈ w.ends r ↔ ∃ i f own, w.Shows r.type i f own ∧ f.kind = .scalar ∧
      turns = r.turns ++ [⟨i, true⟩] ∧ key = w.qualify r.qualifier own := by
  rw [Walk.ends, List.mem_filterMap]
  constructor
  · rintro ⟨⟨i, f, own⟩, hmem, hsome⟩
    have hshows := mem_shown.mp hmem
    rcases hshows.kind with hkind | ⟨embedded, u, hkind⟩
    · simp only [hkind] at hsome
      cases hsome
      exact ⟨i, f, own, hshows, hkind, rfl, rfl⟩
    · simp only [hkind] at hsome
      cases hsome
  · rintro ⟨i, f, own, hshows, hkind, rfl, rfl⟩
    exact ⟨(i, f, own), mem_shown.mpr hshows, by simp only [hkind]⟩

/-- The records nested in a record. -/
theorem mem_next {r r' : Trail} :
    r' ∈ w.next r ↔ ∃ i f own embedded, w.Shows r.type i f own ∧
      f.kind = .record embedded r'.type ∧
      ((r'.turns = r.turns ++ [⟨i, true⟩] ∧ r'.qualifier = w.qualify r.qualifier own) ∨
        (embedded = true ∧ r'.turns = r.turns ++ [⟨i, false⟩] ∧ r'.qualifier = r.qualifier)) := by
  rw [Walk.next, List.mem_flatMap]
  constructor
  · rintro ⟨⟨i, f, own⟩, hmem, hr'⟩
    have hshows := mem_shown.mp hmem
    rcases hshows.kind with hkind | ⟨embedded, u, hkind⟩
    · simp only [hkind] at hr'
      exact absurd hr' List.not_mem_nil
    · simp only [hkind] at hr'
      rcases List.mem_append.mp hr' with hr' | hr'
      · cases embedded with
        | false => exact absurd hr' List.not_mem_nil
        | true =>
          obtain rfl := List.mem_singleton.mp hr'
          exact ⟨i, f, own, true, hshows, hkind, .inr ⟨rfl, rfl, rfl⟩⟩
      · obtain rfl := List.mem_singleton.mp hr'
        exact ⟨i, f, own, embedded, hshows, hkind, .inl ⟨rfl, rfl⟩⟩
  · rintro ⟨i, f, own, embedded, hshows, hkind, hturns⟩
    refine ⟨(i, f, own), mem_shown.mpr hshows, ?_⟩
    obtain ⟨turns, t, qualifier⟩ := r'
    simp only at hkind hturns
    simp only [hkind]
    rcases hturns with ⟨rfl, rfl⟩ | ⟨rfl, rfl, rfl⟩
    · exact List.mem_append_right _ (List.mem_singleton_self _)
    · exact List.mem_append_left _ (List.mem_singleton_self _)

/-- **Whether records are those that so many turns lead into**, all of them. -/
def IsLevel (w : Walk) (root : TypeId) (k : Nat) (rs : List Trail) : Prop :=
  ∀ r, r ∈ rs ↔ w.Enters root r.turns r.type r.qualifier ∧ r.turns.length = k

variable {root : TypeId} {k : Nat} {rs : List Trail}

theorem isLevel_root (w : Walk) (root : TypeId) : IsLevel w root 0 [⟨[], root, ""⟩] := by
  intro r
  rw [List.mem_singleton]
  constructor
  · rintro rfl
    exact ⟨.root, rfl⟩
  · rintro ⟨henters, hlength⟩
    obtain ⟨turns, t, qualifier⟩ := r
    simp only at henters hlength
    obtain rfl := List.eq_nil_of_length_eq_zero hlength
    generalize hnil : ([] : List Turn) = turns at henters
    cases henters with
    | root => rfl
    | named => exact absurd hnil.symm (List.concat_ne_nil _ _)
    | unnamed => exact absurd hnil.symm (List.concat_ne_nil _ _)

/-- The records nested in those of a level are those of the next. -/
theorem IsLevel.next (h : IsLevel w root k rs) : IsLevel w root (k + 1) (rs.flatMap w.next) := by
  intro r'
  rw [List.mem_flatMap]
  constructor
  · rintro ⟨r, hr, hr'⟩
    obtain ⟨henters, hlength⟩ := (h r).mp hr
    obtain ⟨i, f, own, embedded, hshows, hkind, hturns⟩ := mem_next.mp hr'
    obtain ⟨turns, t, qualifier⟩ := r'
    simp only at hkind hturns ⊢
    rcases hturns with ⟨rfl, rfl⟩ | ⟨rfl, rfl, rfl⟩
    · exact ⟨.named henters hshows hkind, length_append_turn.mpr hlength⟩
    · exact ⟨.unnamed henters hshows hkind, length_append_turn.mpr hlength⟩
  · rintro ⟨henters, hlength⟩
    obtain ⟨turns, t, qualifier⟩ := r'
    simp only at henters hlength
    cases henters with
    | root => cases hlength
    | @named turns t _ qualifier own i f embedded henters hshows hkind =>
      exact ⟨⟨turns, t, qualifier⟩, (h _).mpr ⟨henters, length_append_turn.mp hlength⟩,
        mem_next.mpr ⟨i, f, own, embedded, hshows, hkind, .inl ⟨rfl, rfl⟩⟩⟩
    | @unnamed turns t _ _ own i f henters hshows hkind =>
      exact ⟨⟨turns, t, qualifier⟩, (h _).mpr ⟨henters, length_append_turn.mp hlength⟩,
        mem_next.mpr ⟨i, f, own, true, hshows, hkind, .inr ⟨rfl, rfl, rfl⟩⟩⟩

/-- The derivations that end in a level's scalars are those that are one turn longer. -/
theorem IsLevel.mem_ends (h : IsLevel w root k rs) {turns : List Turn} {key : String} :
    (turns, key) ∈ rs.flatMap w.ends ↔ w.Derives root turns key ∧ turns.length = k + 1 := by
  rw [List.mem_flatMap]
  constructor
  · rintro ⟨r, hr, hmem⟩
    obtain ⟨henters, hlength⟩ := (h r).mp hr
    obtain ⟨i, f, own, hshows, hkind, rfl, rfl⟩ := FieldMap.mem_ends.mp hmem
    exact ⟨.scalar henters hshows hkind, length_append_turn.mpr hlength⟩
  · rintro ⟨hderives, hlength⟩
    cases hderives with
    | @scalar turns t qualifier own i f henters hshows hkind =>
      exact ⟨⟨turns, t, qualifier⟩, (h _).mpr ⟨henters, length_append_turn.mp hlength⟩,
        FieldMap.mem_ends.mpr ⟨i, f, own, hshows, hkind, rfl, rfl⟩⟩

/-- **The levels of the walk meet every derivation of their lengths**, and no other. -/
theorem mem_ended (levels : Nat) (h : IsLevel w root k rs) {turns : List Turn} {key : String} :
    (turns, key) ∈ w.ended levels rs ↔
      w.Derives root turns key ∧ k < turns.length ∧ turns.length ≤ k + levels := by
  induction levels generalizing k rs with
  | zero =>
    constructor
    · exact fun hmem => absurd hmem List.not_mem_nil
    · rintro ⟨-, hlow, hhigh⟩
      omega
  | succ levels ih =>
    rw [Walk.ended, List.mem_append, h.mem_ends, ih h.next]
    constructor
    · rintro (⟨hderives, hlength⟩ | ⟨hderives, hlow, hhigh⟩)
      · exact ⟨hderives, by omega, by omega⟩
      · exact ⟨hderives, by omega, by omega⟩
    · rintro ⟨hderives, hlow, hhigh⟩
      rcases Nat.lt_or_ge (k + 1) turns.length with hlt | hge
      · exact .inr ⟨hderives, hlt, by omega⟩
      · exact .inl ⟨hderives, by omega⟩

/-! ## In their order -/

/-- The fields that a type shows stand in the order of their positions. -/
theorem pairwise_shown (w : Walk) (t : TypeId) :
    (w.shown t).Pairwise fun a b => a.1 < b.1 := by
  have hindex : (w.schema t).fields.zipIdx.Pairwise fun a b => a.2 < b.2 := by
    rw [← List.pairwise_map (f := Prod.snd) (R := (· < ·)), List.zipIdx_map_snd]
    exact List.pairwise_lt_range'
  rw [Walk.shown, List.pairwise_filterMap]
  refine hindex.imp ?_
  rintro ⟨f, i⟩ ⟨f', i'⟩ hlt a ha b hb
  obtain ⟨_, _, rfl⟩ := Option.map_eq_some_iff.mp ha
  obtain ⟨_, _, rfl⟩ := Option.map_eq_some_iff.mp hb
  exact hlt

/-- What a record's fields go on to stands in order, when each field's share does. -/
theorem pairwise_shown_flatMap {α : Type} (r : Trail) (turnsOf : α → List Turn)
    (share : Nat × Field × String → List α)
    (hshare : ∀ i f key, ∀ a ∈ share (i, f, key), ∃ named, turnsOf a = r.turns ++ [⟨i, named⟩])
    (hown : ∀ x, (share x).Pairwise fun a b => List.Lex Turn.Before (turnsOf a) (turnsOf b)) :
    ((w.shown r.type).flatMap share).Pairwise fun a b =>
      List.Lex Turn.Before (turnsOf a) (turnsOf b) := by
  rw [List.pairwise_flatMap]
  refine ⟨fun x _ => hown x, (pairwise_shown w r.type).imp ?_⟩
  rintro ⟨i, f, key⟩ ⟨i', f', key'⟩ hlt a ha b hb
  obtain ⟨named, hna⟩ := hshare i f key a ha
  obtain ⟨named', hnb⟩ := hshare i' f' key' b hb
  rw [hna, hnb]
  exact List.Lex.append_left _ (.rel (.inl hlt)) _

/-- The records nested in a record stand in the order of their turns. -/
theorem pairwise_next (w : Walk) (r : Trail) :
    (w.next r).Pairwise fun a b => List.Lex Turn.Before a.turns b.turns := by
  refine pairwise_shown_flatMap r Trail.turns _ ?_ ?_
  · rintro i f key a ha
    cases hkind : f.kind with
    | record embedded t =>
      simp only [hkind] at ha
      rcases List.mem_append.mp ha with ha | ha
      · cases embedded with
        | false => exact absurd ha List.not_mem_nil
        | true => exact ⟨false, by rw [List.mem_singleton.mp ha]⟩
      · exact ⟨true, by rw [List.mem_singleton.mp ha]⟩
    | _ =>
      simp only [hkind] at ha
      exact absurd ha List.not_mem_nil
  · rintro ⟨i, f, key⟩
    cases hkind : f.kind with
    | record embedded t =>
      simp only [hkind]
      cases embedded with
      | false => exact List.pairwise_singleton _ _
      | true =>
        refine List.pairwise_pair.mpr ?_
        exact List.Lex.append_left _ (.rel (.inr ⟨rfl, rfl, rfl⟩)) _
    | _ =>
      simp only [hkind]
      exact List.Pairwise.nil

/-- The derivations that end in a record's scalars stand in order. -/
theorem pairwise_ends (w : Walk) (r : Trail) :
    (w.ends r).Pairwise fun a b => List.Lex Turn.Before a.1 b.1 := by
  rw [Walk.ends, List.pairwise_filterMap]
  refine (pairwise_shown w r.type).imp ?_
  rintro ⟨i, f, key⟩ ⟨i', f', key'⟩ hlt a ha b hb
  have hturn : ∀ {i : Nat} {f : Field} {key : String} {d : List Turn × String},
      (match f.kind with
        | .record .. => none
        | _ => some (r.turns ++ [⟨i, true⟩], w.qualify r.qualifier key)) = some d →
      d.1 = r.turns ++ [⟨i, true⟩] := by
    intro i f key d hd
    cases hkind : f.kind with
    | record embedded t => simp only [hkind] at hd; cases hd
    | _ => simp only [hkind] at hd; cases hd; rfl
  rw [hturn ha, hturn hb]
  exact List.Lex.append_left _ (.rel (.inl hlt)) _

/-- Steps from a level that is in order are in order, when each record's own are. -/
theorem pairwise_flatMap_level {α : Type} (turnsOf : α → List Turn) (step : Trail → List α)
    (hlevel : ∀ r ∈ rs, r.turns.length = k)
    (hrs : rs.Pairwise fun a b => List.Lex Turn.Before a.turns b.turns)
    (hstep : ∀ r, ∀ a ∈ step r, ∃ turn, turnsOf a = r.turns ++ [turn])
    (hown : ∀ r, (step r).Pairwise fun a b => List.Lex Turn.Before (turnsOf a) (turnsOf b)) :
    (rs.flatMap step).Pairwise fun a b => List.Lex Turn.Before (turnsOf a) (turnsOf b) := by
  rw [List.pairwise_flatMap]
  refine ⟨fun r _ => hown r, hrs.imp_of_mem ?_⟩
  intro r r' hr hr' hlex a ha b hb
  obtain ⟨turn, hturn⟩ := hstep r a ha
  obtain ⟨turn', hturn'⟩ := hstep r' b hb
  rw [hturn, hturn']
  exact lex_append_of_length_eq ((hlevel r hr).trans (hlevel r' hr').symm) hlex _ _

/-- **The walk meets derivations in their order.** The induction is on the levels: what ends on one
is shorter than what ends on a later one. -/
theorem pairwise_ended (levels : Nat) (h : IsLevel w root k rs)
    (hrs : rs.Pairwise fun a b => List.Lex Turn.Before a.turns b.turns) :
    (w.ended levels rs).Pairwise fun a b => Earlier a.1 b.1 := by
  induction levels generalizing k rs with
  | zero => exact List.Pairwise.nil
  | succ levels ih =>
    have hlevel : ∀ r ∈ rs, r.turns.length = k := fun r hr => ((h r).mp hr).2
    have hends := pairwise_flatMap_level (fun d : List Turn × String => d.1) w.ends hlevel hrs
      (fun r d hd => by
        obtain ⟨i, -, -, -, -, hturns, -⟩ := mem_ends.mp hd
        exact ⟨_, hturns⟩)
      (pairwise_ends w)
    have hnext := pairwise_flatMap_level Trail.turns w.next hlevel hrs
      (fun r r' hr' => by
        obtain ⟨i, -, -, -, -, -, ⟨hturns, -⟩ | ⟨-, hturns, -⟩⟩ := mem_next.mp hr'
        · exact ⟨_, hturns⟩
        · exact ⟨_, hturns⟩)
      (pairwise_next w)
    rw [Walk.ended, List.pairwise_append]
    refine ⟨hends.imp_of_mem ?_, ih h.next hnext, ?_⟩
    · rintro a b ha hb hlex
      exact .inr ⟨(h.mem_ends.mp ha).2.trans (h.mem_ends.mp hb).2.symm, hlex⟩
    · rintro a ha b hb
      have ha := (h.mem_ends.mp ha).2
      have hb := ((mem_ended levels h.next).mp hb).2.1
      exact .inl (by omega)

end Levels

end Rowbind.FieldMap
