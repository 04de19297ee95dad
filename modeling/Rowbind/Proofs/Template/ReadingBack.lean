import Rowbind.Proofs.Template.Reading
import Rowbind.Template.Rendering

/-!
# Reading a rendering back

A template with named parameters is written for a driver, and the driver reads what is written by
rules of its own. This module says when the driver sees the placeholders that were meant: when the
template has none of the dialect's own syntax to begin with (`PlainFor`), the text written has
exactly the placeholders written, in order (`placeholders_write`). So they are as many as the
rendering says, and in a dialect that numbers them their ordinals run on from one
(`renderNamed_readBack`).

A placeholder could be misread in three ways, and none of them happens. It could run on into what
follows it: but a parameter's name was as long as it could be, and what follows a name, however it
is written, goes on no name (`EndsName`, `endsName_write`). It could merge with its neighbour: but
there is a comma between two placeholders of a row, and every placeholder begins with a sign. And a
literal could begin a placeholder: of the signs only a colon is left, and a colon that was literal
in the template has neither a name nor a colon behind it, before or after the writing
(`head?_write`).
-/

namespace Rowbind

open Text

/-! ## Where names end -/

/-- **Whether a name ends before a text**: after the dots that it may begin with, which belong to no
name, nothing goes on a name. -/
def EndsName (cs : List Char) : Prop :=
  (cs.dropWhile (· == '.')).head?.any continuesName = false

theorem endsName_nil : EndsName [] := rfl

theorem endsName_dot (cs : List Char) : EndsName ('.' :: cs) ↔ EndsName cs := by
  rw [EndsName, List.dropWhile_cons_of_pos (p := (· == '.')) rfl, EndsName]

/-- Before any other character a name ends when the character goes on no name. -/
theorem endsName_of_ne_dot {c : Char} (hc : c ≠ '.') (cs : List Char) :
    EndsName (c :: cs) ↔ continuesName c = false := by
  have hdot : ¬ (c == '.') = true := fun h => hc (beq_iff_eq.mp h)
  rw [EndsName, List.dropWhile_cons_of_neg (p := (· == '.')) hdot]
  exact Iff.rfl

/-- A name ends before a character that goes on no name. -/
theorem endsName_cons {c : Char} (h : continuesName c = false) (cs : List Char) :
    EndsName (c :: cs) := by
  refine (endsName_of_ne_dot ?_ cs).mpr h
  rintro rfl
  exact absurd h (by decide)

/-- Where a name ends, no ordinal goes on. -/
theorem EndsName.not_digit {c : Char} {cs : List Char} (h : EndsName (c :: cs)) :
    c.isDigit = false := by
  rw [Bool.eq_false_iff]
  intro hdigit
  have hdot : c ≠ '.' := by
    rintro rfl
    exact absurd hdigit (by decide)
  rw [endsName_of_ne_dot hdot] at h
  exact Bool.eq_false_iff.mp h (continuesName_of_isDigit hdigit)

/-- Where a name ends, only dots go on it. -/
theorem EndsName.takeWhile {cs : List Char} (h : EndsName cs) :
    ∀ c ∈ cs.takeWhile continuesName, (c == '.') = true := by
  induction cs with
  | nil => exact fun c hc => absurd hc List.not_mem_nil
  | cons a cs ih =>
    intro c hc
    by_cases ha : a = '.'
    · rw [ha, endsName_dot] at h
      rw [ha, List.takeWhile_cons_of_pos (by decide)] at hc
      rcases List.mem_cons.mp hc with rfl | hc
      · rfl
      · exact ih h c hc
    · rw [endsName_of_ne_dot ha] at h
      rw [List.takeWhile_cons_of_neg (Bool.eq_false_iff.mp h)] at hc
      exact absurd hc List.not_mem_nil

/-- A run ends where names do. -/
theorem endsName_dropWhile (cs : List Char) : EndsName (cs.dropWhile continuesName) := by
  induction cs with
  | nil => exact endsName_nil
  | cons a cs ih =>
    by_cases ha : continuesName a = true
    · rw [List.dropWhile_cons_of_pos ha]
      exact ih
    · rw [List.dropWhile_cons_of_neg ha]
      exact endsName_cons (Bool.not_eq_true _ ▸ ha) cs

/-! ## Names -/

/-- Dots at the end are dropped. -/
theorem dropTrailingDots_append {cs dots : List Char} (h : ∀ c ∈ dots, (c == '.') = true) :
    dropTrailingDots (cs ++ dots) = dropTrailingDots cs := by
  rw [dropTrailingDots, dropTrailingDots, List.reverse_append,
    List.dropWhile_append_of_pos fun c hc => h c (List.mem_reverse.mp hc)]

/-- No name begins with a dot. -/
theorem beginsName.ne_dot {c : Char} (h : beginsName c = true) : c ≠ '.' := by
  rintro rfl
  exact absurd h (by decide)

section NameAt

variable {c : Char} (hc : beginsName c = true) (cs : List Char)
include hc

theorem nameAt_cons :
    nameAt (c :: cs) = (c :: cs.takeWhile continuesName).rdropWhile (· == '.') := by
  unfold nameAt
  rw [if_pos (by exact hc), List.takeWhile_cons_of_pos (continuesName_of_beginsName hc),
    dropTrailingDots_eq]

/-- A name is missing only where none begins. -/
theorem nameAt_ne_nil : nameAt (c :: cs) ≠ [] := by
  rw [nameAt_cons hc, Ne, List.rdropWhile_eq_nil_iff]
  exact fun h => beginsName.ne_dot hc (beq_iff_eq.mp (h c List.mem_cons_self))

/-- **A name ends before what follows it.** -/
theorem endsName_drop_nameAt : EndsName ((c :: cs).drop (nameAt (c :: cs)).length) := by
  let run := c :: cs.takeWhile continuesName
  let rest := cs.dropWhile continuesName
  have htext : c :: cs = nameAt (c :: cs) ++ (run.rtakeWhile (· == '.') ++ rest) := by
    rw [nameAt_cons hc, ← List.append_assoc, List.rdropWhile_append_rtakeWhile, List.cons_append,
      List.takeWhile_append_dropWhile]
  have hdrop : (c :: cs).drop (nameAt (c :: cs)).length = run.rtakeWhile (· == '.') ++ rest :=
    List.append_cancel_left ((List.prefix_iff_eq_append.mp (nameAt_begins _)).trans htext)
  have hdots : ∀ a ∈ run.rtakeWhile (· == '.'), (a == '.') = true := fun a ha =>
    List.mem_rtakeWhile_imp (p := (· == '.')) ha
  rw [hdrop, EndsName, List.dropWhile_append_of_pos hdots]
  exact endsName_dropWhile cs

end NameAt

/-- A text with a name at its head begins with the name's first character. -/
theorem beginsName_of_nameAt {cs : List Char} (h : nameAt cs ≠ []) :
    ∃ c rest, cs = c :: rest ∧ beginsName c = true := by
  unfold nameAt at h
  split at h
  · rename_i hhead
    cases cs with
    | nil => cases hhead
    | cons c rest => exact ⟨c, rest, rfl, hhead⟩
  · exact absurd rfl h

/-- **A name is read back** before a text where names end. -/
theorem nameAt_append {cs rest : List Char} (h : nameAt cs ≠ []) (hrest : EndsName rest) :
    nameAt (nameAt cs ++ rest) = nameAt cs := by
  obtain ⟨c, tail, rfl, hc⟩ := beginsName_of_nameAt h
  have hrun : ∀ a ∈ nameAt (c :: tail), continuesName a = true := by
    intro a ha
    rw [nameAt, if_pos (by exact hc), dropTrailingDots_eq] at ha
    exact List.mem_takeWhile_imp ((List.rdropWhile_prefix _ _).subset ha)
  have hhead : (nameAt (c :: tail) ++ rest).head?.any beginsName = true := by
    obtain ⟨more, hmore⟩ := nameAt_begins (c :: tail)
    cases hname : nameAt (c :: tail) with
    | nil => exact absurd hname h
    | cons a name =>
      rw [hname, List.cons_append] at hmore
      rw [List.cons_append, (List.cons.inj hmore).1]
      exact hc
  rw [nameAt, if_pos hhead, List.takeWhile_append_of_pos hrun,
    dropTrailingDots_append hrest.takeWhile, nameAt_cons hc, dropTrailingDots_eq,
    List.rdropWhile_idempotent]

/-- **Whether a text is a name**, all of it. -/
def IsName (name : List Char) : Prop :=
  name ≠ [] ∧ nameAt name = name

theorem isName_nameAt {cs : List Char} (h : nameAt cs ≠ []) : IsName (nameAt cs) := by
  refine ⟨h, ?_⟩
  conv_lhs => rw [← List.append_nil (nameAt cs)]
  exact nameAt_append h endsName_nil

/-- The occurrences of a template with named parameters are a colon and a name. -/
theorem occurrence?_named {c : Char} {cs : List Char} {o : Occurrence}
    (h : occurrence? .named (c :: cs) = some o) :
    c = ':' ∧ IsName o.name ∧ EndsName (cs.drop (o.written.length - 1)) := by
  unfold occurrence? at h
  split at h
  · cases h
  · rename_i tail heq
    obtain ⟨rfl, rfl⟩ := List.cons.inj heq
    obtain ⟨hne, rfl⟩ := signed?_eq_some h
    obtain ⟨a, rest, rfl, ha⟩ := beginsName_of_nameAt hne
    refine ⟨rfl, isName_nameAt hne, ?_⟩
    rw [List.singleton_append, List.length_cons, Nat.add_sub_cancel]
    exact endsName_drop_nameAt ha rest
  · cases h
  · split at h <;> simp_all
  · cases h

/-! ## A placeholder -/

/-- What a dialect's placeholder names: its ordinal, the parameter, or nothing. -/
def Dialect.placeholderName (d : Dialect) (ordinal : Nat) (name : List Char) : List Char :=
  match d with
  | question | unknown => []
  | dollar | atSign => Nat.toDigits 10 ordinal
  | named => name

/-- An ordinal is read back before a text where names end. -/
theorem digitsAt_append (ordinal : Nat) {rest : List Char} (h : EndsName rest) :
    digitsAt (Nat.toDigits 10 ordinal ++ rest) = Nat.toDigits 10 ordinal := by
  have hdigits : ∀ c ∈ Nat.toDigits 10 ordinal, c.isDigit = true := fun c hc =>
    Nat.isDigit_of_mem_toDigits (by decide) (by decide) hc
  rw [digitsAt, List.takeWhile_append_of_pos hdigits]
  cases rest with
  | nil => rw [List.takeWhile_nil, List.append_nil]
  | cons c rest =>
    rw [List.takeWhile_cons_of_neg (Bool.eq_false_iff.mp h.not_digit), List.append_nil]

theorem signed?_of_ne_nil {sign name : List Char} (h : name ≠ []) :
    signed? sign name = some ⟨sign ++ name, name⟩ := by
  rw [signed?, if_neg (by rwa [List.isEmpty_iff])]

/-- **A placeholder is read back** before a text where names end. -/
theorem occurrence?_placeholder (d : Dialect) (ordinal : Nat) {name rest : List Char}
    (hname : IsName name) (hrest : EndsName rest) :
    occurrence? (.positional d) (d.placeholder ordinal name ++ rest) =
      some ⟨d.placeholder ordinal name, d.placeholderName ordinal name⟩ := by
  have hordinal : Nat.toDigits 10 ordinal ≠ [] := Nat.toDigits_ne_nil
  cases d with
  | question => rfl
  | unknown => rfl
  | dollar =>
    simp only [Dialect.placeholder, List.cons_append, occurrence?, if_true, digitsAt_append _ hrest]
    exact signed?_of_ne_nil hordinal
  | atSign =>
    simp only [Dialect.placeholder, List.cons_append, occurrence?, true_and, true_or, if_true,
      digitsAt_append _ hrest]
    exact signed?_of_ne_nil hordinal
  | named =>
    have hempty : name.isEmpty = false := List.isEmpty_eq_false_iff.mpr hname.1
    have hback : nameAt (name ++ rest) = name := by
      have hname' : nameAt name ≠ [] := by rw [hname.2]; exact hname.1
      have := nameAt_append hname' hrest
      rwa [hname.2] at this
    simp only [Dialect.placeholder, hempty, Bool.false_eq_true, if_false, List.cons_append,
      occurrence?, Convention.readsColon, if_true, hback]
    exact signed?_of_ne_nil hname.1

/-- A placeholder begins with a sign. -/
theorem placeholder_sign (d : Dialect) (ordinal : Nat) (name : List Char) :
    ∃ sign rest, d.placeholder ordinal name = sign :: rest ∧ sign ∈ signs := by
  cases d with
  | question => exact ⟨_, _, rfl, by decide⟩
  | unknown => exact ⟨_, _, rfl, by decide⟩
  | dollar => exact ⟨_, _, rfl, by decide⟩
  | atSign => exact ⟨_, _, rfl, by decide⟩
  | named => exact ⟨_, _, rfl, by decide⟩

namespace Template

/-! ## The placeholders of a text -/

/-- **What the placeholders of a text name**, in a dialect's own form. -/
def placeholders (d : Dialect) (cs : List Char) : List (List Char) :=
  (occurrences (tokens (.positional d) cs)).map Occurrence.name

section Placeholders

variable (d : Dialect)

theorem placeholders_nil : placeholders d [] = [] := by
  rw [placeholders, tokens_nil]
  rfl

/-- A character that begins no placeholder is passed over. -/
theorem placeholders_literal {c : Char} {cs : List Char}
    (he : escapes (.positional d) (c :: cs) = false)
    (ho : occurrence? (.positional d) (c :: cs) = none) :
    placeholders d (c :: cs) = placeholders d cs :=
  congrArg (List.map Occurrence.name) (occurrences_literal _ he ho)

/-- A character that is no sign is passed over. -/
theorem placeholders_of_not_sign {c : Char} (h : c ∉ signs) (cs : List Char) :
    placeholders d (c :: cs) = placeholders d cs :=
  congrArg (List.map Occurrence.name) (occurrences_of_not_sign _ h cs)

/-- A placeholder does not begin with two colons. -/
theorem escapes_placeholder (ordinal : Nat) {name : List Char} (hname : IsName name)
    (rest : List Char) : escapes (.positional d) (d.placeholder ordinal name ++ rest) = false := by
  cases d with
  | named =>
    obtain ⟨c, tail, rfl, hc⟩ : ∃ c tail, name = c :: tail ∧ beginsName c = true :=
      beginsName_of_nameAt (by rw [hname.2]; exact hname.1)
    have hne : c ≠ ':' := by
      rintro rfl
      exact absurd hc (by decide)
    simpa [escapes, Dialect.placeholder, Convention.readsColon] using hne
  | _ => rfl

/-- A placeholder is the first of those that follow it. -/
theorem placeholders_placeholder (ordinal : Nat) {name rest : List Char} (hname : IsName name)
    (hrest : EndsName rest) :
    placeholders d (d.placeholder ordinal name ++ rest) =
      d.placeholderName ordinal name :: placeholders d rest := by
  have hocc := occurrence?_placeholder d ordinal hname hrest
  obtain ⟨sign, tail, hsign, hmem⟩ := placeholder_sign d ordinal name
  have hblank : isBlank sign = false := not_blank_of_mem_signs hmem
  have hescapes := escapes_placeholder d ordinal hname rest
  have hrest : (tail ++ rest).drop ((d.placeholder ordinal name).length - 1) = rest := by
    rw [hsign, List.length_cons, Nat.add_sub_cancel, List.drop_left]
  rw [hsign, List.cons_append] at hocc hescapes ⊢
  rw [placeholders, tokens_occurrence _ hblank hescapes hocc]
  rw [← hsign, hrest]
  rfl

/-- **The placeholders counted are those read.** -/
theorem countFrom_eq (cs : List Char) : countFrom d cs = (placeholders d cs).length := by
  induction hn : cs.length using Nat.strongRecOn generalizing cs with
  | ind n ih =>
    subst hn
    cases cs with
    | nil =>
      rw [placeholders_nil, countFrom]
      rfl
    | cons c cs =>
      have hcolons : (d == .named && c == ':' && cs.head? == some ':') =
          escapes (.positional d) (c :: cs) := by cases d <;> rfl
      rw [countFrom, hcolons]
      cases he : escapes (.positional d) (c :: cs) with
      | true =>
        obtain ⟨hreads, tail, heq⟩ := eq_colons_of_escapes he
        obtain ⟨rfl, rfl⟩ := List.cons.inj heq
        rw [if_pos rfl, placeholders, tokens_escape _ hreads]
        exact ih tail.length (by simp only [List.length_cons]; omega) tail rfl
      | false =>
        rw [if_neg Bool.false_ne_true]
        cases ho : occurrence? (.positional d) (c :: cs) with
        | none =>
          rw [placeholders_literal d he ho]
          exact ih cs.length (by rw [List.length_cons]; omega) cs rfl
        | some o =>
          have hb : isBlank c = false := not_blank_of_mem_signs (mem_signs_of_occurrence? ho)
          rw [placeholders, tokens_occurrence _ hb he ho]
          have := ih (cs.drop (o.written.length - 1)).length
            (by rw [List.length_drop, List.length_cons]; omega) _ rfl
          simp only [this]
          rfl

/-- A row of placeholders is read as one after another. -/
theorem placeholders_row (count first : Nat) {name rest : List Char} (hname : IsName name)
    (hrest : EndsName rest) :
    placeholders d (placeholderRow d name first count ++ rest) =
      (List.range' first count).map (d.placeholderName · name) ++ placeholders d rest := by
  induction first, count using placeholderRow.induct with
  | case1 first => rfl
  | case2 first => exact placeholders_placeholder d first hname hrest
  | case3 first count hcount ih =>
    rw [placeholderRow]
    · rw [List.append_assoc, List.cons_append,
        placeholders_placeholder d first hname (endsName_cons (by decide) _),
        placeholders_of_not_sign d (by decide), ih]
      rfl
    · exact hcount

end Placeholders

/-! ## What follows a name, as written -/

theorem not_continues_of_mem_signs {c : Char} (h : c ∈ signs) : continuesName c = false := by
  simp only [signs, List.mem_cons, List.not_mem_nil, or_false] at h
  rcases h with rfl | rfl | rfl | rfl <;> decide

/-- A row that is not empty begins with a sign. -/
theorem placeholderRow_sign (d : Dialect) (name : List Char) (first : Nat) {count : Nat}
    (h : count ≠ 0) : ∃ sign rest, placeholderRow d name first count = sign :: rest ∧
      sign ∈ signs := by
  obtain ⟨sign, rest, hsign, hmem⟩ := placeholder_sign d first name
  match count, h with
  | 1, _ => exact ⟨sign, rest, hsign, hmem⟩
  | count + 2, _ =>
    refine ⟨sign, rest ++ ',' :: placeholderRow d name (first + 1) (count + 1), ?_, hmem⟩
    rw [placeholderRow, hsign, List.cons_append]
    exact Nat.succ_ne_zero count

section Write

variable (d : Dialect) {repeats : Repeats} {k w : Nat}

/-- A text that does not begin with a colon is written from its first character on, a blank as a
space. -/
theorem head?_write {cs : List Char} (h : cs.head? ≠ some ':') :
    (write d repeats k w (tokens .named cs)).head? =
      cs.head?.map fun c => if isBlank c then ' ' else c := by
  cases cs with
  | nil =>
    rw [tokens_nil]
    rfl
  | cons c cs =>
    have hc : c ≠ ':' := fun hc => h (congrArg some hc)
    by_cases hb : isBlank c = true
    · rw [tokens_blank _ hb, List.head?_cons, Option.map_some, if_pos hb]
      rfl
    · have ho : occurrence? .named (c :: cs) = none := by
        cases ho : occurrence? .named (c :: cs) with
        | none => rfl
        | some o => exact absurd (occurrence?_named ho).1 hc
      rw [tokens_literal _ (Bool.not_eq_true _ ▸ hb) (escapes_of_ne _ hc cs) ho, List.head?_cons,
        Option.map_some, if_neg hb]
      rfl

/-- **What follows a name goes on no name when it is written.** -/
theorem endsName_write {cs : List Char} (h : EndsName cs)
    (hnone : firstEmpty? repeats k (occurrences (tokens .named cs)) = none) :
    EndsName (write d repeats k w (tokens .named cs)) := by
  induction cs with
  | nil =>
    rw [tokens_nil]
    exact endsName_nil
  | cons c cs ih =>
    by_cases hdot : c = '.'
    · have hread : tokens .named ('.' :: cs) = .literal '.' :: tokens .named cs :=
        tokens_literal _ (by decide) (escapes_of_ne _ (by decide) cs)
          (occurrence?_of_not_sign (by decide) _ cs)
      rw [hdot] at h hnone ⊢
      rw [hread] at hnone ⊢
      exact (endsName_dot _).mpr (ih ((endsName_dot cs).mp h) hnone)
    · rw [endsName_of_ne_dot hdot] at h
      by_cases hb : isBlank c = true
      · rw [tokens_blank _ hb]
        exact endsName_cons (by decide) _
      · have hb : isBlank c = false := Bool.not_eq_true _ ▸ hb
        cases he : escapes .named (c :: cs) with
        | true =>
          obtain ⟨hreads, tail, heq⟩ := eq_colons_of_escapes he
          obtain ⟨rfl, rfl⟩ := List.cons.inj heq
          rw [tokens_escape _ hreads]
          exact endsName_cons (by decide) _
        | false =>
          cases ho : occurrence? .named (c :: cs) with
          | none =>
            rw [tokens_literal _ hb he ho]
            exact endsName_cons h _
          | some o =>
            rw [tokens_occurrence _ hb he ho] at hnone ⊢
            have hcount : repeats k ≠ 0 := (firstEmpty?_cons_eq_none.mp hnone).1
            obtain ⟨sign, rest, hrow, hsign⟩ := placeholderRow_sign d o.name (w + 1) hcount
            rw [write, hrow]
            exact endsName_cons (not_continues_of_mem_signs hsign) _

end Write

/-! ## A template without the dialect's own syntax -/

/-- **A template without a dialect's own syntax**: no question mark, and nothing that the dialect's
placeholders begin with. Parameters have colons; two of them in a row are more than that. -/
structure PlainFor (d : Dialect) (template : List Char) : Prop where
  question : '?' ∉ template
  dollar : d = .dollar → '$' ∉ template
  atSign : d = .atSign → '@' ∉ template
  colons : d = .named → ¬ [':', ':'] <:+: template

/-- A piece of a plain template is plain. -/
theorem PlainFor.piece {d : Dialect} {cs cs' : List Char} (h : PlainFor d cs)
    (hpiece : cs' <:+: cs) : PlainFor d cs' where
  question hmem := h.question (hpiece.subset hmem)
  dollar hd hmem := h.dollar hd (hpiece.subset hmem)
  atSign hd hmem := h.atSign hd (hpiece.subset hmem)
  colons hd hcolons := h.colons hd (hcolons.trans hpiece)

/-- **What the placeholders written name**, in order: `written` of them come before those of the
occurrence at position `k`. -/
def placeholderNames (d : Dialect) (repeats : Repeats) (k written : Nat) :
    List Occurrence → List (List Char)
  | [] => []
  | o :: os =>
    (List.range' (written + 1) (repeats k)).map (d.placeholderName · o.name) ++
      placeholderNames d repeats (k + 1) (written + repeats k) os

theorem length_placeholderNames (d : Dialect) (repeats : Repeats) (k w : Nat)
    (os : List Occurrence) : (placeholderNames d repeats k w os).length = total repeats k os := by
  induction os generalizing k w with
  | nil => rfl
  | cons o os ih =>
    rw [placeholderNames, List.length_append, List.length_map, List.length_range', ih, total]

/-- Ordinals run on from one occurrence to the next. -/
theorem placeholderNames_of_isNumbered {d : Dialect} (hd : d.isNumbered = true)
    (repeats : Repeats) (k w : Nat) (os : List Occurrence) :
    placeholderNames d repeats k w os =
      (List.range' (w + 1) (total repeats k os)).map (Nat.toDigits 10) := by
  have hname : ∀ name, (d.placeholderName · name) = Nat.toDigits 10 := by
    intro name
    cases d with
    | dollar => rfl
    | atSign => rfl
    | _ => cases hd
  induction os generalizing k w with
  | nil => rfl
  | cons o os ih =>
    rw [placeholderNames, ih, total, hname, ← List.map_append, Nat.add_right_comm,
      List.range'_append_1]

/-- A character of a plain template is passed over, unless a colon means something. -/
theorem placeholders_of_plain {d : Dialect} {c : Char} {cs : List Char}
    (hplain : PlainFor d (c :: cs)) (hc : d = .named → c ≠ ':') (rest : List Char) :
    placeholders d (c :: rest) = placeholders d rest := by
  by_cases hsign : c ∈ signs
  · simp only [signs, List.mem_cons, List.not_mem_nil, or_false] at hsign
    rcases hsign with rfl | rfl | rfl | rfl
    · exact absurd List.mem_cons_self hplain.question
    · have hd : (Convention.positional d).readsColon = false := by
        cases d with
        | named => exact absurd rfl (hc rfl)
        | _ => rfl
      refine placeholders_literal d ?_ ?_
      · rw [escapes, hd, Bool.false_and, Bool.false_and]
      · rw [occurrence?, hd, if_neg Bool.false_ne_true]
    · have hd : d ≠ .dollar := fun hd => hplain.dollar hd List.mem_cons_self
      refine placeholders_literal d (escapes_of_ne _ (by decide) rest) ?_
      rw [occurrence?, if_neg fun h => hd (Convention.positional.inj h)]
    · have hd : d ≠ .atSign := fun hd => hplain.atSign hd List.mem_cons_self
      refine placeholders_literal d (escapes_of_ne _ (by decide) rest) ?_
      cases rest with
      | nil => rfl
      | cons p rest => rw [occurrence?, if_neg fun h => hd (Convention.positional.inj h.1)]
  · exact placeholders_of_not_sign d hsign rest

/-- A colon with neither a colon nor a name behind it is passed over. -/
theorem placeholders_colon {cs : List Char}
    (h : ∀ c, cs.head? = some c → c ≠ ':' ∧ beginsName c = false) :
    placeholders .named (':' :: cs) = placeholders .named cs := by
  have hname : nameAt cs = [] := by
    by_contra hne
    obtain ⟨c, rest, rfl, hc⟩ := beginsName_of_nameAt hne
    exact Bool.eq_false_iff.mp (h c rfl).2 hc
  refine placeholders_literal .named ?_ ?_
  · rw [Bool.eq_false_iff]
    intro he
    obtain ⟨-, rest, heq⟩ := eq_colons_of_escapes he
    exact (h ':' (by rw [(List.cons.inj heq).2, List.head?_cons])).1 rfl
  · rw [occurrence?, hname]
    rfl

/-- A colon that is read as itself has neither a colon nor a name behind it where it is written. -/
theorem head?_write_of_colon {repeats : Repeats} {k w : Nat} {cs : List Char}
    (he : escapes .named (':' :: cs) = false) (ho : occurrence? .named (':' :: cs) = none) :
    ∀ c, (write .named repeats k w (tokens .named cs)).head? = some c →
      c ≠ ':' ∧ beginsName c = false := by
  have hcolon : cs.head? ≠ some ':' := by
    intro hhead
    cases cs with
    | nil => cases hhead
    | cons c cs =>
      cases hhead
      cases he
  intro c hc
  rw [head?_write .named hcolon] at hc
  obtain ⟨a, ha, rfl⟩ := Option.map_eq_some_iff.mp hc
  obtain ⟨rest, rfl⟩ : ∃ rest, cs = a :: rest := List.head?_eq_some_iff.mp ha
  split
  · exact ⟨by decide, by decide⟩
  · refine ⟨fun h => hcolon (congrArg some h), Bool.eq_false_iff.mpr ?_⟩
    intro hname
    have hread : occurrence? .named (':' :: a :: rest) =
        signed? [':'] (nameAt (a :: rest)) := rfl
    rw [hread, signed?_of_ne_nil (nameAt_ne_nil hname rest)] at ho
    cases ho

/-- **What is written is read back.** The induction follows the reading of the template. A colon
that is read as itself is the one sign that may come into the text, and what it stands before is no
name and no colon in the text either. -/
theorem placeholders_write (d : Dialect) {repeats : Repeats} {k w : Nat} {cs : List Char}
    (hplain : PlainFor d cs)
    (hnone : firstEmpty? repeats k (occurrences (tokens .named cs)) = none) :
    placeholders d (write d repeats k w (tokens .named cs)) =
      placeholderNames d repeats k w (occurrences (tokens .named cs)) := by
  induction cs using tokens.induct Convention.named generalizing k w with
  | case1 =>
    rw [tokens_nil]
    exact placeholders_nil d
  | case2 c cs hb ih =>
    rw [tokens_blank _ hb] at hnone ⊢
    rw [write, placeholders_of_not_sign d (by decide)]
    exact ih (hplain.piece ((List.dropWhile_suffix _).trans (List.suffix_cons c cs)).isInfix) hnone
  | case3 c cs hb he ih =>
    have he : escapes .named (c :: cs) = true := he
    obtain ⟨hreads, tail, heq⟩ := eq_colons_of_escapes he
    obtain ⟨rfl, rfl⟩ := List.cons.inj heq
    have hd : d = .named → ':' ≠ ':' := fun hd => absurd ⟨[], tail, rfl⟩ (hplain.colons hd)
    rw [tokens_escape _ hreads] at hnone ⊢
    rw [write, placeholders_of_plain hplain hd]
    exact ih (hplain.piece ((List.suffix_cons ':' tail).trans (List.suffix_cons ':' _)).isInfix)
      hnone
  | case4 c cs hb he o ho ih =>
    obtain ⟨-, hname, hends⟩ := occurrence?_named ho
    rw [tokens_occurrence _ (Bool.not_eq_true _ ▸ hb) (Bool.not_eq_true _ ▸ he) ho] at hnone ⊢
    obtain ⟨-, hnone⟩ := firstEmpty?_cons_eq_none.mp hnone
    rw [write, placeholders_row d _ _ hname (endsName_write d hends hnone), occurrences,
      placeholderNames]
    rw [ih (hplain.piece ((List.drop_suffix _ _).trans (List.suffix_cons c cs)).isInfix) hnone]
  | case5 c cs hb he ho ih =>
    have he : escapes .named (c :: cs) = false := Bool.not_eq_true _ ▸ he
    rw [tokens_literal _ (Bool.not_eq_true _ ▸ hb) he ho] at hnone ⊢
    rw [write, occurrences, ← ih (hplain.piece (List.suffix_cons c cs).isInfix) hnone]
    by_cases hc : d = .named ∧ c = ':'
    · obtain ⟨rfl, rfl⟩ := hc
      exact placeholders_colon (head?_write_of_colon he ho)
    · exact placeholders_of_plain hplain (fun hd hcolon => hc ⟨hd, hcolon⟩) _

/-- **A rendering has the placeholders it says it has**, counted or read by the driver's rules. -/
theorem renderNamed_readBack {template : String} {d : Dialect} {repeats : Repeats}
    {rendered : Rendered} (hplain : PlainFor d template.toList)
    (h : renderNamed template d repeats = .ok rendered) :
    countPlaceholders rendered.sql d = rendered.placeholders ∧
      (d.isNumbered = true → placeholders d rendered.sql.toList =
        (List.range' 1 rendered.placeholders).map (Nat.toDigits 10)) := by
  unfold renderNamed render renderTokens at h
  simp only at h
  split at h
  · cases h
  · rename_i hnone
    cases h
    have hread := @placeholders_write d repeats 0 0 _ hplain hnone
    simp only [String.toList_ofList, countPlaceholders]
    refine ⟨?_, fun hd => ?_⟩
    · rw [countFrom_eq, hread, length_placeholderNames]
    · rw [hread, placeholderNames_of_isNumbered hd]

end Template

end Rowbind
