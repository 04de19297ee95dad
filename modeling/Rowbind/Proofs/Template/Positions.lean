import Rowbind.Proofs.Template.Division

/-!
# Reading a text by positions

A reader that goes through a text by positions can fall out of it: it may read a character beyond
the text or before it, cut a piece that is none, or not get on. The reading of this module goes by
positions and checks every access, `none` being a fault: `placeholderAt?` for one placeholder, and
`rounds?` for going through a text, with as many rounds at most as the text has characters.

No access is at fault. What is found at a position is the occurrence at the head of the text from
there on (`placeholderAt?_eq`), and it has one of the forms of `PlaceholderAt`: it lies in the text,
ends behind where it begins, and its name is the longest of its kind (`placeholderAt?_eq_some_iff`).
So every round gets on, and both ways through a text come to their end with what `tokens` and
`countFrom` say (`readThrough?_eq`, `countThrough?_eq`).

A name is first read greedily and then gives back the dots at its end. That this stops before the
name's first character is what the character is for: a name begins with no dot.
-/

namespace Rowbind.Template

open Text

/-! ## Longest forms -/

/-- **Whether a text has the form of a name.** -/
structure NameForm (name : List Char) : Prop where
  begins : name.head?.any beginsName = true
  continues : ∀ c ∈ name, continuesName c = true
  noDot : name.getLast? ≠ some '.'

/-- **Whether a text has the form of an ordinal.** -/
structure OrdinalForm (digits : List Char) : Prop where
  ne_nil : digits ≠ []
  isDigit : ∀ c ∈ digits, c.isDigit = true

/-- An ordinal begins with a digit. -/
theorem OrdinalForm.begins {digits : List Char} (h : OrdinalForm digits) :
    digits.head?.any Char.isDigit = true := by
  cases digits with
  | nil => exact absurd rfl h.ne_nil
  | cons c digits => exact h.isDigit c List.mem_cons_self

/-- **Whether a text begins with a piece of a form**, and with none that is longer. -/
structure Longest (form : List Char → Prop) (cs piece : List Char) : Prop where
  fits : form piece
  begins : piece <+: cs
  longest : ∀ other, form other → other <+: cs → other.length ≤ piece.length

/-- There is one longest piece. -/
theorem Longest.unique {form : List Char → Prop} {cs piece other : List Char}
    (h : Longest form cs piece) (h' : Longest form cs other) : piece = other := by
  have hle := h'.longest piece h.fits h.begins
  have hge := h.longest other h'.fits h'.begins
  exact (List.prefix_of_prefix_length_le h.begins h'.begins hle).eq_of_length_le hge

/-- A piece of a run is not longer than the run. -/
theorem prefix_takeWhile {p : Char → Bool} {piece cs : List Char} (h : piece <+: cs)
    (hp : ∀ c ∈ piece, p c = true) : piece <+: cs.takeWhile p := by
  obtain ⟨rest, rfl⟩ := h
  rw [List.takeWhile_append_of_pos hp]
  exact List.prefix_append _ _

/-- An ordinal before what ends it is the longest. -/
theorem longest_ordinal {digits rest : List Char} (h : OrdinalBefore digits rest) :
    Longest OrdinalForm (digits ++ rest) digits := by
  refine ⟨⟨h.ne_nil, h.isDigit⟩, List.prefix_append _ _, fun other hother hprefix => ?_⟩
  have hrun := prefix_takeWhile hprefix hother.isDigit
  have hdigits : (digits ++ rest).takeWhile Char.isDigit = digits := h.digitsAt
  rw [hdigits] at hrun
  exact hrun.length_le

/-- A name before what ends it is the longest: a longer piece would end with one of the dots before
which the name ends. -/
theorem longest_name {name rest : List Char} (h : NameBefore name rest) :
    Longest NameForm (name ++ rest) name := by
  refine ⟨⟨h.begins, h.continues, h.noDot⟩, List.prefix_append _ _, fun other hother hprefix => ?_⟩
  by_contra hlong
  obtain ⟨more, rfl⟩ : name <+: other :=
    List.prefix_of_prefix_length_le (List.prefix_append _ _) hprefix (Nat.le_of_not_le hlong)
  have hne : more ≠ [] := by
    rintro rfl
    exact hlong (by rw [List.append_nil])
  have hrun : more <+: rest.takeWhile continuesName :=
    prefix_takeWhile ((List.prefix_append_right_inj name).mp hprefix)
      fun c hc => hother.continues c (List.mem_append_right _ hc)
  have hlast := List.getLast_mem hne
  have hdot := h.ends.takeWhile _ (hrun.subset hlast)
  refine hother.noDot ?_
  rw [List.getLast?_append_of_ne_nil _ hne, List.getLast?_eq_some_getLast hne, beq_iff_eq.mp hdot]

/-- The longest name at the head of a text. -/
theorem longest_nameAt {cs : List Char} (h : nameAt cs ≠ []) :
    Longest NameForm cs (nameAt cs) := by
  have hname := longest_name (nameBefore_nameAt h)
  rwa [List.prefix_iff_eq_append.mp (nameAt_begins cs)] at hname

/-- The longest ordinal at the head of a text. -/
theorem longest_digitsAt {cs : List Char} (h : digitsAt cs ≠ []) :
    Longest OrdinalForm cs (digitsAt cs) := by
  have hbegins : digitsAt cs <+: cs := List.takeWhile_prefix _
  have hdigits := longest_ordinal (ordinalBefore_digitsAt h)
  rwa [List.prefix_iff_eq_append.mp hbegins] at hdigits

theorem Longest.eq_nameAt {cs name : List Char} (h : Longest NameForm cs name) :
    nameAt cs = name := by
  obtain ⟨c, tail, hc, hbegins⟩ : ∃ c tail, cs = c :: tail ∧ beginsName c = true := by
    have hhead := h.fits.begins
    obtain ⟨rest, rfl⟩ := h.begins
    cases name with
    | nil => exact absurd hhead Bool.false_ne_true
    | cons c name => exact ⟨c, name ++ rest, rfl, hhead⟩
  exact (longest_nameAt (hc ▸ nameAt_ne_nil hbegins tail)).unique h

theorem Longest.eq_digitsAt {cs digits : List Char} (h : Longest OrdinalForm cs digits) :
    digitsAt cs = digits := by
  have hrun : digits <+: digitsAt cs := prefix_takeWhile h.begins h.fits.isDigit
  exact (longest_digitsAt fun hnil => h.fits.ne_nil (List.prefix_nil.mp (hnil ▸ hrun))).unique h

/-! ## What can stand at a position -/

/-- **Whether a placeholder stands at a position of a text**, up to an end and with a name. -/
inductive PlaceholderAt (reading : Convention) (cs : List Char) (i : Nat) : Nat → List Char → Prop
  | question (hsign : cs[i]? = some '?') (hreads : reading.readsQuestion = true) :
      PlaceholderAt reading cs i (i + 1) []
  | parameter {name : List Char} (hsign : cs[i]? = some ':') (hreads : reading.readsColon = true)
      (h : Longest NameForm (cs.drop (i + 1)) name) :
      PlaceholderAt reading cs i (i + 1 + name.length) name
  | dollar {digits : List Char} (hsign : cs[i]? = some '$') (hreads : reading = .positional .dollar)
      (h : Longest OrdinalForm (cs.drop (i + 1)) digits) :
      PlaceholderAt reading cs i (i + 1 + digits.length) digits
  | atSign {p : Char} {digits : List Char} (hsign : cs[i]? = some '@')
      (hreads : reading = .positional .atSign) (hletter : cs[i + 1]? = some p)
      (hp : p = 'p' ∨ p = 'P') (h : Longest OrdinalForm (cs.drop (i + 2)) digits) :
      PlaceholderAt reading cs i (i + 2 + digits.length) digits

/-- A placeholder lies in the text, and ends behind where it begins. -/
theorem PlaceholderAt.bounds {reading : Convention} {cs : List Char} {i e : Nat} {name : List Char}
    (h : PlaceholderAt reading cs i e name) : i < e ∧ e ≤ cs.length := by
  have hsign : ∀ {j : Nat} {c : Char}, cs[j]? = some c → j < cs.length := fun h =>
    (List.getElem?_eq_some_iff.mp h).1
  have hpiece : ∀ {j : Nat} {piece : List Char}, j ≤ cs.length → piece <+: cs.drop j →
      j + piece.length ≤ cs.length := by
    intro j piece hj hprefix
    have := hprefix.length_le
    rw [List.length_drop] at this
    omega
  cases h with
  | question h _ => exact ⟨Nat.lt_succ_self i, hsign h⟩
  | parameter h _ hname => exact ⟨by omega, hpiece (hsign h) hname.begins⟩
  | dollar h _ hdigits => exact ⟨by omega, hpiece (hsign h) hdigits.begins⟩
  | atSign _ _ hletter _ hdigits => exact ⟨by omega, hpiece (hsign hletter) hdigits.begins⟩

/-- A text from a character on. -/
theorem drop_eq_cons {cs : List Char} {i : Nat} {c : Char} (h : cs[i]? = some c) :
    cs.drop i = c :: cs.drop (i + 1) := by
  obtain ⟨hlt, rfl⟩ := List.getElem?_eq_some_iff.mp h
  exact List.drop_eq_getElem_cons hlt

/-- A placeholder that stands at a position is found there. -/
theorem PlaceholderAt.occurrence? {reading : Convention} {cs : List Char} {i e : Nat}
    {name : List Char} (h : PlaceholderAt reading cs i e name) :
    ∃ o, occurrence? reading (cs.drop i) = some o ∧ e = i + o.written.length ∧ name = o.name := by
  have hbounds := h.bounds
  cases h with
  | question hsign hreads =>
    rw [drop_eq_cons hsign]
    exact ⟨⟨['?'], []⟩, by rw [Rowbind.occurrence?, if_pos hreads], rfl, rfl⟩
  | parameter hsign hreads h =>
    have hne : name ≠ [] := by
      rintro rfl
      exact absurd h.fits.begins Bool.false_ne_true
    rw [drop_eq_cons hsign]
    refine ⟨⟨':' :: name, name⟩, ?_, ?_, rfl⟩
    · rw [Rowbind.occurrence?, if_pos hreads, h.eq_nameAt]
      exact signed?_of_ne_nil hne
    · simp only [List.length_cons]
      omega
  | dollar hsign hreads h =>
    rw [drop_eq_cons hsign]
    refine ⟨⟨'$' :: name, name⟩, ?_, ?_, rfl⟩
    · rw [Rowbind.occurrence?, if_pos hreads, h.eq_digitsAt]
      exact signed?_of_ne_nil h.fits.ne_nil
    · simp only [List.length_cons]
      omega
  | @atSign p _ hsign hreads hletter hp h =>
    rw [drop_eq_cons hsign, drop_eq_cons hletter]
    refine ⟨⟨'@' :: p :: name, name⟩, ?_, ?_, rfl⟩
    · rw [Rowbind.occurrence?, if_pos ⟨hreads, hp⟩, h.eq_digitsAt]
      exact signed?_of_ne_nil h.fits.ne_nil
    · simp only [List.length_cons]
      omega

/-- What is found at a position stands there. -/
theorem placeholderAt_of_occurrence? {reading : Convention} {cs : List Char} {i : Nat}
    {o : Occurrence} (h : occurrence? reading (cs.drop i) = some o) :
    PlaceholderAt reading cs i (i + o.written.length) o.name := by
  obtain ⟨rest, hcs, hstands⟩ := standsBefore_of_occurrence? h
  have hget : ∀ k, cs[i + k]? = (o.written ++ rest)[k]? := by
    intro k
    rw [← hcs, List.getElem?_drop]
  have hdrop : ∀ k, cs.drop (i + k) = (o.written ++ rest).drop k := by
    intro k
    rw [← hcs, List.drop_drop]
  cases hstands with
  | question d rest => exact .question (hget 0) rfl
  | @parameter _ name rest hreads h =>
    have hrest : cs.drop (i + 1) = name ++ rest := hdrop 1
    have htoken := PlaceholderAt.parameter (hget 0) hreads (hrest ▸ longest_name h)
    rwa [Nat.add_assoc, Nat.add_comm 1] at htoken
  | @dollar digits rest h =>
    have hrest : cs.drop (i + 1) = digits ++ rest := hdrop 1
    have htoken := PlaceholderAt.dollar (hget 0) rfl (hrest ▸ longest_ordinal h)
    rwa [Nat.add_assoc, Nat.add_comm 1] at htoken
  | @atSign p digits rest hp h =>
    have hrest : cs.drop (i + 2) = digits ++ rest := hdrop 2
    have htoken := PlaceholderAt.atSign (hget 0) rfl (hget 1) hp (hrest ▸ longest_ordinal h)
    rwa [Nat.add_assoc, Nat.add_comm 2] at htoken

/-! ## Checked access -/

/-- **The end of the run at a position.** -/
def runEnd? (p : Char → Bool) (cs : List Char) (e : Nat) : Option Nat :=
  if e < cs.length then do
    let c ← cs[e]?
    if p c then runEnd? p cs (e + 1) else return e
  else return e
termination_by cs.length - e

/-- **The end less the dots before it.** -/
def dropDots? (cs : List Char) : Nat → Option Nat
  | 0 => none
  | e + 1 => do
    let c ← cs[e]?
    if c = '.' then dropDots? cs e else return e + 1

/-- **The text from a position to another.** -/
def slice? (cs : List Char) (start stop : Nat) : Option (List Char) :=
  if start ≤ stop ∧ stop ≤ cs.length then some ((cs.drop start).take (stop - start)) else none

/-- A placeholder whose name is the text from a position to another. -/
def named? (cs : List Char) (start stop : Nat) : Option (Option (Nat × List Char)) := do
  let name ← slice? cs start stop
  return some (stop, name)

/-- A placeholder with the name from a position on. -/
def nameFrom? (cs : List Char) (start : Nat) : Option (Option (Nat × List Char)) := do
  let run ← runEnd? continuesName cs start
  let stop ← dropDots? cs run
  named? cs start stop

/-- A placeholder with the ordinal from a position on. -/
def ordinalFrom? (cs : List Char) (start : Nat) : Option (Option (Nat × List Char)) := do
  let stop ← runEnd? Char.isDigit cs start
  named? cs start stop

/-- **The placeholder at a position**, if there is one: its end and its name. -/
def placeholderAt? (reading : Convention) (cs : List Char) (i : Nat) :
    Option (Option (Nat × List Char)) := do
  let c ← cs[i]?
  if c = '?' ∧ reading.readsQuestion then
    return some (i + 1, [])
  else if reading.readsColon then
    if c = ':' ∧ cs[i + 1]?.any beginsName then nameFrom? cs (i + 1) else return none
  else if reading = .positional .dollar then
    if c = '$' ∧ cs[i + 1]?.any Char.isDigit then ordinalFrom? cs (i + 1) else return none
  else if reading = .positional .atSign then
    if c = '@' ∧ (cs[i + 1]? = some 'p' ∨ cs[i + 1]? = some 'P') ∧
        cs[i + 2]?.any Char.isDigit then
      ordinalFrom? cs (i + 2)
    else return none
  else return none

/-- The run at a position ends where no character goes on it. -/
theorem runEnd?_eq (p : Char → Bool) (cs : List Char) (e : Nat) :
    runEnd? p cs e = some (e + ((cs.drop e).takeWhile p).length) := by
  induction hn : cs.length - e generalizing e with
  | zero =>
    rw [runEnd?, if_neg (by omega), List.drop_eq_nil_of_le (by omega)]
    rfl
  | succ n ih =>
    have hlt : e < cs.length := by omega
    have hget : cs[e]? = some cs[e] := List.getElem?_eq_getElem hlt
    rw [runEnd?, if_pos hlt, hget, drop_eq_cons hget, Option.bind_eq_bind, Option.bind_some]
    by_cases hp : p cs[e] = true
    · rw [if_pos hp, ih (e + 1) (by omega), List.takeWhile_cons_of_pos hp, List.length_cons]
      exact congrArg some (by omega)
    · rw [if_neg hp, List.takeWhile_cons_of_neg hp]
      rfl

/-- **The dots at a run's end are given back**, and no more than the run: its first character is no
dot. The induction is on the run, from its end. -/
theorem dropDots?_eq {cs run rest : List Char} {start : Nat} (hcs : cs.drop start = run ++ rest)
    (hrun : ∃ c ∈ run.head?, c ≠ '.') :
    dropDots? cs (start + run.length) = some (start + (dropTrailingDots run).length) := by
  induction run using List.reverseRecOn generalizing rest with
  | nil =>
    obtain ⟨c, hc, -⟩ := hrun
    cases hc
  | append_singleton run a ih =>
    have hget : cs[start + run.length]? = some a := by
      rw [← List.getElem?_drop, hcs, List.append_assoc, List.getElem?_append_right (Nat.le_refl _),
        Nat.sub_self]
      rfl
    rw [List.length_append, List.length_singleton, ← Nat.add_assoc, dropDots?, hget]
    simp only [Option.bind_eq_bind, Option.bind_some]
    by_cases ha : a = '.'
    · subst ha
      have hdots : dropTrailingDots (run ++ ['.']) = dropTrailingDots run :=
        dropTrailingDots_append fun c hc => by rw [List.mem_singleton.mp hc]; rfl
      have hhead : ∃ c ∈ run.head?, c ≠ '.' := by
        cases run with
        | nil =>
          obtain ⟨c, hc, hne⟩ := hrun
          exact absurd (Option.some.inj hc).symm hne
        | cons b run => exact hrun
      have hdrop : cs.drop start = run ++ '.' :: rest := by
        rw [hcs, List.append_assoc]
        rfl
      rw [if_pos rfl, hdots, ih hdrop hhead]
    · rw [if_neg ha, dropTrailingDots_eq, List.rdropWhile_concat_neg _ _ _ (by simpa using ha),
        List.length_append, List.length_singleton]
      rfl

/-- The beginning of what follows a position is a piece of the text. -/
theorem slice?_prefix {cs piece : List Char} {start : Nat} (hstart : start ≤ cs.length)
    (h : piece <+: cs.drop start) : slice? cs start (start + piece.length) = some piece := by
  have hle := h.length_le
  rw [List.length_drop] at hle
  rw [slice?, if_pos ⟨Nat.le_add_right _ _, by omega⟩, Nat.add_sub_cancel_left,
    ← List.prefix_iff_eq_take.mp h]

/-- A position with a character is within the text. -/
theorem le_length_of_any {p : Char → Bool} {cs : List Char} {start : Nat}
    (h : cs[start]?.any p = true) : start ≤ cs.length := by
  obtain ⟨c, hc, -⟩ := (Option.any_eq_true _ _).mp h
  exact Nat.le_of_lt (List.getElem?_eq_some_iff.mp hc).1

/-- The name from a position on, where one begins. -/
theorem nameFrom?_eq {cs : List Char} {start : Nat} (h : cs[start]?.any beginsName = true) :
    nameAt (cs.drop start) ≠ [] ∧ nameFrom? cs start =
      some (some (start + (nameAt (cs.drop start)).length, nameAt (cs.drop start))) := by
  obtain ⟨c, hc, hbegins⟩ := (Option.any_eq_true _ _).mp h
  have hdrop := drop_eq_cons hc
  have hrun : cs.drop start = (cs.drop start).takeWhile continuesName ++
      (cs.drop start).dropWhile continuesName := List.takeWhile_append_dropWhile.symm
  have hhead : ∃ a ∈ ((cs.drop start).takeWhile continuesName).head?, a ≠ '.' := by
    rw [hdrop, List.takeWhile_cons_of_pos (continuesName_of_beginsName hbegins)]
    exact ⟨c, rfl, beginsName.ne_dot hbegins⟩
  have hname : nameAt (cs.drop start) =
      dropTrailingDots ((cs.drop start).takeWhile continuesName) := by
    rw [nameAt, if_pos]
    rwa [List.head?_drop]
  refine ⟨hdrop ▸ nameAt_ne_nil hbegins _, ?_⟩
  have hslice := slice?_prefix (le_length_of_any h) (nameAt_begins (cs.drop start))
  rw [nameFrom?, runEnd?_eq]
  simp only [Option.bind_eq_bind, Option.bind_some, dropDots?_eq hrun hhead, ← hname, named?,
    hslice]
  rfl

/-- The ordinal from a position on, where one begins. -/
theorem ordinalFrom?_eq {cs : List Char} {start : Nat} (h : cs[start]?.any Char.isDigit = true) :
    digitsAt (cs.drop start) ≠ [] ∧ ordinalFrom? cs start =
      some (some (start + (digitsAt (cs.drop start)).length, digitsAt (cs.drop start))) := by
  have hhead : ¬ (cs.drop start).head?.any Char.isDigit = false := by
    rw [List.head?_drop, h]
    exact Bool.noConfusion
  have hbegins : digitsAt (cs.drop start) <+: cs.drop start := List.takeWhile_prefix _
  have hslice := slice?_prefix (le_length_of_any h) hbegins
  refine ⟨fun hnil => hhead (digitsAt_eq_nil_iff.mp hnil), ?_⟩
  rw [ordinalFrom?, runEnd?_eq, ← digitsAt]
  simp only [Option.bind_eq_bind, Option.bind_some, named?, hslice]
  rfl

/-- **No access is at fault**, and what is found stands where it is found. -/
theorem placeholderAt?_sound (reading : Convention) {cs : List Char} {i : Nat}
    (hi : i < cs.length) :
    ∃ found, placeholderAt? reading cs i = some found ∧
      ∀ e name, found = some (e, name) → PlaceholderAt reading cs i e name := by
  have hget : cs[i]? = some cs[i] := List.getElem?_eq_getElem hi
  have hnone : ∀ e name, (none : Option (Nat × List Char)) = some (e, name) →
      PlaceholderAt reading cs i e name := nofun
  unfold placeholderAt?
  rw [hget]
  simp only [Option.bind_eq_bind, Option.bind_some]
  split_ifs with hquestion hcolon hname hdollar hdigits hat hdigits
  · refine ⟨_, rfl, ?_⟩
    rintro _ _ ⟨⟩
    exact .question (hquestion.1 ▸ hget) hquestion.2
  · obtain ⟨hne, heq⟩ := nameFrom?_eq hname.2
    refine ⟨_, heq, ?_⟩
    rintro _ _ ⟨⟩
    exact .parameter (hname.1 ▸ hget) hcolon (longest_nameAt hne)
  · exact ⟨none, rfl, hnone⟩
  · obtain ⟨hne, heq⟩ := ordinalFrom?_eq hdigits.2
    refine ⟨_, heq, ?_⟩
    rintro _ _ ⟨⟩
    exact .dollar (hdigits.1 ▸ hget) hdollar (longest_digitsAt hne)
  · exact ⟨none, rfl, hnone⟩
  · obtain ⟨hsign, hletter, hbegins⟩ := hdigits
    obtain ⟨hne, heq⟩ := ordinalFrom?_eq hbegins
    refine ⟨_, heq, ?_⟩
    rintro _ _ ⟨⟩
    obtain hp | hp := hletter
    · exact .atSign (hsign ▸ hget) hat hp (.inl rfl) (longest_digitsAt hne)
    · exact .atSign (hsign ▸ hget) hat hp (.inr rfl) (longest_digitsAt hne)
  · exact ⟨none, rfl, hnone⟩
  · exact ⟨none, rfl, hnone⟩

/-- A longest piece shows where it begins. -/
theorem Longest.any_head {form : List Char → Prop} {p : Char → Bool} {cs piece : List Char}
    {start : Nat} (h : Longest form (cs.drop start) piece) (hhead : piece.head?.any p = true) :
    cs[start]?.any p = true := by
  obtain ⟨rest, hrest⟩ := h.begins
  rw [← List.head?_drop]
  cases piece with
  | nil => exact absurd hhead Bool.false_ne_true
  | cons c piece => rwa [← hrest]

/-- What stands at a position is found there. -/
theorem PlaceholderAt.placeholderAt? {reading : Convention} {cs : List Char} {i e : Nat}
    {name : List Char} (h : PlaceholderAt reading cs i e name) :
    placeholderAt? reading cs i = some (some (e, name)) := by
  cases h with
  | question hsign hreads =>
    rw [Template.placeholderAt?, hsign, Option.bind_eq_bind, Option.bind_some,
      if_pos ⟨rfl, hreads⟩]
    rfl
  | parameter hsign hreads h =>
    have hname := h.any_head h.fits.begins
    rw [Template.placeholderAt?, hsign, Option.bind_eq_bind, Option.bind_some,
      if_neg fun hquestion => absurd hquestion.1 (by decide), if_pos hreads, if_pos ⟨rfl, hname⟩,
      (nameFrom?_eq hname).2, h.eq_nameAt]
  | dollar hsign hreads h =>
    subst hreads
    have hdigits := h.any_head h.fits.begins
    rw [Template.placeholderAt?, hsign, Option.bind_eq_bind, Option.bind_some,
      if_neg fun hquestion => absurd hquestion.1 (by decide), if_neg (by decide), if_pos rfl,
      if_pos ⟨rfl, hdigits⟩, (ordinalFrom?_eq hdigits).2, h.eq_digitsAt]
  | atSign hsign hreads hletter hp h =>
    subst hreads
    have hdigits := h.any_head h.fits.begins
    have hletters : cs[i + 1]? = some 'p' ∨ cs[i + 1]? = some 'P' := by
      rw [hletter]
      exact hp.imp (congrArg some) (congrArg some)
    rw [Template.placeholderAt?, hsign, Option.bind_eq_bind, Option.bind_some,
      if_neg fun hquestion => absurd hquestion.1 (by decide), if_neg (by decide),
      if_neg (by decide), if_pos rfl, if_pos ⟨rfl, hletters, hdigits⟩,
      (ordinalFrom?_eq hdigits).2, h.eq_digitsAt]

/-- **A placeholder is found at a position when it stands there.** -/
theorem placeholderAt?_eq_some_iff {reading : Convention} {cs : List Char} {i e : Nat}
    {name : List Char} :
    placeholderAt? reading cs i = some (some (e, name)) ↔ PlaceholderAt reading cs i e name := by
  refine ⟨fun h => ?_, PlaceholderAt.placeholderAt?⟩
  have hi : i < cs.length := by
    by_contra hbeyond
    rw [placeholderAt?, List.getElem?_eq_none (Nat.le_of_not_lt hbeyond)] at h
    cases h
  obtain ⟨found, hfound, hstands⟩ := placeholderAt?_sound reading hi
  exact hstands e name (Option.some.inj (hfound.symm.trans h))

/-- **Looking at a position is looking at the text from there on.** -/
theorem placeholderAt?_eq (reading : Convention) {cs : List Char} {i : Nat} (hi : i < cs.length) :
    placeholderAt? reading cs i =
      some ((occurrence? reading (cs.drop i)).map fun o => (i + o.written.length, o.name)) := by
  cases ho : occurrence? reading (cs.drop i) with
  | some o => exact (placeholderAt_of_occurrence? ho).placeholderAt?
  | none =>
    obtain ⟨found, hfound, hstands⟩ := placeholderAt?_sound reading hi
    cases found with
    | none => exact hfound
    | some found =>
      obtain ⟨o, hsome, -⟩ := (hstands found.1 found.2 rfl).occurrence?
      cases ho.symm.trans hsome

/-- The dot at the end of a sentence is no part of the name before it. -/
example : placeholderAt? .named "id = :row.id.".toList 5 = some (some (12, "row.id".toList)) := by
  rw [placeholderAt?_eq .named (by decide)]
  decide

/-! ## Going through a text -/

/-- **A way through a text of a length**, in rounds: what a round gives is added to what the later
rounds give. It is at fault when a round is, or when the rounds do not suffice. -/
def rounds? {α β : Type} (length : Nat) (round : Nat → Option (α × Nat)) (add : α → β → β)
    (done : β) : Nat → Nat → Option β
  | 0, i => if i < length then none else some done
  | left + 1, i =>
    if i < length then do
      let (a, next) ← round i
      let rest ← rounds? length round add done left next
      return add a rest
    else some done

/-- **A way whose every round gets on comes to its end**, in as many rounds as there are characters
left. -/
theorem rounds?_eq {α β : Type} {length : Nat} {round : Nat → Option (α × Nat)} {add : α → β → β}
    {done : β} {read : Nat → β} (hdone : ∀ i, length ≤ i → read i = done)
    (hround : ∀ i < length, ∃ a next, round i = some (a, next) ∧ i < next ∧
      read i = add a (read next)) :
    ∀ left i, length - i ≤ left → rounds? length round add done left i = some (read i) := by
  intro left
  induction left with
  | zero =>
    intro i hleft
    rw [rounds?, if_neg (by omega), hdone i (by omega)]
  | succ left ih =>
    intro i hleft
    by_cases hi : i < length
    · obtain ⟨a, next, heq, hnext, hread⟩ := hround i hi
      rw [rounds?, if_pos hi, heq]
      simp only [Option.bind_eq_bind, Option.bind_some]
      rw [ih next (by omega), hread]
      rfl
    · rw [rounds?, if_neg hi, hdone i (by omega)]

/-- **A round of reading**: the token at a position, and where the next one begins. -/
def tokenAt? (reading : Convention) (cs : List Char) (i : Nat) : Option (Token × Nat) := do
  let c ← cs[i]?
  if isBlank c then
    let stop ← runEnd? isBlank cs i
    return (.literal ' ', stop)
  else if reading.readsColon && c == ':' && cs[i + 1]? == some ':' then
    return (.literal ':', i + 2)
  else
    match ← placeholderAt? reading cs i with
    | some (stop, name) =>
      let written ← slice? cs i stop
      return (.placeholder ⟨written, name⟩, stop)
    | none => return (.literal c, i + 1)

/-- **A round of counting**: how many placeholders stand at a position, and where to go on. -/
def countAt? (d : Dialect) (cs : List Char) (i : Nat) : Option (Nat × Nat) := do
  let c ← cs[i]?
  if d == .named && c == ':' && cs[i + 1]? == some ':' then
    return (0, i + 2)
  else
    match ← placeholderAt? (.positional d) cs i with
    | some (stop, _) => return (1, stop)
    | none => return (0, i + 1)

/-- **The tokens of a text**, read by positions. -/
def readThrough? (reading : Convention) (cs : List Char) : Option (List Token) :=
  rounds? cs.length (tokenAt? reading cs) List.cons [] cs.length 0

/-- **The number of placeholders in a text**, counted by positions. -/
def countThrough? (d : Dialect) (cs : List Char) : Option Nat :=
  rounds? cs.length (countAt? d cs) (· + ·) 0 cs.length 0

/-- What is written at a position is a piece of the text. -/
theorem slice?_written {reading : Convention} {cs : List Char} {i : Nat} {o : Occurrence}
    (hi : i < cs.length) (ho : occurrence? reading (cs.drop i) = some o) :
    slice? cs i (i + o.written.length) = some o.written :=
  slice?_prefix (Nat.le_of_lt hi) (occurrence?_written ho).1

/-- Behind an occurrence a reading goes on with the text from its end on. -/
theorem drop_written {reading : Convention} {cs : List Char} {i : Nat} {o : Occurrence}
    (ho : occurrence? reading (cs.drop i) = some o) :
    (cs.drop (i + 1)).drop (o.written.length - 1) = cs.drop (i + o.written.length) := by
  have hpos := List.length_pos_of_ne_nil (occurrence?_written ho).2
  rw [List.drop_drop]
  exact congrArg cs.drop (by omega)

/-- Behind a run a text goes on without it. -/
theorem drop_takeWhile (p : Char → Bool) (cs : List Char) (i : Nat) :
    cs.drop (i + ((cs.drop i).takeWhile p).length) = (cs.drop i).dropWhile p := by
  rw [← List.drop_drop]
  exact List.append_cancel_left ((List.prefix_iff_eq_append.mp (List.takeWhile_prefix p)).trans
    List.takeWhile_append_dropWhile.symm)

/-- Two colons at a position are seen there. -/
theorem escapes_drop (reading : Convention) {cs : List Char} {i : Nat} {c : Char}
    (hget : cs[i]? = some c) :
    (reading.readsColon && c == ':' && cs[i + 1]? == some ':') = escapes reading (cs.drop i) := by
  rw [escapes, List.drop_drop, List.head?_drop, List.head?_drop, hget]
  rfl

/-- **A round of reading takes one token**, and gets on. -/
theorem tokenAt?_eq (reading : Convention) {cs : List Char} {i : Nat} (hi : i < cs.length) :
    ∃ t next, tokenAt? reading cs i = some (t, next) ∧ i < next ∧
      tokens reading (cs.drop i) = t :: tokens reading (cs.drop next) := by
  obtain ⟨c, hget⟩ : ∃ c, cs[i]? = some c := ⟨_, List.getElem?_eq_getElem hi⟩
  have hdrop := drop_eq_cons hget
  rw [tokenAt?, hget, Option.bind_eq_bind, Option.bind_some, escapes_drop reading hget]
  by_cases hb : isBlank c = true
  · refine ⟨.literal ' ', i + ((cs.drop i).takeWhile isBlank).length, ?_, ?_, ?_⟩
    · rw [if_pos hb, runEnd?_eq]
      rfl
    · rw [hdrop, List.takeWhile_cons_of_pos hb, List.length_cons]
      omega
    · rw [drop_takeWhile, hdrop, tokens_blank reading hb, List.dropWhile_cons_of_pos hb]
  rw [if_neg hb]
  have hb := Bool.not_eq_true _ ▸ hb
  by_cases he : escapes reading (cs.drop i) = true
  · obtain ⟨hreads, rest, hcolons⟩ := eq_colons_of_escapes he
    refine ⟨.literal ':', i + 2, if_pos he, by omega, ?_⟩
    rw [← List.drop_drop, hcolons, tokens_escape reading hreads]
    rfl
  rw [if_neg he, placeholderAt?_eq reading hi]
  have he := Bool.not_eq_true _ ▸ he
  cases ho : occurrence? reading (cs.drop i) with
  | some o =>
    have hbounds := (placeholderAt_of_occurrence? ho).bounds
    refine ⟨.placeholder o, i + o.written.length, ?_, hbounds.1, ?_⟩
    · simp only [Option.map_some, Option.bind_eq_bind, Option.bind_some, slice?_written hi ho]
      rfl
    · rw [← drop_written ho]
      rw [hdrop] at he ho ⊢
      exact tokens_occurrence reading hb he ho
  | none =>
    refine ⟨.literal c, i + 1, rfl, Nat.lt_succ_self i, ?_⟩
    rw [hdrop] at he ho ⊢
    exact tokens_literal reading hb he ho

/-- **A round of counting takes one placeholder or none**, and gets on. -/
theorem countAt?_eq (d : Dialect) {cs : List Char} {i : Nat} (hi : i < cs.length) :
    ∃ n next, countAt? d cs i = some (n, next) ∧ i < next ∧
      countFrom d (cs.drop i) = n + countFrom d (cs.drop next) := by
  obtain ⟨c, hget⟩ : ∃ c, cs[i]? = some c := ⟨_, List.getElem?_eq_getElem hi⟩
  have hdrop := drop_eq_cons hget
  have hnext : (cs.drop (i + 1)).head? = cs[i + 1]? := List.head?_drop
  rw [countAt?, hget, Option.bind_eq_bind, Option.bind_some, hdrop, countFrom, hnext]
  by_cases he : (d == .named && c == ':' && cs[i + 1]? == some ':') = true
  · refine ⟨0, i + 2, if_pos he, by omega, ?_⟩
    rw [if_pos he, List.drop_drop, Nat.zero_add]
  rw [if_neg he, if_neg he, placeholderAt?_eq (.positional d) hi, ← hdrop]
  cases ho : occurrence? (.positional d) (cs.drop i) with
  | some o =>
    have hbounds := (placeholderAt_of_occurrence? ho).bounds
    refine ⟨1, i + o.written.length, rfl, hbounds.1, ?_⟩
    rw [← drop_written ho]
    exact Nat.add_comm _ 1
  | none => exact ⟨0, i + 1, rfl, Nat.lt_succ_self i, (Nat.zero_add _).symm⟩

/-- **Reading by positions comes to its end**, with the tokens of the text. -/
theorem readThrough?_eq (reading : Convention) (cs : List Char) :
    readThrough? reading cs = some (tokens reading cs) := by
  refine rounds?_eq (fun i hi => ?_) (fun i => tokenAt?_eq reading) cs.length 0 (Nat.sub_le _ _)
  rw [List.drop_eq_nil_of_le hi, tokens_nil]

/-- **Counting by positions comes to its end**, with the count of the text. -/
theorem countThrough?_eq (d : Dialect) (cs : List Char) :
    countThrough? d cs = some (countFrom d cs) := by
  refine rounds?_eq (fun i hi => ?_) (fun i => countAt?_eq d) cs.length 0 (Nat.sub_le _ _)
  rw [List.drop_eq_nil_of_le hi, countFrom]

/-- **Placeholders are well formed, and every reading gets on.** Looking for a placeholder is at
fault just beyond the text. One is found where one stands: behind a question mark nothing, behind a
colon the longest name, behind a sign of ordinals the longest ordinal; and then it ends behind where
it begins, and within the text. So reading and counting come to their ends, and no access is at
fault. -/
theorem placeholders_wellFormed (reading : Convention) (d : Dialect) (cs : List Char) (i : Nat) :
    (placeholderAt? reading cs i = none ↔ cs.length ≤ i) ∧
      (∀ e name, placeholderAt? reading cs i = some (some (e, name)) ↔
        PlaceholderAt reading cs i e name ∧ i < e ∧ e ≤ cs.length) ∧
      readThrough? reading cs = some (tokens reading cs) ∧
      countThrough? d cs = some (countFrom d cs) := by
  refine ⟨?_, fun e name => ?_, readThrough?_eq reading cs, countThrough?_eq d cs⟩
  · constructor
    · intro hfault
      by_contra hi
      rw [placeholderAt?_eq reading (Nat.lt_of_not_le hi)] at hfault
      cases hfault
    · intro hi
      rw [placeholderAt?, List.getElem?_eq_none hi]
      rfl
  · rw [placeholderAt?_eq_some_iff]
    exact ⟨fun h => ⟨h, h.bounds⟩, And.left⟩

end Rowbind.Template
