import Rowbind.Text.SnakeCase

/-!
# Snake case only lowers and separates

The snake case of a name in ASCII is the name's lower-case form with underscores put in between, and
an underscore is only ever put between two characters that are none. `Spaced` says what that is for
any two texts, and not how it is decided where an underscore goes. That nothing is lost, that the
ends stay as they are and that no underscore comes to follow another are laws of `Spaced`.

The character before is what the induction carries along: in `snakeAfter` it is a character of the
name, in `Spaced` its lower-case form.

Beyond ASCII the laws fail: there are capitals without a lower-case form, and one whose form is two
characters.
-/

namespace Rowbind.Text

/-! ## ASCII letters -/

/-- What holds of the first characters holds of an ASCII character. -/
theorem of_ascii {p : Char → Prop} (h : ∀ n < 0x80, p (Char.ofNat n)) {c : Char}
    (hc : c.toNat < 0x80) : p c :=
  Char.ofNat_toNat c ▸ h c.toNat hc

theorem isUppercase_toLower {c : Char} (hc : c.toNat < 0x80) : isUppercase c.toLower = false :=
  of_ascii (p := fun c => isUppercase c.toLower = false) (by decide) hc

theorem toLower_of_not_upper {c : Char} (hc : c.toNat < 0x80) :
    isUppercase c = false → c.toLower = c :=
  of_ascii (p := fun c => isUppercase c = false → c.toLower = c) (by decide) hc

theorem toLower_eq_underscore {c : Char} (hc : c.toNat < 0x80) : c.toLower = '_' ↔ c = '_' :=
  of_ascii (p := fun c => c.toLower = '_' ↔ c = '_') (by decide) hc

/-- A capital is no underscore. -/
theorem ne_underscore_of_upper {c : Char} (h : isUppercase c = true) : c ≠ '_' := by
  rintro rfl
  exact absurd h (by decide)

/-- In ASCII no character takes more than one for its lower-case form, and none is a sigma. -/
theorem lowerAfter_ascii (before : List Char) {cs : List Char} (hcs : ∀ c ∈ cs, c.toNat < 0x80) :
    lowerAfter before cs = cs.map Char.toLower := by
  induction cs generalizing before with
  | nil => rfl
  | cons c cs ih =>
    obtain ⟨hc, hcs⟩ := List.forall_mem_cons.mp hcs
    have hsigma : c ≠ 'Σ' := by
      rintro rfl
      exact absurd hc (by decide)
    have hlower : lower c = [c.toLower] := if_pos hc
    simp only [lowerAfter, if_neg hsigma, hlower, ih _ hcs, List.map_cons, List.cons_append,
      List.nil_append]

theorem toList_lowercase {s : String} (hs : ∀ c ∈ s.toList, c.toNat < 0x80) :
    (lowercase s).toList = s.toList.map Char.toLower := by
  rw [lowercase, String.toList_ofList, lowerAfter_ascii [] hs]

/-! ## Underscores put in between -/

/-- **Whether a text is another one with underscores put in between**, each of them between two
characters that are no underscores. `before` is the character before both texts. -/
inductive Spaced : Option Char → List Char → List Char → Prop
  | done {before : Option Char} : Spaced before [] []
  | keep {before : Option Char} {c : Char} {cs out : List Char} (h : Spaced (some c) cs out) :
      Spaced before (c :: cs) (c :: out)
  | between {p c : Char} {cs out : List Char} (hp : p ≠ '_') (hc : c ≠ '_')
      (h : Spaced (some c) cs out) : Spaced (some p) (c :: cs) ('_' :: c :: out)

/-- How often an underscore follows another. -/
def doubledUnderscores : List Char → Nat
  | c :: c' :: cs => (if c = '_' ∧ c' = '_' then 1 else 0) + doubledUnderscores (c' :: cs)
  | _ => 0

namespace Spaced

variable {before : Option Char} {cs out : List Char}

/-- Whatever is put in is an underscore. -/
theorem mem (h : Spaced before cs out) {c : Char} (hc : c ∈ out) : c = '_' ∨ c ∈ cs := by
  induction h with
  | done => exact absurd hc List.not_mem_nil
  | keep _ ih =>
    rcases List.mem_cons.mp hc with rfl | hc
    · exact .inr List.mem_cons_self
    · exact (ih hc).imp_right (List.mem_cons_of_mem _)
  | between _ _ _ ih =>
    rcases List.mem_cons.mp hc with rfl | hc
    · exact .inl rfl
    · rcases List.mem_cons.mp hc with rfl | hc
      · exact .inr List.mem_cons_self
      · exact (ih hc).imp_right (List.mem_cons_of_mem _)

/-- **Nothing is lost**: without underscores the two texts are the same. -/
theorem filter_eq (h : Spaced before cs out) : out.filter (· ≠ '_') = cs.filter (· ≠ '_') := by
  induction h with
  | done => rfl
  | keep _ ih => rw [List.filter_cons, List.filter_cons, ih]
  | between _ _ _ ih =>
    rw [List.filter_cons_of_neg (by decide), List.filter_cons, List.filter_cons, ih]

/-- **Nothing is put in front.** -/
theorem head?_eq (h : Spaced none cs out) : out.head? = cs.head? := by
  cases h with
  | done => rfl
  | keep _ => rfl

/-- **Nothing is put at the end.** -/
theorem getLast?_eq (h : Spaced before cs out) : out.getLast? = cs.getLast? := by
  induction h with
  | done => rfl
  | keep _ ih => rw [List.getLast?_cons, List.getLast?_cons, ih]
  | between _ _ _ ih => rw [List.getLast?_cons_cons, List.getLast?_cons, List.getLast?_cons, ih]

/-- Behind the character before, as many underscores follow another in both texts. -/
theorem doubled_behind (h : Spaced before cs out) :
    doubledUnderscores (before.toList ++ out) = doubledUnderscores (before.toList ++ cs) := by
  induction h with
  | done => rfl
  | @keep before c cs out _ ih =>
    simp only [Option.toList_some, List.cons_append, List.nil_append] at ih
    cases before with
    | none => exact ih
    | some p =>
      simp only [Option.toList_some, List.cons_append, List.nil_append, doubledUnderscores, ih]
  | between hp hc _ ih =>
    simp only [Option.toList_some, List.cons_append, List.nil_append] at ih ⊢
    simp only [doubledUnderscores, hp, hc, false_and, and_false, if_false, Nat.zero_add,
      ih]

/-- **No underscore comes to follow another.** -/
theorem doubled_eq (h : Spaced none cs out) : doubledUnderscores out = doubledUnderscores cs :=
  h.doubled_behind

end Spaced

/-! ## Snake case -/

/-- A word begins behind a character that is no underscore. -/
theorem eq_some_of_beginsWord {before after : Option Char} (h : beginsWord before after = true) :
    ∃ p, before = some p ∧ p ≠ '_' := by
  unfold beginsWord at h
  split at h
  · cases h
  · rename_i p
    refine ⟨p, rfl, ?_⟩
    rintro rfl
    cases h

/-- A character of a name in ASCII stands in small in its snake case, behind an underscore if it
begins a word. -/
theorem snakeAfter_cons (before : Option Char) {c : Char} (hc : c.toNat < 0x80) (cs : List Char) :
    snakeAfter before (c :: cs) =
      if isUppercase c && beginsWord before cs.head? then '_' :: c.toLower :: snakeAfter (some c) cs
      else c.toLower :: snakeAfter (some c) cs := by
  have hlower : lower c = [c.toLower] := if_pos hc
  cases hupper : isUppercase c with
  | false => simp [snakeAfter, hupper, toLower_of_not_upper hc hupper]
  | true => cases hword : beginsWord before cs.head? <;> simp [snakeAfter, hupper, hword, hlower]

/-- The snake case of what follows a character is its lower-case form with underscores in between.
-/
theorem spaced_snakeAfter {before : Option Char} {cs : List Char}
    (hbefore : ∀ p ∈ before, p.toNat < 0x80) (hcs : ∀ c ∈ cs, c.toNat < 0x80) :
    Spaced (before.map Char.toLower) (cs.map Char.toLower) (snakeAfter before cs) := by
  induction cs generalizing before with
  | nil => exact .done
  | cons c cs ih =>
    obtain ⟨hc, hcs⟩ := List.forall_mem_cons.mp hcs
    have hrest := @ih (some c) (fun p hp => Option.some.inj hp ▸ hc) hcs
    rw [snakeAfter_cons before hc]
    split
    · rename_i hword
      obtain ⟨hupper, hbegins⟩ := Bool.and_eq_true_iff.mp hword
      obtain ⟨p, rfl, hp⟩ := eq_some_of_beginsWord hbegins
      refine .between ?_ ?_ hrest
      · exact fun h => hp ((toLower_eq_underscore (hbefore p rfl)).mp h)
      · exact fun h => ne_underscore_of_upper hupper ((toLower_eq_underscore hc).mp h)
    · exact .keep hrest

/-- A text without capitals is its own snake case. -/
theorem snakeAfter_of_not_upper (before : Option Char) {cs : List Char}
    (h : ∀ c ∈ cs, isUppercase c = false) : snakeAfter before cs = cs := by
  induction cs generalizing before with
  | nil => rfl
  | cons c cs ih =>
    obtain ⟨hc, hcs⟩ := List.forall_mem_cons.mp h
    simp only [snakeAfter, hc, Bool.false_eq_true, if_false, ih _ hcs, List.cons_append,
      List.nil_append]

/-- **Snake case only lowers and separates.** -/
theorem snakeCase_separates {s : String} (hs : ∀ c ∈ s.toList, c.toNat < 0x80) :
    (∀ c ∈ (snakeCase s).toList, isUppercase c = false) ∧
      (snakeCase s).toList.filter (· ≠ '_') = (lowercase s).toList.filter (· ≠ '_') ∧
      -- an underscore is put between two characters that are none, so neither at the beginning nor
      -- at the end nor beside another one
      Spaced none (lowercase s).toList (snakeCase s).toList ∧
      (snakeCase s).toList.head? = (lowercase s).toList.head? ∧
      (snakeCase s).toList.getLast? = (lowercase s).toList.getLast? ∧
      doubledUnderscores (snakeCase s).toList = doubledUnderscores (lowercase s).toList ∧
      snakeCase (snakeCase s) = snakeCase s := by
  have hsmall : (lowercase s).toList = s.toList.map Char.toLower := toList_lowercase hs
  have hsnake : (snakeCase s).toList = snakeAfter none s.toList := String.toList_ofList
  have hspaced : Spaced none (lowercase s).toList (snakeCase s).toList := by
    rw [hsmall, hsnake]
    exact @spaced_snakeAfter none s.toList nofun hs
  have hupper : ∀ c ∈ (snakeCase s).toList, isUppercase c = false := by
    intro c hc
    rcases hspaced.mem hc with rfl | hc
    · decide
    · rw [hsmall] at hc
      obtain ⟨a, ha, rfl⟩ := List.mem_map.mp hc
      exact isUppercase_toLower (hs a ha)
  have hsame : snakeCase (snakeCase s) = snakeCase s := by
    refine String.toList_injective ?_
    rw [snakeCase, String.toList_ofList]
    exact snakeAfter_of_not_upper none hupper
  exact ⟨hupper, hspaced.filter_eq, hspaced, hspaced.head?_eq, hspaced.getLast?_eq,
    hspaced.doubled_eq, hsame⟩

/-- A name with a row of capitals, a digit and underscores of its own. -/
theorem snakeCase_separates_of_server :
    (∀ c ∈ "HTTPServer2Go__V1_".toList, c.toNat < 0x80) ∧
      snakeCase "HTTPServer2Go__V1_" = "http_server2_go__v1_" ∧
      Spaced none "httpserver2go__v1_".toList "http_server2_go__v1_".toList ∧
      snakeCase "http_server2_go__v1_" = "http_server2_go__v1_" := by
  have hascii : ∀ c ∈ "HTTPServer2Go__V1_".toList, c.toNat < 0x80 := by simp
  have hsnake : snakeCase "HTTPServer2Go__V1_" = "http_server2_go__v1_" := by decide
  have hsmall : lowercase "HTTPServer2Go__V1_" = "httpserver2go__v1_" := by decide
  obtain ⟨-, -, hspaced, -, -, -, hsame⟩ := snakeCase_separates hascii
  rw [hsnake] at hsame
  rw [hsnake, hsmall] at hspaced
  exact ⟨hascii, hsnake, hspaced, hsame⟩

end Rowbind.Text
