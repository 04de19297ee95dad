import Rowbind.Proofs.Template.Division

/-!
# The grammar of a template

`Reads cs ts` says what it is for a template with named parameters to read as the tokens `ts`, and
not how the tokens are found: a run of blanks is one space, two colons are one, a colon with a name
behind it is a parameter, and any other character is itself. Runs and names are as long as they can
be. A name has no dot at its end, so the dots after it are left to the text.

It is the division of a text by the convention of named parameters (`reads_iff_divides`), with what
makes a colon stand alone said of the character behind it. So every text reads as its tokens and as
nothing else (`reads_iff`), and the division of a template into literal pieces and parameters is a
fact about the template, whatever it is read for.
-/

namespace Rowbind.Template

open Text

/-- **Whether a text reads as tokens.** -/
inductive Reads : List Char → List Token → Prop
  | done : Reads [] []
  | blanks {run rest : List Char} {ts : List Token} (hne : run ≠ [])
      (hrun : ∀ c ∈ run, isBlank c = true) (hrest : rest.head?.any isBlank = false)
      (h : Reads rest ts) : Reads (run ++ rest) (.literal ' ' :: ts)
  | colons {rest : List Char} {ts : List Token} (h : Reads rest ts) :
      Reads (':' :: ':' :: rest) (.literal ':' :: ts)
  | parameter {name rest : List Char} {ts : List Token} (hname : NameBefore name rest)
      (h : Reads rest ts) : Reads (':' :: (name ++ rest)) (.placeholder ⟨':' :: name, name⟩ :: ts)
  | literal {c : Char} {rest : List Char} {ts : List Token} (hblank : isBlank c = false)
      (hcolon : c = ':' → ∀ a, rest.head? = some a → a ≠ ':' ∧ beginsName a = false)
      (h : Reads rest ts) : Reads (c :: rest) (.literal c :: ts)

/-- A colon stands alone where neither a colon nor a name is behind it. -/
theorem not_standsBefore_named {c : Char} {rest : List Char}
    (hcolon : c = ':' → ∀ a, rest.head? = some a → beginsName a = false) (o : Occurrence)
    (after : List Char) (hrest : c :: rest = o.written ++ after) :
    ¬ StandsBefore .named o after := by
  intro h
  cases h with
  | parameter _ hname =>
    obtain ⟨rfl, rfl⟩ := List.cons.inj hrest
    obtain ⟨a, name, rfl⟩ := List.exists_cons_of_ne_nil hname.ne_nil
    exact Bool.eq_false_iff.mp (hcolon rfl a rfl) hname.begins

/-- A text that reads as tokens divides into them. -/
theorem Reads.divides {cs : List Char} {ts : List Token} (h : Reads cs ts) :
    Divides .named cs ts := by
  induction h with
  | done => exact .done
  | blanks hne hrun hrest _ ih => exact .blanks hne hrun hrest ih
  | colons _ ih => exact .colons rfl ih
  | parameter hname _ ih => exact .placeholder (.parameter rfl hname) ih
  | literal hblank hcolon _ ih =>
    exact .literal hblank (fun _ hc hhead => (hcolon hc ':' hhead).1 rfl)
      (not_standsBefore_named fun hc a ha => (hcolon hc a ha).2) ih

/-- A text that divides into tokens reads as them. -/
theorem Divides.reads {cs : List Char} {ts : List Token} (h : Divides .named cs ts) :
    Reads cs ts := by
  induction h with
  | done => exact .done
  | blanks hne hrun hrest _ ih => exact .blanks hne hrun hrest ih
  | colons _ _ ih => exact .colons ih
  | placeholder ho _ ih =>
    cases ho with
    | parameter _ hname => exact .parameter hname ih
  | @literal c rest ts hblank hcolons hnone _ ih =>
    refine .literal hblank ?_ ih
    rintro rfl a ha
    obtain ⟨tail, rfl⟩ := List.head?_eq_some_iff.mp ha
    refine ⟨?_, Bool.eq_false_iff.mpr fun hbegins => ?_⟩
    · rintro rfl
      exact hcolons rfl rfl rfl
    · -- the name that begins there would have been a parameter's
      have hname := nameBefore_nameAt (nameAt_ne_nil hbegins tail)
      refine hnone ⟨':' :: nameAt (a :: tail), nameAt (a :: tail)⟩ _ ?_ (.parameter rfl hname)
      rw [List.cons_append, List.prefix_iff_eq_append.mp (nameAt_begins (a :: tail))]

/-- **Reading is dividing**, where colons name parameters. -/
theorem reads_iff_divides {cs : List Char} {ts : List Token} :
    Reads cs ts ↔ Divides .named cs ts := ⟨Reads.divides, Divides.reads⟩

/-- **A text reads as its tokens, and as nothing else.** -/
theorem reads_iff {cs : List Char} {ts : List Token} : Reads cs ts ↔ ts = tokens .named cs :=
  reads_iff_divides.trans divides_iff

/-- A text reads as its tokens. -/
theorem reads_tokens (cs : List Char) : Reads cs (tokens .named cs) := reads_iff.mpr rfl

end Rowbind.Template
