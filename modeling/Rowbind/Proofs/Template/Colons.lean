import Rowbind.Proofs.Template.Folding
import Rowbind.Proofs.Template.Rereading

/-!
# Colons

Two colons are read as one literal colon, so any text can be written literally: with its colons
doubled it has no parameters, and it is rendered as itself, folded (`renderNamed_doubleColons`).

In the named dialect this has a price. A rendering is read by the same rule once more, but a literal
colon is written as one colon and not as two. So a colon that was literal may name a placeholder,
and one that is written beside a placeholder's own takes it away. What becomes of a run of colons
hangs on its length alone: `n` colons become `(n + 1) / 2`, and every second one of these begins a
placeholder where a name stands behind it. The placeholders read are those written, with the
revived ones more and the hidden ones less (`render_counted`), and the two numbers agree exactly
where as many are revived as are hidden (`colons_counted_iff`).
-/

namespace Rowbind

open Text

/-! ## Text written literally -/

/-- **A text with every colon doubled.** -/
def doubleColons (cs : List Char) : List Char :=
  cs.flatMap fun c => if c = ':' then [':', ':'] else [c]

theorem doubleColons_colon (cs : List Char) :
    doubleColons (':' :: cs) = ':' :: ':' :: doubleColons cs := rfl

theorem doubleColons_cons {c : Char} (hc : c ≠ ':') (cs : List Char) :
    doubleColons (c :: cs) = c :: doubleColons cs := by
  simp [doubleColons, hc]

/-- Blanks are not doubled. -/
theorem doubleColons_dropWhile (cs : List Char) :
    (doubleColons cs).dropWhile isBlank = doubleColons (cs.dropWhile isBlank) := by
  induction cs with
  | nil => rfl
  | cons c cs ih =>
    by_cases hc : isBlank c = true
    · have hcolon : c ≠ ':' := by
        rintro rfl
        exact absurd hc (by decide)
      rw [doubleColons_cons hcolon, List.dropWhile_cons_of_pos hc, List.dropWhile_cons_of_pos hc,
        ih]
    · rw [List.dropWhile_cons_of_neg hc]
      by_cases hcolon : c = ':'
      · rw [hcolon]
        rfl
      · rw [doubleColons_cons hcolon, List.dropWhile_cons_of_neg hc]

namespace Template

/-- **A text with its colons doubled is read as its characters**, folded. The induction is on the
length: behind a blank the reader is past the whole run. -/
theorem tokens_doubleColons (cs : List Char) :
    tokens .named (doubleColons cs) = (foldBlanks cs).map .literal := by
  induction hn : cs.length using Nat.strongRecOn generalizing cs with
  | ind n ih =>
    subst hn
    cases cs with
    | nil => exact tokens_nil _
    | cons c cs =>
      have hrest := ih cs.length (Nat.lt_succ_self _) cs rfl
      by_cases hcolon : c = ':'
      · rw [hcolon, doubleColons_colon, tokens_escape _ rfl, hrest, foldBlanks_cons (by decide)]
        rfl
      · rw [doubleColons_cons hcolon]
        by_cases hc : isBlank c = true
        · have hshorter : (cs.dropWhile isBlank).length < (c :: cs).length :=
            Nat.lt_succ_of_le (List.dropWhile_suffix _).length_le
          rw [tokens_blank _ hc, doubleColons_dropWhile, ih _ hshorter _ rfl, foldBlanks_blank hc,
            foldFrom_true]
          rfl
        · have hc : isBlank c = false := Bool.not_eq_true _ ▸ hc
          have ho : occurrence? .named (c :: doubleColons cs) = none := by
            rw [Option.eq_none_iff_forall_not_mem]
            exact fun o ho => hcolon (occurrence?_named ho).1
          rw [tokens_literal _ hc (escapes_of_ne _ hcolon _) ho, hrest, foldBlanks_cons hc]
          rfl

/-- Literal characters have no occurrences. -/
theorem occurrences_literals (cs : List Char) : occurrences (cs.map .literal) = [] := by
  induction cs with
  | nil => rfl
  | cons c cs ih => exact ih

/-- Literal characters are written as they are. -/
theorem write_literals (d : Dialect) (repeats : Repeats) (k w : Nat) (cs : List Char) :
    write d repeats k w (cs.map .literal) = cs := by
  induction cs with
  | nil => rfl
  | cons c cs ih => exact congrArg (c :: ·) ih

/-- **Any text can be written literally.** With its colons doubled it is rendered in every dialect,
without parameters or placeholders, as the text with one space for every run of blanks. -/
theorem renderNamed_doubleColons (text : String) (d : Dialect) (repeats : Repeats) :
    renderNamed (String.ofList (doubleColons text.toList)) d repeats =
      .ok ⟨foldText text, [], 0⟩ := by
  have hread : tokens .named (String.ofList (doubleColons text.toList)).toList =
      (foldBlanks text.toList).map .literal := by
    rw [String.toList_ofList, tokens_doubleColons]
  have hnone : ∀ k < (occurrences (tokens .named
      (String.ofList (doubleColons text.toList)).toList)).length, repeats k ≠ 0 := by
    rw [hread, occurrences_literals]
    exact fun k hk => absurd hk (Nat.not_lt_zero k)
  rw [renderNamed, render_of_written _ _ _ _ hnone, hread, occurrences_literals, write_literals]
  rfl

/-- Colons in a row, before a name and at the end. -/
example : renderNamed "a::::b ::c::" .dollar .once = .ok ⟨"a::b :c:", [], 0⟩ := by decide +kernel

/-! ## Colons before names and question marks -/

/-- **How many names and question marks stand directly behind so many colons**: a name behind `k`
colons counts if `name k` is true, and a question mark if `question k` is. The text stands behind
`n` colons itself. -/
def countBehind (name question : Nat → Bool) (n : Nat) : List Char → Nat
  | [] => 0
  | c :: cs =>
    if c = ':' then countBehind name question (n + 1) cs
    else
      (if beginsName c && name n || c == '?' && question n then 1 else 0) +
        countBehind name question 0 cs

/-- **The placeholders of a text in the named dialect**: the question marks, and the names behind
an odd number of colons. -/
def marked (n : Nat) (cs : List Char) : Nat :=
  countBehind (· % 2 == 1) (fun _ => true) n cs

/-- **Literal names that become placeholders**: of two colons too many one is left. -/
def revived (n : Nat) (cs : List Char) : Nat :=
  countBehind (· % 4 == 2) (fun _ => false) n cs

/-- **Placeholders that become literal**: the colon of theirs is the second one of two. -/
def hidden (n : Nat) (cs : List Char) : Nat :=
  countBehind (· % 4 == 3) (fun n => n % 4 == 1 || n % 4 == 2) n cs

/-- **Whether a text is read from its head on**, behind `n` colons: the last one of an odd number
stands alone, and goes with nothing behind it. -/
def ReadBehind (n : Nat) (cs : List Char) : Prop :=
  n % 2 = 1 → ∀ c, cs.head? = some c → c ≠ ':' ∧ beginsName c = false

theorem readBehind_of_even {n : Nat} (hn : n % 2 = 0) (cs : List Char) : ReadBehind n cs :=
  fun hodd => absurd (hn.symm.trans hodd) Nat.zero_ne_one

theorem readBehind_zero (cs : List Char) : ReadBehind 0 cs := readBehind_of_even rfl cs

/-- Before a colon, the colons have gone two by two. -/
theorem ReadBehind.even_of_colon {n : Nat} {cs : List Char} (h : ReadBehind n (':' :: cs)) :
    n % 2 = 0 :=
  (Nat.mod_two_eq_zero_or_one n).resolve_right fun hodd => (h hodd ':' rfl).1 rfl

/-- Before a name, the colons have gone two by two. -/
theorem ReadBehind.even_of_begins {n : Nat} {c : Char} {cs : List Char}
    (h : ReadBehind n (c :: cs)) (hc : beginsName c = true) : n % 2 = 0 :=
  (Nat.mod_two_eq_zero_or_one n).resolve_right fun hodd =>
    Bool.eq_false_iff.mp (h hodd c rfl).2 hc

section CountBehind

variable {name question : Nat → Bool}

theorem countBehind_colon (n : Nat) (cs : List Char) :
    countBehind name question n (':' :: cs) = countBehind name question (n + 1) cs := rfl

theorem countBehind_cons {c : Char} (hc : c ≠ ':') (n : Nat) (cs : List Char) :
    countBehind name question n (c :: cs) =
      (if beginsName c && name n || c == '?' && question n then 1 else 0) +
        countBehind name question 0 cs := if_neg hc

theorem countBehind_question (n : Nat) (cs : List Char) :
    countBehind name question n ('?' :: cs) =
      (if question n then 1 else 0) + countBehind name question 0 cs := by
  rw [countBehind_cons (by decide)]
  rfl

/-- A literal that is neither a colon nor a question mark counts if it begins a name. -/
theorem countBehind_literal {c : Char} (hc : c ≠ ':') (hquestion : c ≠ '?') (n : Nat)
    (cs : List Char) : countBehind name question n (c :: cs) =
      (if beginsName c && name n then 1 else 0) + countBehind name question 0 cs := by
  rw [countBehind_cons hc, beq_eq_false_iff_ne.mpr hquestion, Bool.false_and, Bool.or_false]

variable (hname : name 0 = false)
include hname

/-- What goes on a name is passed over. -/
theorem countBehind_append {run : List Char} (hrun : ∀ c ∈ run, c ≠ ':' ∧ c ≠ '?')
    (rest : List Char) :
    countBehind name question 0 (run ++ rest) = countBehind name question 0 rest := by
  induction run with
  | nil => rfl
  | cons c run ih =>
    obtain ⟨hcolon, hquestion⟩ := hrun c List.mem_cons_self
    rw [List.cons_append, countBehind_literal hcolon hquestion, hname, Bool.and_false,
      if_neg Bool.false_ne_true, Nat.zero_add, ih fun a ha => hrun a (List.mem_cons_of_mem _ ha)]

/-- A run of blanks ends a run of colons. -/
theorem countBehind_blanks {run : List Char} (hne : run ≠ [])
    (hrun : ∀ c ∈ run, isBlank c = true) (n : Nat) (rest : List Char) :
    countBehind name question n (run ++ rest) = countBehind name question 0 rest := by
  have hother : ∀ c ∈ run, c ≠ ':' ∧ c ≠ '?' := by
    intro c hc
    constructor <;> (rintro rfl; exact absurd (hrun _ hc) (by decide))
  obtain ⟨c, run, rfl⟩ := List.exists_cons_of_ne_nil hne
  obtain ⟨hcolon, hquestion⟩ := hother c List.mem_cons_self
  have hbegins : beginsName c = false := Bool.eq_false_iff.mpr fun h =>
    Bool.eq_false_iff.mp (continuesName_of_blank (hrun c List.mem_cons_self))
      (continuesName_of_beginsName h)
  rw [List.cons_append, countBehind_literal hcolon hquestion, hbegins, Bool.false_and,
    if_neg Bool.false_ne_true, Nat.zero_add,
    countBehind_append hname fun a ha => hother a (List.mem_cons_of_mem _ ha)]

/-- A name counts by the colons before it, once. -/
theorem countBehind_name {text : List Char} (hbegins : text.head?.any beginsName = true)
    (hcontinues : ∀ c ∈ text, continuesName c = true) (n : Nat) (rest : List Char) :
    countBehind name question n (text ++ rest) =
      (if name n then 1 else 0) + countBehind name question 0 rest := by
  have hother : ∀ c ∈ text, c ≠ ':' ∧ c ≠ '?' := by
    intro c hc
    constructor <;> (rintro rfl; exact absurd (hcontinues _ hc) (by decide))
  cases text with
  | nil => exact absurd hbegins Bool.false_ne_true
  | cons c text =>
    have hbegins : beginsName c = true := hbegins
    obtain ⟨hcolon, hquestion⟩ := hother c List.mem_cons_self
    rw [List.cons_append, countBehind_literal hcolon hquestion, hbegins, Bool.true_and,
      countBehind_append hname fun a ha => hother a (List.mem_cons_of_mem _ ha)]

end CountBehind

/-- Behind a colon that is read as itself neither a colon nor a name stands. -/
theorem readBehind_of_literal {reading : Convention} (hreads : reading.readsColon = true)
    {rest : List Char} (hcolons : rest.head? ≠ some ':')
    (hnone : ∀ o after, ':' :: rest = o.written ++ after → ¬ StandsBefore reading o after)
    (n : Nat) : ReadBehind n rest := by
  intro _ c hc
  refine ⟨?_, Bool.eq_false_iff.mpr fun hbegins => ?_⟩
  · rintro rfl
    exact hcolons hc
  · obtain ⟨tail, rfl⟩ := List.head?_eq_some_iff.mp hc
    have hname := nameBefore_nameAt (nameAt_ne_nil hbegins tail)
    refine hnone ⟨':' :: nameAt (c :: tail), nameAt (c :: tail)⟩ _ ?_ (.parameter hreads hname)
    rw [List.cons_append, List.prefix_iff_eq_append.mp (nameAt_begins (c :: tail))]

/-- **The placeholders of a text are marked in it.** The induction is on the division of the
text. -/
theorem length_occurrences_named {n : Nat} {cs : List Char} {ts : List Token}
    (h : Divides (.positional .named) cs ts) (hn : ReadBehind n cs) :
    (occurrences ts).length = marked n cs := by
  induction h generalizing n with
  | done => rfl
  | blanks hne hrun hrest h ih =>
    rw [marked, countBehind_blanks rfl hne hrun]
    exact ih (readBehind_zero _)
  | @colons rest ts hreads h ih =>
    have heven := hn.even_of_colon
    exact ih (readBehind_of_even (by omega) _)
  | @placeholder o rest ts ho h ih =>
    have hrest : (occurrences ts).length = marked 0 rest := ih (readBehind_zero _)
    rw [occurrences, List.length_cons, hrest]
    cases ho with
    | question =>
      rw [marked, marked, List.singleton_append, countBehind_question, if_pos rfl, Nat.add_comm]
    | parameter hreads hname =>
      have hodd : ((n + 1) % 2 == 1) = true := beq_iff_eq.mpr (by
        have := hn.even_of_colon
        omega)
      rw [marked, marked, List.cons_append, countBehind_colon,
        countBehind_name rfl hname.begins hname.continues, if_pos hodd, Nat.add_comm]
  | @literal c rest ts hblank hcolons hnone h ih =>
    by_cases hc : c = ':'
    · subst hc
      exact ih (readBehind_of_literal rfl (hcolons rfl rfl) hnone _)
    · have hname : (beginsName c && n % 2 == 1) = false := by
        cases hbegins : beginsName c with
        | false => rfl
        | true => rw [Bool.true_and, hn.even_of_begins hbegins]; rfl
      rw [marked, countBehind_literal hc (ne_question hnone), hname, if_neg Bool.false_ne_true,
        Nat.zero_add]
      exact ih (readBehind_zero _)

/-! ## Colons as they are written -/

/-- A placeholder of the named dialect is a colon and a name, also where the parameter has none. -/
theorem exists_placeholder_named (ordinal : Nat) {name : List Char}
    (hbegins : name ≠ [] → name.head?.any beginsName = true)
    (hcontinues : ∀ c ∈ name, continuesName c = true) :
    ∃ text, Dialect.named.placeholder ordinal name = ':' :: text ∧
      text.head?.any beginsName = true ∧ ∀ c ∈ text, continuesName c = true := by
  cases name with
  | nil =>
    refine ⟨_, rfl, (by decide : beginsName 'a' = true), ?_⟩
    intro c hc
    simp only [List.isEmpty_nil, if_true, List.mem_cons] at hc
    rcases hc with rfl | rfl | rfl | hc
    · decide
    · decide
    · decide
    · exact continuesName_of_isDigit (Nat.isDigit_of_mem_toDigits (by decide) (by decide) hc)
  | cons c name => exact ⟨_, rfl, hbegins (List.cons_ne_nil _ _), hcontinues⟩

/-- **A row of placeholders is read as it was written**, but for the first one behind an odd number
of colons. -/
theorem marked_row {name : List Char} (hbegins : name ≠ [] → name.head?.any beginsName = true)
    (hcontinues : ∀ c ∈ name, continuesName c = true) (rest : List Char) (first : Nat)
    {count : Nat} (hcount : count ≠ 0) (n : Nat) :
    marked n (placeholderRow .named name first count ++ rest) + n % 2 =
      count + marked 0 rest := by
  have hsingle : ∀ ordinal n rest,
      marked n (Dialect.named.placeholder ordinal name ++ rest) + n % 2 = 1 + marked 0 rest := by
    intro ordinal n rest
    obtain ⟨text, htext, hbegins, hcontinues⟩ :=
      exists_placeholder_named ordinal hbegins hcontinues
    rw [htext, marked, List.cons_append, countBehind_colon,
      countBehind_name rfl hbegins hcontinues]
    simp only [beq_iff_eq]
    split <;> (rw [marked]; omega)
  induction first, count using placeholderRow.induct generalizing n with
  | case1 first => exact absurd rfl hcount
  | case2 first => exact hsingle first n rest
  | case3 first count hmore ih =>
    have hcomma : marked 0 (',' :: (placeholderRow .named name (first + 1) count ++ rest)) =
        marked 0 (placeholderRow .named name (first + 1) count ++ rest) := by
      rw [marked, countBehind_literal (by decide) (by decide)]
      exact Nat.zero_add _
    have hrow := ih hmore 0
    rw [placeholderRow]
    · rw [List.append_assoc, List.cons_append, hsingle, hcomma]
      omega
    · exact hmore

/-- **What is written is read with the revived placeholders more and the hidden ones less.** The
induction is on the division of the template: of `n` colons read, `(n + 1) / 2` are written. -/
theorem marked_write {reading : Convention} (hreads : reading.readsColon = true)
    {repeats : Repeats} {k w n : Nat} {cs : List Char} {ts : List Token}
    (h : Divides reading cs ts) (hquestion : Token.literal '?' ∉ ts)
    (hnone : firstEmpty? repeats k (occurrences ts) = none) (hn : ReadBehind n cs) :
    marked ((n + 1) / 2) (write .named repeats k w ts) + hidden n cs =
      total repeats k (occurrences ts) + revived n cs := by
  induction h generalizing k w n with
  | done => rfl
  | @blanks run rest ts hne hrun hrest h ih =>
    have hspace : marked ((n + 1) / 2) (' ' :: write .named repeats k w ts) =
        marked 0 (write .named repeats k w ts) := by
      rw [marked, countBehind_literal (by decide) (by decide)]
      exact Nat.zero_add _
    rw [hidden, revived, countBehind_blanks rfl hne hrun, countBehind_blanks rfl hne hrun, write,
      hspace]
    exact ih (fun hmem => hquestion (List.mem_cons_of_mem _ hmem)) hnone
      (readBehind_zero rest)
  | @colons rest ts _ h ih =>
    have heven := hn.even_of_colon
    have hhalf : (n + 1) / 2 + 1 = (n + 1 + 1 + 1) / 2 := by omega
    rw [write, marked, countBehind_colon, hhalf]
    exact ih (fun hmem => hquestion (List.mem_cons_of_mem _ hmem)) hnone
      (readBehind_of_even (by omega) rest)
  | @placeholder o rest ts ho h ih =>
    obtain ⟨hcount, hnone⟩ := firstEmpty?_cons_eq_none.mp hnone
    have hrest : marked 0 (write .named repeats (k + 1) (w + repeats k) ts) + hidden 0 rest =
        total repeats (k + 1) (occurrences ts) + revived 0 rest :=
      ih (fun hmem => hquestion (List.mem_cons_of_mem _ hmem)) hnone (readBehind_zero rest)
    rw [write, occurrences, total]
    generalize write .named repeats (k + 1) (w + repeats k) ts = after at hrest ⊢
    cases ho with
    | question d =>
      have hrow := marked_row (fun hne => absurd rfl hne) (fun _ hc => absurd hc List.not_mem_nil)
        after (w + 1) hcount ((n + 1) / 2)
      have hhidden : hidden n ('?' :: rest) =
          (if n % 4 = 1 ∨ n % 4 = 2 then 1 else 0) + hidden 0 rest := by
        rw [hidden, countBehind_question]
        simp only [Bool.or_eq_true, beq_iff_eq, hidden]
      have hrevived : revived n ('?' :: rest) = revived 0 rest := by
        rw [revived, countBehind_question]
        exact Nat.zero_add _
      rw [List.singleton_append, hhidden, hrevived]
      dsimp only
      split <;> omega
    | @parameter _ name _ _ hname =>
      have heven := hn.even_of_colon
      have hrow := marked_row (fun _ => hname.begins) hname.continues after (w + 1) hcount
        ((n + 1) / 2)
      have hhidden : hidden n (':' :: (name ++ rest)) =
          (if (n + 1) % 4 = 3 then 1 else 0) + hidden 0 rest := by
        rw [hidden, countBehind_colon, countBehind_name rfl hname.begins hname.continues]
        simp only [beq_iff_eq, hidden]
      have hrevived : revived n (':' :: (name ++ rest)) = revived 0 rest := by
        have hodd : ((n + 1) % 4 == 2) = false := beq_eq_false_iff_ne.mpr (by omega)
        rw [revived, countBehind_colon, countBehind_name rfl hname.begins hname.continues, hodd]
        exact Nat.zero_add _
      rw [List.cons_append, hhidden, hrevived]
      dsimp only
      split <;> omega
    | dollar => cases hreads
    | atSign => cases hreads
  | @literal c rest ts hblank hcolons hstands h ih =>
    have hquestion' : Token.literal '?' ∉ ts := fun hmem => hquestion (List.mem_cons_of_mem _ hmem)
    by_cases hc : c = ':'
    · subst hc
      have heven := hn.even_of_colon
      have hhalf : (n + 1) / 2 + 1 = (n + 1 + 1) / 2 := by omega
      rw [write, marked, countBehind_colon, hhalf]
      exact ih hquestion' hnone
        (readBehind_of_literal hreads (hcolons hreads rfl) hstands (n + 1))
    · have hne : c ≠ '?' := fun heq => hquestion (heq ▸ List.mem_cons_self)
      have hrest : marked 0 (write .named repeats k w ts) + hidden 0 rest =
          total repeats k (occurrences ts) + revived 0 rest :=
        ih hquestion' hnone (readBehind_zero rest)
      have hname : beginsName c = true → n % 2 = 0 := hn.even_of_begins
      rw [hidden, revived, write, marked, countBehind_literal hc hne, countBehind_literal hc hne,
        countBehind_literal hc hne, occurrences]
      rw [hidden, revived, marked] at hrest
      cases hbegins : beginsName c with
      | false =>
        simp only [Bool.false_and, if_neg Bool.false_ne_true]
        omega
      | true =>
        have heven := hname hbegins
        simp only [Bool.true_and, beq_iff_eq]
        split <;> split <;> split <;> omega

/-- **The placeholders of a rendering, counted**: those written, with the revived ones more and the
hidden ones less. -/
theorem render_counted {reading : Convention} (hreads : reading.readsColon = true)
    {template : String} {repeats : Repeats} (hquestion : reading = .named → '?' ∉ template.toList)
    (h : ∀ k < (occurrences (tokens reading template.toList)).length, repeats k ≠ 0) :
    ∃ rendered, render reading template .named repeats = .ok rendered ∧
      countPlaceholders rendered.sql .named + hidden 0 template.toList =
        rendered.placeholders + revived 0 template.toList := by
  have hdivides := divides_tokens reading template.toList
  have hwrite := marked_write (k := 0) (w := 0) (n := 0) hreads hdivides
    (hdivides.question_not_mem hquestion) (firstEmpty?_eq_none h) (readBehind_zero _)
  have hread := length_occurrences_named
    (divides_tokens (.positional .named)
      (write .named repeats 0 0 (tokens reading template.toList)))
    (readBehind_zero _)
  refine ⟨_, render_of_written _ _ _ _ h, ?_⟩
  rw [countPlaceholders, String.toList_ofList, countFrom_eq, placeholders, List.length_map, hread]
  exact hwrite

/-- **When the named dialect reads what was written.** A rendering has as many placeholders as it
says, read by its own dialect, exactly when its template has as many placeholders that become
literal as literal names that become placeholders. So it has where every name stands behind `4 * n`
colons or one more, and every question mark behind `4 * n` or one less. -/
theorem colons_counted_iff (template : String) (repeats : Repeats) :
    ((∀ k < (occurrences (tokens (.positional .named) template.toList)).length, repeats k ≠ 0) →
      ∃ rendered, renderPositional template .named repeats = .ok rendered ∧
        (countPlaceholders rendered.sql .named = rendered.placeholders ↔
          hidden 0 template.toList = revived 0 template.toList)) ∧
    ('?' ∉ template.toList →
      (∀ k < (occurrences (tokens .named template.toList)).length, repeats k ≠ 0) →
      ∃ rendered, renderNamed template .named repeats = .ok rendered ∧
        (countPlaceholders rendered.sql .named = rendered.placeholders ↔
          hidden 0 template.toList = revived 0 template.toList)) := by
  constructor
  · intro h
    have hquestion : Convention.positional .named = .named → '?' ∉ template.toList := nofun
    obtain ⟨rendered, hrendered, hcount⟩ := render_counted rfl hquestion h
    exact ⟨rendered, hrendered, by omega⟩
  · intro hquestion h
    obtain ⟨rendered, hrendered, hcount⟩ := render_counted rfl (fun _ => hquestion) h
    exact ⟨rendered, hrendered, by omega⟩

/-- A cast written with four colons keeps two of them, and takes nothing from the placeholders
beside it. -/
theorem colons_counted_iff_of_cast :
    let template := ":a::::int"
    let repeats := Repeats.ofArray #[2]
    hidden 0 template.toList = revived 0 template.toList ∧ '?' ∉ template.toList ∧
      (∀ k < (occurrences (tokens (.positional .named) template.toList)).length, repeats k ≠ 0) ∧
      (∀ k < (occurrences (tokens .named template.toList)).length, repeats k ≠ 0) ∧
      renderPositional template .named repeats = .ok ⟨":a,:a::int", ["a"], 2⟩ ∧
      renderNamed template .named repeats = .ok ⟨":a,:a::int", ["a"], 2⟩ ∧
      countPlaceholders ":a,:a::int" .named = 2 := by
  intro template repeats
  have hpositional : ∀ k < (occurrences (tokens (.positional .named) template.toList)).length,
      repeats k ≠ 0 := by
    intro k hk
    have hlength : (occurrences (tokens (.positional .named) template.toList)).length = 1 := by
      decide +kernel
    obtain rfl : k = 0 := by omega
    decide
  have hnamed : ∀ k < (occurrences (tokens .named template.toList)).length, repeats k ≠ 0 := by
    intro k hk
    have hlength : (occurrences (tokens .named template.toList)).length = 1 := by
      decide +kernel
    obtain rfl : k = 0 := by omega
    decide
  have hbalanced : hidden 0 template.toList = revived 0 template.toList := by decide
  have hquestion : '?' ∉ template.toList := by decide
  obtain ⟨rendered, hrendered, hcount⟩ := (colons_counted_iff template repeats).1 hpositional
  obtain ⟨rendered', hrendered', hcount'⟩ :=
    (colons_counted_iff template repeats).2 hquestion hnamed
  have hvalue : renderPositional template .named repeats = .ok ⟨":a,:a::int", ["a"], 2⟩ := by
    decide +kernel
  have hvalue' : renderNamed template .named repeats = .ok ⟨":a,:a::int", ["a"], 2⟩ := by
    decide +kernel
  obtain rfl := Except.ok.inj (hrendered.symm.trans hvalue)
  obtain rfl := Except.ok.inj (hrendered'.symm.trans hvalue')
  exact ⟨hbalanced, hquestion, hpositional, hnamed, hrendered, hrendered', hcount.mpr hbalanced⟩

/-- **A cast becomes a placeholder**, and a colon before a question mark takes one away: three
renderings that do not have the placeholders that they say they have. -/
theorem cast_read_as_placeholder :
    renderPositional "SELECT :a::int" .named .once = .ok ⟨"SELECT :a:int", ["a"], 1⟩ ∧
      countPlaceholders "SELECT :a:int" .named = 2 ∧
      renderNamed "a::b" .named .once = .ok ⟨"a:b", [], 0⟩ ∧
      countPlaceholders "a:b" .named = 1 ∧
      renderPositional ":?" .named .once = .ok ⟨"::arg1", [""], 1⟩ ∧
      countPlaceholders "::arg1" .named = 0 := by
  refine ⟨?_, ?_, ?_, ?_, ?_, ?_⟩
  all_goals decide +kernel

end Template

end Rowbind
