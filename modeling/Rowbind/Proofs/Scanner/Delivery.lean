import Rowbind.Proofs.Scanner.ByHand
import Rowbind.Proofs.Scanner.Exclusion
import Rowbind.Proofs.Scanner.Planning

/-!
# Rows taken by hand are delivered once

Rows held in memory are gone through one by one. While a scanner is used by hand, the rows to come
are those behind the ones that were found, and a current row is the one that was found last
(`Scanner.Stands`).

So the rows that storings of the current row store are rows of the result, in order and none of them
twice (`ScannerUse.rows_delivered`). A storing into a destination that the columns do not fit
changes nothing, and the row is there for the next one; a storing that fails on the values
themselves has taken the row.
-/

namespace Rowbind

open Recorded

/-! ## What a run has found and stored -/

namespace RowCall

/-- Whether a call finds a row. -/
def isFound : RowCall → Bool
  | advance (.ok true) => true
  | _ => false

/-- The row that a call gives the values of. -/
def row? : RowCall → Option (List Value)
  | take (.ok values) => some values
  | _ => none

end RowCall

/-- How many rows were found in a source. -/
def Recorded.found {ρ : Type} (r : Recorded ρ) : Nat := r.calls.countP RowCall.isFound

namespace ScannerUse

variable {ρ : Type} [RowSource ρ]

/-- **The rows that a use stores by hand**: those that it takes, if it stores the current row and
succeeds. -/
def stored (c : Catalog) (s : Scanner (Recorded ρ)) : ScannerUse → List (List Value)
  | scanRow d =>
    match (Scanner.scanRow c (s, d)).1 with
    | .ok () => ((scanRow d).calls c s).filterMap RowCall.row?
    | .error _ => []
  | _ => []

/-- **The rows that a run of uses stores by hand**, in order. -/
def allStored (c : Catalog) (s : Scanner (Recorded ρ)) : List ScannerUse → List (List Value)
  | [] => []
  | u :: uses => u.stored c s ++ allStored c (u.run c s) uses

variable {c : Catalog} {s : Scanner (Recorded ρ)}

theorem allStored_append (uses uses' : List ScannerUse) :
    allStored c s (uses ++ uses') = allStored c s uses ++ allStored c (runAll c s uses) uses' := by
  induction uses generalizing s with
  | nil => rfl
  | cons u uses ih => simp [allStored, ih, runAll]

/-- The last use stores behind the earlier ones. -/
theorem allStored_concat {uses : List ScannerUse} {u : ScannerUse} :
    allStored c s (uses ++ [u]) = allStored c s uses ++ u.stored c (runAll c s uses) := by
  simp [allStored_append, allStored]

/-- What is refused stores nothing. -/
theorem stored_of_refuses {u : ScannerUse} (h : s.Refuses c u) : u.stored c s = [] := by
  cases u with
  | scanRow d =>
    obtain ⟨fault, hrefused⟩ := h
    rw [stored, hrefused]
  | _ => rfl

/-- In the automatic way nothing is stored by hand. -/
theorem stored_of_automatic {u : ScannerUse} (h : (u.run c s).mode = .automatic) :
    u.stored c s = [] := by
  cases u with
  | scanRow d =>
    have hmode : s.mode = .automatic := (Scanner.mode_scanRow c s d).symm.trans h
    exact stored_of_refuses (Scanner.refuses_scanRow (.inl (by simp [hmode])) d)
  | _ => rfl

end ScannerUse

/-! ## Where rows held in memory stand -/

namespace Recorded

/-- **Where rows held in memory stand**, of those that they were at first: the rows to come are
those behind the ones that were found. -/
structure Ahead (columns : List String) (rows : List (List Value)) (r : Recorded BufferedRows) :
    Prop where
  columns_eq : r.rows.columns = columns
  rows_eq : r.rows.rows = rows.drop r.found
  isOpen : r.rows.closed = false

variable {columns : List String} {rows : List (List Value)} {r r' : Recorded BufferedRows}

/-- Of the calls, only an advance finds a row. -/
@[simp] theorem found_append {ρ : Type} (r : Recorded ρ) (b : ρ) (call : RowCall) :
    (Recorded.mk b (r.calls ++ [call])).found = r.found + if call.isFound then 1 else 0 := by
  simp [found, List.countP_singleton]

/-- Asking for columns finds no row. -/
theorem found_of_asks {ρ : Type} {r r' : Recorded ρ} (h : Asks (RowCall.isColumns ·) r r') :
    r'.found = r.found := by
  obtain ⟨made, hmade, hcolumns⟩ := h
  have hnone : made.countP RowCall.isFound = 0 := by
    simp only [List.countP_eq_zero, Bool.not_eq_true]
    intro call hcall
    obtain ⟨answer, rfl⟩ := RowCall.eq_columns (hcolumns call hcall)
    rfl
  rw [found, found, hmade, List.countP_append, hnone, Nat.add_zero]

/-- The columns are given, and nothing is changed but the record. -/
theorem Ahead.reads (h : r.Ahead columns rows) {answer : Except Error (List String)}
    (hcolumns : RowSource.columns r = (answer, r')) :
    answer = .ok columns ∧ r'.Ahead columns rows ∧ r'.found = r.found ∧
      r'.rows.current = r.rows.current := by
  obtain ⟨rfl, rfl⟩ := Prod.mk.inj hcolumns
  have hrows : RowSource.columns r.rows = (.ok columns, r.rows) := by
    simp [RowSource.columns, BufferedRows.columnNames, h.isOpen, h.columns_eq]
  rw [hrows]
  have hfound := found_append r r.rows (.columns (.ok columns))
  exact ⟨rfl, ⟨h.columns_eq, h.rows_eq.trans (by rw [hfound]; rfl), h.isOpen⟩, hfound, rfl⟩

/-- **The next row is the one behind those that were found**, and it is the current one then. -/
theorem Ahead.advances (h : r.Ahead columns rows) {answer : Except Error Bool}
    (hadvance : RowSource.advance r = (answer, r')) :
    r'.Ahead columns rows ∧
      (answer = .ok false ∧ r'.found = r.found ∨
        ∃ row, answer = .ok true ∧ rows[r.found]? = some row ∧ r'.found = r.found + 1 ∧
          r'.rows.current = some row) := by
  obtain ⟨rfl, rfl⟩ := Prod.mk.inj hadvance
  have hrest := h.rows_eq
  cases hb : r.rows.rows with
  | nil =>
    have hrows : RowSource.advance r.rows = (.ok false, { r.rows with current := none }) := by
      simp [RowSource.advance, BufferedRows.advance, h.isOpen, hb]
    rw [hrows]
    have hfound := found_append r { r.rows with current := none } (.advance (.ok false))
    refine ⟨⟨h.columns_eq, ?_, h.isOpen⟩, .inl ⟨rfl, hfound⟩⟩
    rw [hfound]
    exact hrest
  | cons row rest =>
    have hrows : RowSource.advance r.rows =
        (.ok true, { r.rows with current := some row, rows := rest }) := by
      simp [RowSource.advance, BufferedRows.advance, h.isOpen, hb]
    rw [hrows]
    have hfound := found_append r { r.rows with current := some row, rows := rest }
      (.advance (.ok true))
    rw [hb] at hrest
    refine ⟨⟨h.columns_eq, ?_, h.isOpen⟩, .inr ⟨row, rfl, ?_, hfound, rfl⟩⟩
    · simpa [hfound, RowCall.isFound] using congrArg List.tail hrest
    · simpa using (congrArg List.head? hrest).symm

/-- The current row is given, and there is none then. -/
theorem Ahead.takes (h : r.Ahead columns rows) {row : List Value}
    (hrow : r.rows.current = some row) {answer : Except Error (List Value)}
    (htake : RowSource.take r = (answer, r')) :
    answer = .ok row ∧ r'.Ahead columns rows ∧ r'.found = r.found := by
  obtain ⟨rfl, rfl⟩ := Prod.mk.inj htake
  have hrows : RowSource.take r.rows = (.ok row, { r.rows with current := none }) := by
    simp [RowSource.take, BufferedRows.take, hrow]
  rw [hrows]
  have hfound := found_append r { r.rows with current := none } (.take (.ok row))
  exact ⟨rfl, ⟨h.columns_eq, h.rows_eq.trans (by rw [hfound]; rfl), h.isOpen⟩, hfound⟩

end Recorded

namespace Scanner

/-! ## The current row -/

section

variable {ρ : Type} [RowSource ρ] {c : Catalog} {s : Scanner ρ} {columns : List String}
  {d : Destination} {e : Error}

/-- **Where the columns do not fit a destination, nothing is changed.** -/
theorem scanRow_of_unfit (hmode : s.mode = .manual) (hrow : s.hasRow = true)
    (hread : s.columns = some columns) (hunfit : Unfit c s.options columns d e) :
    scanRow c (s, d) = (.error e, s, d) := by
  have hcolumns := columnNames_of_read hread
  rcases unfit_iff.mp hunfit with ⟨hshape, rfl⟩ | ⟨hshape, hplan⟩
  · simp [scanRow, hmode, hrow, hcolumns, hshape]
  · simp [scanRow, hmode, hrow, hcolumns, hshape, hplan]

end

/-- **Where a scanner stands that is used by hand**, of some rows that it held at first: what was
stored are rows among those found, and a current row is the one found last, not stored yet. -/
structure Stands (columns : List String) (rows : List (List Value)) (o : Options)
    (s : Scanner (Recorded BufferedRows)) (stored : List (List Value)) : Prop where
  options_eq : s.options = o
  ahead : s.closed = false →
    s.rows.Ahead columns rows ∧ (s.columns = none ∨ s.columns = some columns)
  stored_sublist : stored.Sublist (rows.take s.rows.found)
  current : s.hasRow = true → ∃ n row, s.rows.found = n + 1 ∧ rows[n]? = some row ∧
    s.rows.rows.current = some row ∧ s.columns = some columns ∧ stored.Sublist (rows.take n)

variable {c : Catalog} {columns : List String} {rows : List (List Value)} {o : Options}
  {s : Scanner (Recorded BufferedRows)} {stored : List (List Value)}

/-- **A destination that the columns fit takes the current row**, and whatever comes of storing it
there is none then. -/
theorem scanRow_of_current {row : List Value} {d : Destination} {plan : RowPlan}
    (hmode : s.mode = .manual) (hrow : s.hasRow = true) (hread : s.columns = some columns)
    (hahead : s.rows.Ahead columns rows) (hcurrent : s.rows.rows.current = some row)
    (hplan : RowPlan.of c s.options columns d.shape = .ok plan) :
    ∃ left : Recorded BufferedRows, left.Ahead columns rows ∧ left.found = s.rows.found ∧
      (ScannerUse.scanRow d).calls c s = [.take (.ok row)] ∧
      scanRow c (s, d) = ((store c plan columns row d).1, { s with rows := left, hasRow := false },
        (store c plan columns row d).2) := by
  rcases htake : RowSource.take s.rows with ⟨answer, left⟩
  obtain ⟨rfl, hleft, hfound⟩ := hahead.takes hcurrent htake
  have hscan := scanRow_of_ready hmode hrow hread hplan
  rw [htake] at hscan
  refine ⟨left, hleft, hfound, ScannerUse.calls_eq ?_, hscan⟩
  rw [ScannerUse.run, hscan]
  exact calls_take htake

/-- Where no row is found or gone from, a scanner stands where it stood. -/
theorem Stands.of_same (h : s.Stands columns rows o stored) {s' : Scanner (Recorded BufferedRows)}
    (hoptions : s'.options = s.options) (hfound : s'.rows.found = s.rows.found)
    (hahead : s'.closed = false →
      s'.rows.Ahead columns rows ∧ (s'.columns = none ∨ s'.columns = some columns))
    (hcurrent : s'.hasRow = true → s.hasRow = true ∧
      s'.rows.rows.current = s.rows.rows.current ∧ s'.columns = s.columns) :
    s'.Stands columns rows o stored where
  options_eq := hoptions.trans h.options_eq
  ahead := hahead
  stored_sublist := hfound ▸ h.stored_sublist
  current hrow := by
    obtain ⟨hbefore, hsame, hcolumns⟩ := hcurrent hrow
    obtain ⟨n, row, hn, hget, hstands, hread, hstored⟩ := h.current hbefore
    exact ⟨n, row, hfound.trans hn, hget, hsame.trans hstands, hcolumns.trans hread, hstored⟩

/-- A use that takes no row and leaves the scanner closed. -/
theorem Stands.of_closed (h : s.Stands columns rows o stored) {s' : Scanner (Recorded BufferedRows)}
    (hoptions : s'.options = s.options) (hfound : s'.rows.found = s.rows.found)
    (hclosed : s'.closed = true) (hrow : s'.hasRow = false) :
    s'.Stands columns rows o stored :=
  h.of_same hoptions hfound (fun hopen => absurd (hclosed.symm.trans hopen) nofun)
    fun hrow' => absurd (hrow.symm.trans hrow') nofun

/-- **What reading the columns of an open scanner comes to**: it gives the columns of the rows, or
they are not usable and were not read before. -/
theorem Stands.columnNames (h : s.Stands columns rows o stored) (hopen : s.closed = false) :
    ∃ left : Recorded BufferedRows, left.Ahead columns rows ∧ left.found = s.rows.found ∧
      left.rows.current = s.rows.rows.current ∧
      (s.columnNames = (.ok columns, { s with rows := left, columns := some columns }) ∨
        s.columns = none ∧ ∃ e, s.columnNames = (.error e, { s with rows := left })) := by
  obtain ⟨hahead, hcolumns⟩ := h.ahead hopen
  have hreads := s.readsColumns
  generalize s.columnNames = result at hreads ⊢
  cases hreads with
  | known hread =>
    rcases hcolumns with hnone | hsome
    · cases hread.symm.trans hnone
    · cases hread.symm.trans hsome
      exact ⟨s.rows, hahead, rfl, rfl, .inl rfl⟩
  | failed hunread hread => cases (hahead.reads hread).1
  | unusable hunread hread hfault =>
    obtain ⟨-, hleft, hfound, hcurrent⟩ := hahead.reads hread
    exact ⟨_, hleft, hfound, hcurrent, .inr ⟨hunread, _, rfl⟩⟩
  | read hunread hread husable =>
    obtain ⟨hanswer, hleft, hfound, hcurrent⟩ := hahead.reads hread
    cases hanswer
    exact ⟨_, hleft, hfound, hcurrent, .inl rfl⟩

/-- Whatever reading the columns of an open scanner leaves of the rows, it has gone past none. -/
theorem Stands.columns_read (h : s.Stands columns rows o stored) (hopen : s.closed = false)
    {answer : Except Error (List String)} {left : Recorded BufferedRows}
    {names : Option (List String)}
    (hread : s.columnNames = (answer, { s with rows := left, columns := names })) :
    left.Ahead columns rows ∧ left.found = s.rows.found ∧
      left.rows.current = s.rows.rows.current ∧
      ∀ columns', answer = .ok columns' → columns' = columns := by
  obtain ⟨left', hleft, hfound, hcurrent, hread' | ⟨-, e, hread'⟩⟩ := h.columnNames hopen
  · have hsame := hread.symm.trans hread'
    obtain rfl : left = left' := congrArg (fun result => result.2.rows) hsame
    refine ⟨hleft, hfound, hcurrent, ?_⟩
    rintro columns' rfl
    exact Except.ok.inj (congrArg Prod.fst hsame)
  · have hsame := hread.symm.trans hread'
    obtain rfl : left = left' := congrArg (fun result => result.2.rows) hsame
    refine ⟨hleft, hfound, hcurrent, ?_⟩
    rintro columns' rfl
    cases congrArg Prod.fst hsame

theorem Stands.run_columns (h : s.Stands columns rows o stored) (hbyHand : s.RowByHand) :
    s.columnNames.2.Stands columns rows o stored := by
  cases hclosed : s.closed with
  | true =>
    obtain ⟨left, names, hread⟩ := frame_columnNames s
    have hfound := found_of_asks (asks_columnNames s)
    rw [hread] at hfound ⊢
    refine h.of_closed rfl hfound hclosed ?_
    rw [Bool.eq_false_iff]
    exact fun hrow => absurd ((hbyHand hrow).2.symm.trans hclosed) nofun
  | false =>
    obtain ⟨left, hleft, hfound, hcurrent, hread | ⟨hunread, e, hread⟩⟩ := h.columnNames hclosed
    · rw [hread]
      refine h.of_same rfl hfound (fun _ => ⟨hleft, .inr rfl⟩) fun hrow => ⟨hrow, hcurrent, ?_⟩
      obtain ⟨n, row, -, -, -, hread, -⟩ := h.current hrow
      exact hread.symm
    · rw [hread]
      exact h.of_same rfl hfound (fun _ => ⟨hleft, .inl hunread⟩) fun hrow => ⟨hrow, hcurrent, rfl⟩

theorem Stands.run_close (h : s.Stands columns rows o stored) (hbyHand : s.RowByHand) :
    s.close.2.Stands columns rows o stored := by
  have hrow := hasRow_close hbyHand
  have hclosed := closed_close s
  cases hbefore : s.closed with
  | true =>
    have hclose : s.close.2 = s := by simp [close, hbefore]
    rw [hclose]
    exact h
  | false =>
    refine h.of_closed ?_ ?_ hclosed hrow
    · simp [close, hbefore]
    · simp [close, hbefore, RowSource.close, record, RowCall.isFound]

/-- **Going on finds the row behind those that were found.** -/
theorem Stands.run_advance (h : s.Stands columns rows o stored) (hmode : s.mode ≠ .automatic)
    (hbyHand : s.RowByHand) : s.advance.2.Stands columns rows o stored := by
  have hadvance := s.advances
  generalize s.advance = result at hadvance ⊢
  cases hadvance with
  | refused hautomatic => exact absurd hautomatic hmode
  | closed _ hclosed =>
    refine h.of_closed rfl rfl hclosed ?_
    rw [Bool.eq_false_iff]
    exact fun hrow => absurd ((hbyHand hrow).2.symm.trans hclosed) nofun
  | unread _ hopen hunread hread =>
    obtain ⟨hleft, hfound, hcurrent, -⟩ := h.columns_read hopen hread
    exact h.of_same rfl hfound (fun _ => ⟨hleft, .inl hunread⟩) fun hrow => ⟨hrow, hcurrent, rfl⟩
  | failed _ hopen hread hadvance =>
    obtain ⟨hleft, -, -, -⟩ := h.columns_read hopen hread
    obtain ⟨-, ⟨hanswer, -⟩ | ⟨row, hanswer, -⟩⟩ := hleft.advances hadvance
    · cases hanswer
    · cases hanswer
  | went _ hopen hread hadvance =>
    obtain ⟨hleft, hfound, -, hcolumns⟩ := h.columns_read hopen hread
    obtain rfl := hcolumns _ rfl
    obtain ⟨hleft₁, ⟨hanswer, hsame⟩ | ⟨row, hanswer, hget, hnext, hcurrent⟩⟩ :=
      hleft.advances hadvance
    · cases hanswer
      exact h.of_same rfl (hsame.trans hfound) (fun _ => ⟨hleft₁, .inr rfl⟩) nofun
    · cases hanswer
      rw [hfound] at hget hnext
      have hmore := List.take_prefix_take_left (l := rows) (Nat.le_succ s.rows.found)
      exact {
        options_eq := h.options_eq
        ahead := fun _ => ⟨hleft₁, .inr rfl⟩
        stored_sublist := by
          rw [hnext]
          exact h.stored_sublist.trans hmore.sublist
        current := fun _ => ⟨_, row, hnext, hget, hcurrent, rfl, h.stored_sublist⟩ }

/-- **Storing the current row** leaves it where the columns do not fit, and else takes it. -/
theorem Stands.run_scanRow (h : s.Stands columns rows o stored) (hbyHand : s.RowByHand)
    (d : Destination) :
    (scanRow c (s, d)).2.1.Stands columns rows o
      (stored ++ (ScannerUse.scanRow d).stored c s) := by
  cases hrow : s.hasRow with
  | false =>
    have hrefuses : s.Refuses c (.scanRow d) := refuses_scanRow (.inr hrow) d
    have hstored := ScannerUse.stored_of_refuses hrefuses
    obtain ⟨fault, hrefused⟩ := hrefuses
    rw [hstored, hrefused, List.append_nil]
    exact h
  | true =>
    obtain ⟨hmode, hopen⟩ := hbyHand hrow
    obtain ⟨n, row, hn, hget, hcurrent, hread, hbefore⟩ := h.current hrow
    by_cases hfits : ∀ e, ¬ Unfit c s.options columns d e
    · obtain ⟨plan, hplan⟩ := exists_plan_iff.mpr hfits
      obtain ⟨left, hleft, hfound, hcalls, hscan⟩ :=
        scanRow_of_current hmode hrow hread (h.ahead hopen).1 hcurrent hplan
      have hstored : ((ScannerUse.scanRow d).stored c s).Sublist [row] := by
        rw [ScannerUse.stored, hcalls]
        split
        · exact List.Sublist.refl _
        · exact List.nil_sublist _
      rw [hscan]
      exact {
        options_eq := h.options_eq
        ahead := fun _ => ⟨hleft, .inr hread⟩
        stored_sublist := by
          rw [hfound, hn, List.take_add_one, hget]
          exact hbefore.append hstored
        current := nofun }
    · simp only [not_forall, not_not] at hfits
      obtain ⟨e, hunfit⟩ := hfits
      have hscan := scanRow_of_unfit hmode hrow hread hunfit
      have hstored : (ScannerUse.scanRow d).stored c s = [] := by
        rw [ScannerUse.stored, hscan]
      rw [hscan, hstored, List.append_nil]
      exact h

/-- **Every use of a scanner by hand keeps where it stands.** -/
theorem Stands.run (h : s.Stands columns rows o stored) (hbyHand : s.RowByHand) {u : ScannerUse}
    (hmode : (u.run c s).mode ≠ .automatic) :
    (u.run c s).Stands columns rows o (stored ++ u.stored c s) := by
  cases u with
  | columns => simpa [ScannerUse.stored, ScannerUse.run] using h.run_columns hbyHand
  | close => simpa [ScannerUse.stored, ScannerUse.run] using h.run_close hbyHand
  | scanRow d => exact h.run_scanRow hbyHand d
  | advance =>
    have hbefore : s.mode ≠ .automatic := fun hautomatic =>
      hmode (mode_run_automatic hautomatic _)
    simpa [ScannerUse.stored, ScannerUse.run] using h.run_advance hbefore hbyHand
  | scan d =>
    have hused : s.mode ≠ .fresh := fun hfresh => hmode (mode_scan c hfresh d)
    simpa [ScannerUse.stored, ScannerUse.run, scan_of_not_fresh c hused d] using h

theorem Stands.start (columns : List String) (rows : List (List Value)) (o : Options)
    (single : Bool) :
    (Scanner.start ({ columns := columns, rows := rows } : BufferedRows) o single).Stands
      columns rows o [] where
  options_eq := rfl
  ahead _ := ⟨⟨rfl, rfl, rfl⟩, .inl rfl⟩
  stored_sublist := List.nil_sublist _
  current := nofun

end Scanner

namespace ScannerUse

variable {c : Catalog} {columns : List String} {rows : List (List Value)} {o : Options}
  {single : Bool} {uses : List ScannerUse}

/-- **While a scanner is used by hand, it stands behind the rows it has found.** The induction is on
the last use. -/
theorem stands_runAll
    (hmode : (runAll c (Scanner.start ({ columns := columns, rows := rows } : BufferedRows) o
      single) uses).mode ≠ .automatic) :
    let start := Scanner.start ({ columns := columns, rows := rows } : BufferedRows) o single
    (runAll c start uses).Stands columns rows o (allStored c start uses) := by
  intro start
  have hstart : start.RowByHand := nofun
  induction uses using List.reverseRecOn with
  | nil => exact .start columns rows o single
  | append_singleton uses u ih =>
    rw [allStored_concat, runAll_append]
    rw [runAll_append] at hmode
    refine (ih fun hautomatic => ?_).run (hstart.runAll c uses) hmode
    exact hmode (Scanner.mode_run_automatic hautomatic u)

/-- The rows that are stored by hand are rows of the result, in whichever way the scanner is used
then. -/
theorem allStored_sublist :
    let start := Scanner.start ({ columns := columns, rows := rows } : BufferedRows) o single
    (allStored c start uses).Sublist rows := by
  intro start
  induction uses using List.reverseRecOn with
  | nil => exact List.nil_sublist _
  | append_singleton uses u ih =>
    by_cases hmode : (runAll c start (uses ++ [u])).mode = .automatic
    · rw [runAll_append] at hmode
      rw [allStored_concat, stored_of_automatic hmode, List.append_nil]
      exact ih
    · exact (stands_runAll hmode).stored_sublist.trans (List.take_sublist _ _)

end ScannerUse

/-- **Rows taken by hand are delivered once, and survive a destination that does not fit.** For every
run of uses of a scanner newly made for rows held in memory:

* the rows that are stored by hand are rows of the result, in order and none of them twice;
* while a row that was found is left, it is the one found last, and
  - a storing into a destination that the columns do not fit fails, as that says, and changes
    neither the scanner, its source and the calls to it included, nor the destination;
  - a storing into any other takes the values of that row and stores them by the plan for the
    destination, and whether it fails or succeeds in that, the row is gone then. -/
theorem ScannerUse.rows_delivered (c : Catalog) (columns : List String) (rows : List (List Value))
    (o : Options) (single : Bool) (uses : List ScannerUse) :
    let start := Scanner.start ({ columns := columns, rows := rows } : BufferedRows) o single
    let s := runAll c start uses
    (allStored c start uses).Sublist rows ∧
      (Since c FindsRow (LeavesRow c) start uses →
        ∃ n row, s.rows.found = n + 1 ∧ rows[n]? = some row ∧ ∀ d,
          (∀ e, Unfit c o columns d e → Scanner.scanRow c (s, d) = (.error e, s, d)) ∧
          ((∀ e, ¬ Unfit c o columns d e) →
            ∃ plan s', RowPlan.of c o columns d.shape = .ok plan ∧
              Scanner.scanRow c (s, d) =
                ((store c plan columns row d).1, s', (store c plan columns row d).2) ∧
              (scanRow d).calls c s = [.take (.ok row)] ∧
              ∀ d', s'.Refuses c (.scanRow d'))) := by
  intro start s
  refine ⟨allStored_sublist, fun hleft => ?_⟩
  have hstart : start.RowByHand := nofun
  have hrow : s.hasRow = true := (hasRow_iff_since c _ o single uses).mpr hleft
  obtain ⟨hmode, hopen⟩ := hstart.runAll c uses hrow
  have hstands : s.Stands columns rows o (allStored c start uses) :=
    stands_runAll (hmode.symm ▸ nofun)
  obtain ⟨n, row, hn, hget, hcurrent, hread, -⟩ := hstands.current hrow
  refine ⟨n, row, hn, hget, fun d => ⟨fun e hunfit => ?_, fun hfits => ?_⟩⟩
  · rw [← hstands.options_eq] at hunfit
    exact Scanner.scanRow_of_unfit hmode hrow hread hunfit
  · obtain ⟨plan, hplan⟩ := exists_plan_iff.mpr hfits
    rw [← hstands.options_eq] at hplan
    obtain ⟨left, -, -, hcalls, hscan⟩ :=
      Scanner.scanRow_of_current hmode hrow hread (hstands.ahead hopen).1 hcurrent hplan
    rw [hstands.options_eq] at hplan
    exact ⟨plan, _, hplan, hscan, hcalls, Scanner.refuses_scanRow (.inr rfl)⟩

/-- Three rows of one column, the second of which is null. A storing into a list is rejected
and loses nothing; the storing of the second row fails and loses it. -/
theorem ScannerUse.rows_delivered_of_three :
    let c := Catalog.ofDeclarations #[] fun _ name => name
    let rows : List (List Value) := [[.int 1], [.null], [.int 3]]
    let start := Scanner.start ({ columns := ["id"], rows := rows } : BufferedRows) {} false
    let number := Destination.scalar (.blank (.int ⟨true, .w64⟩))
    let list := Destination.listOf number
    let first := runAll c start [.advance, .scanRow list]
    let second := runAll c start [.advance, .scanRow list, .scanRow number, .advance]
    (allStored c start [.advance, .scanRow list, .scanRow number, .advance, .scanRow number,
        .advance, .scanRow number] = [[.int 1], [.int 3]] ∧
      [[.int 1], [.int 3]].Sublist rows) ∧
      Scanner.scanRow c (first, list) = (.error (.usage .oneRowIntoList), first, list) ∧
      (Scanner.scanRow c (first, number)).2.2 = .scalar ⟨.int ⟨true, .w64⟩, ⟨1, by decide⟩⟩ ∧
      (Scanner.scanRow c (second, number)).1.isOk = false ∧
      (Scanner.scanRow c (second, number)).2.1.Refuses c (.scanRow number) := by
  intro c rows start number list first second
  have hnumber : ∀ e, ¬ Unfit c {} ["id"] number e := exists_plan_iff.mp ⟨.scalar, rfl⟩
  obtain ⟨hdelivered, -⟩ := ScannerUse.rows_delivered c ["id"] rows {} false
    [.advance, .scanRow list, .scanRow number, .advance, .scanRow number, .advance, .scanRow number]
  obtain ⟨-, hfirst⟩ :=
    ScannerUse.rows_delivered c ["id"] rows {} false [.advance, .scanRow list]
  obtain ⟨-, hsecond⟩ := ScannerUse.rows_delivered c ["id"] rows {} false
    [.advance, .scanRow list, .scanRow number, .advance]
  have htaken : runAll c start [.advance, .scanRow list, .scanRow number] =
      { start with
        mode := .manual
        columns := some ["id"]
        rows :=
          { rows := { columns := ["id"], rows := [[.null], [.int 3]] }
            calls := [.columns (.ok ["id"]), .advance (.ok true), .take (.ok [.int 1])] } } := rfl
  have hstored : allStored c start [.advance, .scanRow list, .scanRow number, .advance,
      .scanRow number, .advance, .scanRow number] = [[.int 1], [.int 3]] :=
    calc allStored c start ([.advance, .scanRow list, .scanRow number] ++
          [.advance, .scanRow number, .advance, .scanRow number])
      _ = allStored c start [.advance, .scanRow list, .scanRow number] ++
          allStored c _ [.advance, .scanRow number, .advance, .scanRow number] := by
        rw [allStored_append, htaken]
      _ = [[.int 1]] ++ [[.int 3]] := congrArg₂ (· ++ ·) rfl rfl
  obtain ⟨n, row, hn, hrow, hgives⟩ := hfirst ((hasRow_iff_since ..).mp rfl)
  obtain ⟨plan, s', hplan, hscan, -⟩ := (hgives number).2 hnumber
  cases hn
  cases hrow
  cases hplan
  obtain ⟨n, row, hn, hrow, hgives'⟩ := hsecond ((hasRow_iff_since ..).mp rfl)
  obtain ⟨plan, s'', hplan, hscan', -, hgone⟩ := (hgives' number).2 hnumber
  cases hn
  cases hrow
  cases hplan
  rw [hstored] at hdelivered
  have hrejected := (hgives list).1 _ (.list rfl)
  refine ⟨⟨hstored, hdelivered⟩, hrejected, ?_, ?_, ?_⟩
  · rw [hscan]
    rfl
  · rw [hscan']
    rfl
  · rw [hscan']
    exact hgone number

end Rowbind
