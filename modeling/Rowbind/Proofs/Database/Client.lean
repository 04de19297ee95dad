import Rowbind.Database.Basic
import Rowbind.Proofs.Scanner.Source

/-!
# Clients of a database

A **client** sends templates to a database, keeps the scanners that its queries are answered with,
and reads, closes and drops them at any time. `Client.run` is what one use after the other leaves of
a client, and `Client.answers` what it is told.
-/

namespace Rowbind

/-- One element of a list is changed, and all are seen as others. -/
theorem map_modify {α β : Type} {f : α → β} {g : α → α} {g' : β → β}
    (h : ∀ a, g' (f a) = f (g a)) (l : List α) (i : Nat) :
    (l.modify i g).map f = (l.map f).modify i g' := by
  apply List.ext_getElem?
  intro j
  rw [List.getElem?_map, List.getElem?_modify, List.getElem?_modify, List.getElem?_map]
  cases l[j]? with
  | none => rfl
  | some a =>
    split
    · exact congrArg some (h a).symm
    · rfl

/-- **A client of a database**, and the scanners that it keeps. -/
structure Client (δ ρ τ : Type) where
  db : Database δ τ
  scanners : List (Scanner ρ) := []

/-- **What a client does.** -/
inductive ClientUse
  | query (single : Bool) (template : String) (arguments : List Argument)
  | exec (template : String) (arguments : List Argument)
  | select (element : Destination) (template : String) (arguments : List Argument)
  | get (d : Destination) (template : String) (arguments : List Argument)
  | close
  /-- Uses the scanner at a place. -/
  | scanner (i : Nat) (u : ScannerUse)
  /-- Drops the scanner at a place, closed or not. -/
  | drop (i : Nat)

/-- **What a client is told** when a use succeeds. -/
inductive ClientResult (ρ : Type)
  | report (r : ExecReport)
  | scanner (s : Scanner ρ)
  | destination (d : Destination)
  /-- What a use of a scanner says is seen in the scanner. -/
  | done

/-- A result with its scanner replaced by another. -/
def ClientResult.map {ρ ρ' : Type} (f : Scanner ρ → Scanner ρ') :
    ClientResult ρ → ClientResult ρ'
  | report r => report r
  | scanner s => scanner (f s)
  | destination d => destination d
  | done => done

namespace ClientUse

/-- The template that a use sends, with its arguments. -/
def sends? : ClientUse → Option (String × List Argument)
  | query _ template arguments | exec template arguments | select _ template arguments
  | get _ template arguments => some (template, arguments)
  | close | scanner _ _ | drop _ => none

end ClientUse

namespace Client

section Keep

variable {δ ρ τ : Type}

/-- Keeps the scanner that a query answers. -/
def keep (C : Client δ ρ τ) : Except Error (Scanner ρ) × Database δ τ → Client δ ρ τ
  | (.ok s, db) => { db := db, scanners := C.scanners ++ [s] }
  | (.error _, db) => { C with db := db }

variable (C : Client δ ρ τ) (answer : Except Error (Scanner ρ) × Database δ τ)

theorem db_keep : (C.keep answer).db = answer.2 := by
  unfold keep
  split <;> rfl

theorem subset_keep : C.scanners ⊆ (C.keep answer).scanners := by
  unfold keep
  split
  · exact List.subset_append_left _ _
  · exact List.Subset.refl _

/-- The scanners kept after a query are the earlier ones, and the one that it answers. -/
theorem mem_keep {s : Scanner ρ} (hs : s ∈ (C.keep answer).scanners) :
    s ∈ C.scanners ∨ answer.1 = .ok s := by
  unfold keep at hs
  split at hs
  · rcases List.mem_append.mp hs with hs | hs
    · exact .inl hs
    · exact .inr (congrArg _ (List.mem_singleton.mp hs).symm)
  · exact .inl hs

end Keep

section Runs

variable {δ ρ τ χ : Type} [Driver δ ρ τ χ] [RowSource ρ]

/-- A client of a driver newly taken into use. -/
def new (registry : Registry) (keyOf : String → UInt64) (driver : δ) (options : Options) :
    Client δ ρ τ where
  db := Database.new registry keyOf driver options

/-- Drops the scanner at a place, and hands its rows back. -/
def dropAt (C : Client δ ρ τ) (i : Nat) : Client δ ρ τ :=
  match C.scanners[i]? with
  | some s => { db := C.db.handle.dispose s.rows C.db, scanners := C.scanners.eraseIdx i }
  | none => C

/-- **What a use leaves of a client**, whether it succeeds or fails. -/
def after (c : Catalog) (C : Client δ ρ τ) : ClientUse → Client δ ρ τ
  | .query single template arguments =>
    C.keep (C.db.handle.query c single template arguments C.db)
  | .exec template arguments => { C with db := (C.db.handle.exec c template arguments C.db).2 }
  | .select element template arguments =>
    { C with db := (C.db.handle.select c element template arguments C.db).2 }
  | .get d template arguments => { C with db := (C.db.handle.get c d template arguments C.db).2 }
  | .close => { C with db := (Database.close C.db).2 }
  | .scanner i u => { C with scanners := C.scanners.modify i (u.run c) }
  | .drop i => C.dropAt i

/-- What one use after the other leaves of a client. -/
def run (c : Catalog) (C : Client δ ρ τ) (uses : List ClientUse) : Client δ ρ τ :=
  uses.foldl (after c) C

/-- **What a client is told of a use.** -/
def answer (c : Catalog) (C : Client δ ρ τ) : ClientUse → Except Error (ClientResult ρ)
  | .query single template arguments =>
    (C.db.handle.query c single template arguments C.db).1.map .scanner
  | .exec template arguments => (C.db.handle.exec c template arguments C.db).1.map .report
  | .select element template arguments =>
    (C.db.handle.select c element template arguments C.db).1.map .destination
  | .get d template arguments =>
    (C.db.handle.get c d template arguments C.db).1.map .destination
  | .close => (Database.close C.db).1.map fun _ => .done
  | .scanner _ _ | .drop _ => .ok .done

/-- What a client is told of one use after the other. -/
def answers (c : Catalog) (C : Client δ ρ τ) : List ClientUse → List (Except Error (ClientResult ρ))
  | [] => []
  | u :: uses => C.answer c u :: (C.after c u).answers c uses

variable (c : Catalog) (C : Client δ ρ τ)

theorem run_concat (uses : List ClientUse) (u : ClientUse) :
    C.run c (uses ++ [u]) = (C.run c uses).after c u := List.foldl_append

/-- **A template that cannot be bound** is not sent: the client is told why, and nothing changes. -/
theorem answer_of_unbound {u : ClientUse} {template : String} {arguments : List Argument}
    (hu : u.sends? = some (template, arguments)) {e : Error}
    (he : C.db.handle.compile c template arguments = .error e) :
    C.answer c u = .error e ∧ C.after c u = C := by
  have hfirst : ∀ (α : Type) (k : Bound → Step (Database δ τ) α),
      (Step.ofExcept (C.db.handle.compile c template arguments) >>= k) C.db = (.error e, C.db) :=
    fun α k => Step.bind_error (by rw [Step.ofExcept, he]) k
  have hquery : ∀ single, C.db.handle.query c single template arguments C.db =
      (.error e, C.db) := fun single => hfirst _ _
  cases u with
  | query single _ _ =>
    cases hu
    rw [answer, after, hquery]
    exact ⟨rfl, rfl⟩
  | exec _ _ =>
    cases hu
    have hexec : C.db.handle.exec c template arguments C.db = (.error e, C.db) := hfirst _ _
    rw [answer, after, hexec]
    exact ⟨rfl, rfl⟩
  | select element _ _ =>
    cases hu
    have hselect : C.db.handle.select c element template arguments C.db = (.error e, C.db) :=
      Step.bind_error (hquery false) _
    rw [answer, after, hselect]
    exact ⟨rfl, rfl⟩
  | get d _ _ =>
    cases hu
    have hget : C.db.handle.get c d template arguments C.db = (.error e, C.db) :=
      Step.bind_error (hquery true) _
    rw [answer, after, hget]
    exact ⟨rfl, rfl⟩
  | close => cases hu
  | scanner i u => cases hu
  | drop i => cases hu

end Runs

end Client

end Rowbind
